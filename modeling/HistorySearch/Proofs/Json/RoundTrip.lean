-- SUMMARY: Both texts of a JSON value are read as the value.
import Mathlib.Tactic.SplitIfs
import HistorySearch.Proofs.Json.Spelled

/-!
# Written JSON

The compact and the indented text of a value spell the same tokens, and from these the reader
builds the value again. Half of a surrogate pair is left out, since two halves that come together
are read as one character, and so is a number that is none.
-/

namespace HistorySearch

namespace Json

/-! ## Tokens of values -/

mutual

def tokens : Json → List JsonToken
  | null => [.scalar .null]
  | bool b => [.scalar (.bool b)]
  | number literal => [.scalar (.number literal)]
  | string cs => [.string cs]
  | array items => .openArray :: (itemTokens items ++ [.closeArray])
  | object members => .openObject :: (memberTokens members ++ [.closeObject])

def itemTokens : List Json → List JsonToken
  | [] => []
  | [v] => tokens v
  | v :: vs => tokens v ++ .comma :: itemTokens vs

def memberTokens : List (List JsonChar × Json) → List JsonToken
  | [] => []
  | [(name, v)] => .string name :: .colon :: tokens v
  | (name, v) :: ms => .string name :: .colon :: (tokens v ++ .comma :: memberTokens ms)

end

/-- Whether all strings of a value are texts and all its numbers are written as numbers. -/
def IsWritable (v : Json) : Prop :=
  ∀ t ∈ v.tokens, t.IsWritable

/-! ## What the texts spell -/

open JsonToken

theorem ends_of_sign {c : Char} {t : JsonToken} (h : sign? c = some t) (cs : List Char) :
    Ends (c :: cs) := by
  have hsigns : ['\x7b', '\x7d', '[', ']', ',', ':'].all fun d =>
      !isNumberChar d && !d.isAlpha := by
    decide
  rintro d hd
  obtain rfl := Option.some.inj hd
  exact List.all_eq_true.mp hsigns _ (mem_of_sign? h)

mutual

/-- The compact text of a value spells its tokens, whatever comes after it. -/
theorem spelled_compactChars : ∀ (v : Json) {cs : List Char} {ts : List JsonToken},
    (∀ t ∈ v.tokens, t.IsWritable) → Ends cs → Spelled cs ts →
      Spelled (v.compactChars ++ cs) (v.tokens ++ ts)
  | null, _, _, hv, hends, h => .scalar (hv _ List.mem_cons_self) hends h
  | bool _, _, _, hv, hends, h => .scalar (hv _ List.mem_cons_self) hends h
  | number _, _, _, hv, hends, h => .scalar (hv _ List.mem_cons_self) hends h
  | string _, _, _, hv, _, h => .string (hv _ List.mem_cons_self) h
  | array items, cs, ts, hv, _, h => by
    rw [tokens, List.forall_mem_cons, List.forall_mem_append] at hv
    have hclose : Spelled (']' :: cs) (.closeArray :: ts) := .sign rfl h
    have hitems := spelled_compactItems items hv.2.1 (ends_of_sign rfl cs) hclose
    simpa [compactChars, tokens] using Spelled.sign rfl hitems
  | object members, cs, ts, hv, _, h => by
    rw [tokens, List.forall_mem_cons, List.forall_mem_append] at hv
    have hclose : Spelled ('\x7d' :: cs) (.closeObject :: ts) := .sign rfl h
    have hmembers := spelled_compactMembers members hv.2.1 (ends_of_sign rfl cs) hclose
    simpa [compactChars, tokens] using Spelled.sign rfl hmembers

theorem spelled_compactItems : ∀ (vs : List Json) {cs : List Char} {ts : List JsonToken},
    (∀ t ∈ itemTokens vs, t.IsWritable) → Ends cs → Spelled cs ts →
      Spelled (compactItems vs ++ cs) (itemTokens vs ++ ts)
  | [], _, _, _, _, h => h
  | [v], _, _, hv, hends, h => spelled_compactChars v hv hends h
  | v :: w :: vs, cs, ts, hv, hends, h => by
    rw [itemTokens, List.forall_mem_append, List.forall_mem_cons] at hv
    have hrest := spelled_compactItems (w :: vs) hv.2.2 hends h
    have hcomma := Spelled.sign (c := ',') rfl hrest
    have hvalue := spelled_compactChars v hv.1 (ends_of_sign (c := ',') rfl _) hcomma
    simpa [compactItems, itemTokens] using hvalue
    all_goals nofun

theorem spelled_compactMembers : ∀ (ms : List (List JsonChar × Json)) {cs : List Char}
    {ts : List JsonToken}, (∀ t ∈ memberTokens ms, t.IsWritable) → Ends cs → Spelled cs ts →
      Spelled (compactMembers ms ++ cs) (memberTokens ms ++ ts)
  | [], _, _, _, _, h => h
  | [(name, v)], cs, ts, hv, hends, h => by
    rw [memberTokens, List.forall_mem_cons, List.forall_mem_cons] at hv
    have hvalue := spelled_compactChars v hv.2.2 hends h
    have hmember := Spelled.string hv.1 (.sign (c := ':') rfl hvalue)
    simpa [compactMembers, memberTokens] using hmember
  | (name, v) :: m :: ms, cs, ts, hv, hends, h => by
    rw [memberTokens, List.forall_mem_cons, List.forall_mem_cons, List.forall_mem_append,
      List.forall_mem_cons] at hv
    have hrest := spelled_compactMembers (m :: ms) hv.2.2.2.2 hends h
    have hcomma := Spelled.sign (c := ',') rfl hrest
    have hvalue := spelled_compactChars v hv.2.2.1 (ends_of_sign (c := ',') rfl _) hcomma
    have hmember := Spelled.string hv.1 (.sign (c := ':') rfl hvalue)
    simpa [compactMembers, memberTokens] using hmember
    all_goals nofun

end

theorem spelled_newline (depth : Nat) {cs : List Char} {ts : List JsonToken} (h : Spelled cs ts) :
    Spelled (newline depth ++ cs) ts := by
  have hspaces : ∀ n, Spelled (List.replicate n ' ' ++ cs) ts := by
    intro n
    induction n with
    | zero => exact h
    | succ n ih => exact .space rfl ih
  exact .space rfl (hspaces _)

theorem ends_newline (depth : Nat) (cs : List Char) : Ends (newline depth ++ cs) := by
  rintro c hc
  obtain rfl := Option.some.inj hc
  rfl

mutual

/-- So does the indented text, at any depth. -/
theorem spelled_prettyChars : ∀ (depth : Nat) (v : Json) {cs : List Char} {ts : List JsonToken},
    (∀ t ∈ v.tokens, t.IsWritable) → Ends cs → Spelled cs ts →
      Spelled (prettyChars depth v ++ cs) (v.tokens ++ ts)
  | _, null, _, _, hv, hends, h => .scalar (v := null) (hv _ List.mem_cons_self) hends h
  | _, bool b, _, _, hv, hends, h => .scalar (v := bool b) (hv _ List.mem_cons_self) hends h
  | _, number literal, _, _, hv, hends, h =>
    .scalar (v := number literal) (hv _ List.mem_cons_self) hends h
  | _, string _, _, _, hv, _, h => .string (hv _ List.mem_cons_self) h
  | _, array [], _, _, _, _, h => .sign rfl (.sign rfl h)
  | depth, array (v :: vs), cs, ts, hv, _, h => by
    rw [tokens, List.forall_mem_cons, List.forall_mem_append] at hv
    have hclose := spelled_newline depth (.sign (c := ']') rfl h)
    have hitems := spelled_prettyItems (depth + 1) (v :: vs) hv.2.1 (ends_newline _ _) hclose
    simpa [prettyChars, tokens] using Spelled.sign rfl hitems
  | _, object [], _, _, _, _, h => .sign rfl (.sign rfl h)
  | depth, object (m :: ms), cs, ts, hv, _, h => by
    rw [tokens, List.forall_mem_cons, List.forall_mem_append] at hv
    have hclose := spelled_newline depth (.sign (c := '\x7d') rfl h)
    have hmembers := spelled_prettyMembers (depth + 1) (m :: ms) hv.2.1 (ends_newline _ _) hclose
    simpa [prettyChars, tokens] using Spelled.sign rfl hmembers

theorem spelled_prettyItems : ∀ (depth : Nat) (vs : List Json) {cs : List Char}
    {ts : List JsonToken}, (∀ t ∈ itemTokens vs, t.IsWritable) → Ends cs → Spelled cs ts →
      Spelled (prettyItems depth vs ++ cs) (itemTokens vs ++ ts)
  | _, [], _, _, _, _, h => h
  | depth, [v], _, _, hv, hends, h => by
    have hvalue := spelled_newline depth (spelled_prettyChars depth v hv hends h)
    simpa [prettyItems, itemTokens] using hvalue
  | depth, v :: w :: vs, cs, ts, hv, hends, h => by
    rw [itemTokens, List.forall_mem_append, List.forall_mem_cons] at hv
    have hrest := spelled_prettyItems depth (w :: vs) hv.2.2 hends h
    have hcomma := Spelled.sign (c := ',') rfl hrest
    have hvalue := spelled_newline depth
      (spelled_prettyChars depth v hv.1 (ends_of_sign (c := ',') rfl _) hcomma)
    simpa [prettyItems, itemTokens] using hvalue
    all_goals nofun

theorem spelled_prettyMembers : ∀ (depth : Nat) (ms : List (List JsonChar × Json))
    {cs : List Char} {ts : List JsonToken}, (∀ t ∈ memberTokens ms, t.IsWritable) → Ends cs →
      Spelled cs ts → Spelled (prettyMembers depth ms ++ cs) (memberTokens ms ++ ts)
  | _, [], _, _, _, _, h => h
  | depth, [(name, v)], cs, ts, hv, hends, h => by
    rw [memberTokens, List.forall_mem_cons, List.forall_mem_cons] at hv
    have hvalue := spelled_prettyChars depth v hv.2.2 hends h
    have hcolon := Spelled.sign (c := ':') rfl (.space (c := ' ') rfl hvalue)
    have hmember := spelled_newline depth (.string hv.1 hcolon)
    simpa [prettyMembers, memberTokens] using hmember
  | depth, (name, v) :: m :: ms, cs, ts, hv, hends, h => by
    rw [memberTokens, List.forall_mem_cons, List.forall_mem_cons, List.forall_mem_append,
      List.forall_mem_cons] at hv
    have hrest := spelled_prettyMembers depth (m :: ms) hv.2.2.2.2 hends h
    have hcomma := Spelled.sign (c := ',') rfl hrest
    have hvalue := spelled_prettyChars depth v hv.2.2.1 (ends_of_sign (c := ',') rfl _) hcomma
    have hcolon := Spelled.sign (c := ':') rfl (.space (c := ' ') rfl hvalue)
    have hmember := spelled_newline depth (.string hv.1 hcolon)
    simpa [prettyMembers, memberTokens] using hmember
    all_goals nofun

end

/-! ## What the tokens give -/

open JsonReader

/-- No value starts as an array ends. -/
theorem tokens_eq_cons (v : Json) : ∃ t ts, v.tokens = t :: ts ∧ t ≠ .closeArray := by
  cases v <;> exact ⟨_, _, rfl, nofun⟩

/-- The first item of an array is read like the items after it. -/
theorem foldlM_firstItem (v : Json) (stack : List Frame) (us : List JsonToken) :
    (v.tokens ++ us).foldlM step ⟨stack, .firstItem⟩ =
      (v.tokens ++ us).foldlM step ⟨.items [] :: stack, .value⟩ := by
  obtain ⟨t, ts, htokens, hclose⟩ := tokens_eq_cons v
  have hstep : step ⟨stack, .firstItem⟩ t = step ⟨.items [] :: stack, .value⟩ t := by
    cases t with
    | closeArray => contradiction
    | _ => rfl
  rw [htokens, List.cons_append, List.foldlM_cons, List.foldlM_cons, hstep]

/-- The first member of an object is read like the members after it. -/
theorem foldlM_firstName (m : List JsonChar × Json) (ms : List (List JsonChar × Json))
    (stack : List Frame) (us : List JsonToken) :
    (memberTokens (m :: ms) ++ us).foldlM step ⟨stack, .firstName⟩ =
      (memberTokens (m :: ms) ++ us).foldlM step ⟨stack, .nextName []⟩ := by
  cases ms <;> rfl

mutual

/-- Of the tokens of a value the reader makes the value, whatever is open around it. -/
theorem foldlM_tokens : ∀ (v : Json) (stack : List Frame),
    v.tokens.foldlM step ⟨stack, .value⟩ = some ⟨stack, .after v⟩
  | null, _ => rfl
  | bool _, _ => rfl
  | number _, _ => rfl
  | string _, _ => rfl
  | array [], _ => rfl
  | array (v :: vs), stack => by
    have hitems := foldlM_itemTokens (v :: vs) (List.cons_ne_nil v vs) [] stack
    have hfirst : (itemTokens (v :: vs) ++ [closeArray]).foldlM step ⟨stack, .firstItem⟩ =
        (itemTokens (v :: vs) ++ [closeArray]).foldlM step ⟨.items [] :: stack, .value⟩ := by
      cases vs with
      | nil => exact foldlM_firstItem v stack _
      | cons w vs =>
        rw [itemTokens, List.append_assoc]
        · exact foldlM_firstItem v stack _
        · nofun
    rw [tokens, List.foldlM_cons]
    exact hfirst.trans hitems
  | object [], _ => rfl
  | object (m :: ms), stack => by
    have hmembers := foldlM_memberTokens (m :: ms) (List.cons_ne_nil m ms) [] stack
    rw [tokens, List.foldlM_cons]
    exact (foldlM_firstName m ms stack _).trans hmembers

theorem foldlM_itemTokens : ∀ vs : List Json, vs ≠ [] → ∀ (before : List Json)
    (stack : List Frame),
    (itemTokens vs ++ [closeArray]).foldlM step ⟨.items before :: stack, .value⟩ =
      some ⟨stack, .after (.array (before.reverse ++ vs))⟩
  | [], hne, _, _ => absurd rfl hne
  | [v], _, before, stack => by
    rw [itemTokens, List.foldlM_append, foldlM_tokens v (.items before :: stack)]
    simp [step, afterValue]
  | v :: w :: vs, _, before, stack => by
    have hrest := foldlM_itemTokens (w :: vs) (List.cons_ne_nil w vs) (v :: before) stack
    rw [itemTokens, List.append_assoc, List.foldlM_append,
      foldlM_tokens v (.items before :: stack)]
    · simpa [step, afterValue] using hrest
    · nofun

theorem foldlM_memberTokens : ∀ ms : List (List JsonChar × Json), ms ≠ [] →
    ∀ (before : List (List JsonChar × Json)) (stack : List Frame),
    (memberTokens ms ++ [closeObject]).foldlM step ⟨stack, .nextName before⟩ =
      some ⟨stack, .after (.object (before.reverse ++ ms))⟩
  | [], hne, _, _ => absurd rfl hne
  | [(name, v)], _, before, stack => by
    have hvalue := foldlM_tokens v (.members before name :: stack)
    rw [memberTokens, List.cons_append, List.cons_append, List.foldlM_cons]
    simp [step, afterValue, List.foldlM_append, hvalue]
  | (name, v) :: n :: ms, _, before, stack => by
    have hvalue := foldlM_tokens v (.members before name :: stack)
    have hrest := foldlM_memberTokens (n :: ms) (List.cons_ne_nil n ms) ((name, v) :: before) stack
    rw [memberTokens, List.cons_append, List.cons_append, List.foldlM_cons]
    · simpa [step, afterValue, List.foldlM_append, hvalue] using hrest
    · nofun

end

/-! ## Reading of written values -/

/-- Tokens give the value that they are the tokens of. -/
theorem ofTokens?_tokens (v : Json) : ofTokens? v.tokens = some v := by
  rw [ofTokens?, start, foldlM_tokens v []]
  rfl

theorem read_of_spelled {v : Json} {cs : List Char} (h : Spelled cs v.tokens) :
    read (String.ofList cs) = some v := by
  rw [read, String.toList_ofList, h.readAll_eq, Option.bind_some, ofTokens?_tokens]

/-- The compact text of a value is read as the value. -/
theorem read_compact {v : Json} (h : v.IsWritable) : read v.compact = some v := by
  have hspelled : Spelled (v.compactChars ++ []) (v.tokens ++ []) :=
    spelled_compactChars v h nofun .nil
  rw [List.append_nil, List.append_nil] at hspelled
  exact read_of_spelled hspelled

/-- So is the indented one. -/
theorem read_pretty {v : Json} (h : v.IsWritable) : read v.pretty = some v := by
  have hspelled : Spelled (prettyChars 0 v ++ []) (v.tokens ++ []) :=
    spelled_prettyChars 0 v h nofun .nil
  rw [List.append_nil, List.append_nil] at hspelled
  exact read_of_spelled hspelled

/-! ## Texts, integers and members -/

theorem text?_ofText (s : String) : (ofText s).text? = some s := by
  have hchars : ∀ cs : List Char, (cs.map JsonChar.scalar).mapM JsonChar.char? = some cs := by
    intro cs
    induction cs with
    | nil => rfl
    | cons c cs ih => simp [JsonChar.char?, ih]
  rw [ofText, text?, JsonChar.text?, JsonChar.ofText, hchars, Option.map_some,
    String.ofList_toList]

theorem isText_ofText (s : String) : JsonChar.IsText (JsonChar.ofText s) := by
  intro c hc
  obtain ⟨d, _, rfl⟩ := List.mem_map.mp hc
  rfl

theorem isWritable_ofText (s : String) : (ofText s).IsWritable := by
  intro t ht
  obtain rfl := List.mem_singleton.mp ht
  exact isText_ofText s

theorem afterWhole?_digits (n : Nat) : afterWhole? (Decimal.digits n) = some [] := by
  cases hdigits : Decimal.digits n with
  | nil => exact absurd hdigits Nat.toDigits_ne_nil
  | cons d ds =>
    have hall : ∀ c ∈ d :: ds, Decimal.isDigit c := fun c hc =>
      Decimal.isDigit_of_mem_digits (hdigits ▸ hc)
    by_cases hzero : d = '0'
    · subst hzero
      rw [Decimal.digits_of_zero_cons hdigits]
      rfl
    · have hrest : ds.dropWhile Decimal.isDigit = [] :=
        List.dropWhile_eq_nil_iff.mpr fun c hc => hall c (List.mem_cons_of_mem d hc)
      rw [afterWhole?, afterDigits?, if_pos (hall d List.mem_cons_self), hrest]
      rintro cs hcons
      exact hzero (List.cons.inj hcons).1

/-- The digits of a number are one in JSON too, with and without a sign. -/
theorem isNumber_digits (n : Nat) :
    isNumber (Decimal.digits n) ∧ isNumber ('-' :: Decimal.digits n) := by
  have hwhole := afterWhole?_digits n
  constructor
  · unfold isNumber
    dsimp only
    split
    · rename_i rest heq
      exact absurd heq (Decimal.digits_ne_cons rfl rest)
    · rw [hwhole]
      rfl
  · change decide (((afterWhole? (Decimal.digits n)).bind afterFraction?).bind afterExponent? =
      some []) = true
    rw [hwhole]
    rfl

theorem isWritable_ofInt (i : Int) : (ofInt i).IsWritable := by
  intro t ht
  obtain rfl := List.mem_singleton.mp ht
  obtain ⟨hplain, hsigned⟩ := isNumber_digits i.natAbs
  have hdigits : (Decimal.digits i.natAbs).all isNumberChar :=
    List.all_eq_true.mpr fun c hc => by simp [isNumberChar, Decimal.isDigit_of_mem_digits hc]
  change _ ∧ _
  rw [String.toList_ofList, Decimal.ofInt]
  split_ifs
  · exact ⟨Bool.and_eq_true_iff.mpr ⟨rfl, hdigits⟩, hsigned⟩
  · exact ⟨hdigits, hplain⟩

/-- The digits of an integer are read as the integer. -/
theorem integer?_ofInt (i : Int) : integer? (Decimal.ofInt i) = some i := by
  have hall : (Decimal.digits i.natAbs).all Decimal.isDigit :=
    List.all_eq_true.mpr fun c hc => Decimal.isDigit_of_mem_digits hc
  have hvalue := Decimal.value_digits i.natAbs
  rw [Decimal.ofInt]
  split_ifs with hnegative
  · have hne : i.natAbs ≠ 0 := by omega
    have hself : -(i.natAbs : Int) = i := by omega
    rw [integer?, if_pos ⟨hall, by rwa [hvalue]⟩, hvalue, hself]
  · have hself : (i.natAbs : Int) = i := by omega
    rw [integer?, if_pos hall, hvalue, hself]
    exact fun ds => Decimal.digits_ne_cons rfl ds

theorem int?_ofInt {i : Int} (h : isWord i) : (ofInt i).int? = some i := by
  rw [ofInt, int?, String.toList_ofList, integer?_ofInt, Option.filter_some, if_pos h]

/-- An object can be written if its members can. -/
theorem isWritable_ofMembers {ms : List (String × Json)} (h : ∀ m ∈ ms, m.2.IsWritable) :
    (ofMembers ms).IsWritable := by
  have hmembers : ∀ t ∈ memberTokens (ms.map fun m => (JsonChar.ofText m.1, m.2)),
      t.IsWritable := by
    induction ms with
    | nil => nofun
    | cons m ms ih =>
      have hvalue := h m List.mem_cons_self
      have hrest := ih fun n hn => h n (List.mem_cons_of_mem _ hn)
      cases ms with
      | nil =>
        rw [List.map_cons, List.map_nil, memberTokens, List.forall_mem_cons, List.forall_mem_cons]
        exact ⟨isText_ofText m.1, trivial, hvalue⟩
      | cons n ms =>
        rw [List.map_cons, List.map_cons, memberTokens, List.forall_mem_cons, List.forall_mem_cons,
          List.forall_mem_append, List.forall_mem_cons]
        · exact ⟨isText_ofText m.1, trivial, hvalue, trivial, hrest⟩
        · nofun
  rw [IsWritable, ofMembers, tokens, List.forall_mem_cons, List.forall_mem_append]
  exact ⟨trivial, hmembers, List.forall_mem_singleton.mpr trivial⟩

end Json

end HistorySearch
