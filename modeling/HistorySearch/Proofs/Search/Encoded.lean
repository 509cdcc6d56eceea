-- SUMMARY: A search is told from its JSON text and from its query text.
import HistorySearch.Proofs.Json.RoundTrip
import HistorySearch.Proofs.Text.FormEncoded
import HistorySearch.Search.Exchange

/-!
# Encoded predicates

JSON and query text both name the fields that are present and leave out the others. What is read
of either gives the search again, with an empty text still present, so that different searches
have different texts.
-/

namespace HistorySearch

/-! ## Values by name -/

section ByName

variable {α : Type} (f : String → Option α)

/-- The names that have a value, with it. -/
def present (names : List String) : List (String × α) :=
  names.filterMap fun name => (f name).map (name, ·)

theorem present_cons (name : String) (names : List String) :
    present f (name :: names) = ((f name).map (name, ·)).toList ++ present f names := by
  cases h : f name <;> simp [present, h]

/-- Names with a value are among the names, in the same order. -/
theorem map_fst_present (names : List String) : ((present f names).map Prod.fst).Sublist names := by
  induction names with
  | nil => exact List.nil_sublist []
  | cons name names ih =>
    rw [present_cons, List.map_append]
    cases f name with
    | none => exact ih.cons name
    | some a => exact ih.cons_cons name

/-- A name is looked up as what it was given, also if it was given nothing. -/
theorem lookup_present (names : List String) (name : String) :
    (present f names).lookup name = if name ∈ names then f name else none := by
  induction names with
  | nil => rfl
  | cons other names ih =>
    rw [present_cons]
    by_cases hname : name = other
    · subst hname
      cases hvalue : f name with
      | none =>
        rw [if_pos List.mem_cons_self, Option.map_none, Option.toList_none, List.nil_append, ih,
          hvalue, ite_self]
      | some a => simp
    · have hmem : name ∈ other :: names ↔ name ∈ names := by simp [hname]
      have hother : (name == other) = false := beq_false_of_ne hname
      simp only [hmem, ← ih]
      cases f other with
      | none => rfl
      | some a => simp [List.lookup_cons, hother]

end ByName

namespace Predicate

/-! ## Fields by name -/

variable {α : Type} (text : String → α) (number : Int → α)

/-- The value of a field, given how texts and numbers are encoded. -/
def value? (p : Predicate) : String → Option α
  | "key" => p.key.map text
  | "token_type" => p.tokenType.map fun t => text t.name
  | "ip_address" => p.ipAddress.map text
  | "since" => p.earliest.map number
  | "until" => p.latest.map number
  | _ => none

def numberText (i : Int) : String :=
  String.ofList (Decimal.ofInt i)

theorem toPairs_eq (p : Predicate) : p.toPairs = present (p.value? id numberText) memberNames := by
  simp only [memberNames, present_cons, value?, Option.map_map]
  simp [toPairs, present, Function.comp_def, numberText]

theorem members_eq (p : Predicate) :
    p.members = present (p.value? Json.ofText Json.ofInt) memberNames := by
  simp only [memberNames, present_cons, value?, Option.map_map]
  simp [members, present, Function.comp_def]

theorem lookup_value {p : Predicate} {name : String} (h : name ∈ memberNames) :
    (present (p.value? text number) memberNames).lookup name = p.value? text number name := by
  rw [lookup_present, if_pos h]

/-! ## JSON -/

/-- What a predicate has to satisfy to be one of the search: its bounds fit in 64 bits. -/
structure HasWords (p : Predicate) : Prop where
  earliest : ∀ i ∈ p.earliest, Json.isWord i
  latest : ∀ i ∈ p.latest, Json.isWord i

theorem isWritable_toJson (p : Predicate) : p.toJson.IsWritable := by
  apply Json.isWritable_ofMembers
  intro m hm
  simp only [members, List.mem_append, Option.mem_toList, Option.map_eq_some_iff, or_assoc] at hm
  rcases hm with ⟨s, _, rfl⟩ | ⟨t, _, rfl⟩ | ⟨s, _, rfl⟩ | ⟨i, _, rfl⟩ | ⟨i, _, rfl⟩
  · exact Json.isWritable_ofText s
  · exact Json.isWritable_ofText t.name
  · exact Json.isWritable_ofText s
  · exact Json.isWritable_ofInt i
  · exact Json.isWritable_ofInt i

/-- A field is read as it was written; one that was left out is read as missing. -/
theorem field?_eq {β : Type} {read : Json → Option β} {write : β → Json} {o : Option β}
    {values : List (String × Json)} {name : String} (hlookup : values.lookup name = o.map write)
    (hread : ∀ b ∈ o, read (write b) = some b) (hnull : ∀ b, write b ≠ .null) :
    field? read values name = some o := by
  rw [field?, hlookup]
  cases o with
  | none => rfl
  | some b =>
    rw [Option.map_some]
    split
    · contradiction
    · rename_i heq
      exact absurd (Option.some.inj heq) (hnull b)
    · rename_i heq
      rw [← Option.some.inj heq, hread b rfl, Option.map_some]

/-- No field is written twice. -/
theorem hasNoDuplicate_members (p : Predicate) : hasNoDuplicate p.members := by
  refine List.all_eq_true.mpr fun name hname => decide_eq_true ?_
  have hsublist := map_fst_present (p.value? Json.ofText Json.ofInt) memberNames
  have hcount : p.members.countP (·.1 = name) = (p.members.map Prod.fst).count name := by
    rw [List.count, List.countP_map]
    rfl
  rw [hcount, members_eq]
  have honce : ∀ name ∈ memberNames, memberNames.count name ≤ 1 := by decide
  exact Nat.le_trans (hsublist.count_le name) (honce name hname)

theorem ofValues?_members {p : Predicate} (h : p.HasWords) : ofValues? p.members = some p := by
  have hlookup : ∀ name ∈ memberNames,
      p.members.lookup name = p.value? Json.ofText Json.ofInt name := fun name hname => by
    rw [members_eq, lookup_value _ _ hname]
  have hkey := field?_eq (hlookup "key" (by decide)) (fun s _ => Json.text?_ofText s)
    (fun s => by simp [Json.ofText])
  have hip := field?_eq (hlookup "ip_address" (by decide)) (fun s _ => Json.text?_ofText s)
    (fun s => by simp [Json.ofText])
  have htype : field? TokenType.ofJson? p.members "token_type" = some p.tokenType := by
    apply field?_eq (hlookup "token_type" (by decide)) _ fun t => by simp [Json.ofText]
    intro t _
    have htext : JsonChar.text? (JsonChar.ofText t.name) = some t.name := Json.text?_ofText t.name
    rw [Json.ofText, TokenType.ofJson?, htext, Option.bind_some, TokenType.ofName?_name]
  have hearliest := field?_eq (hlookup "since" (by decide))
    (fun i hi => Json.int?_ofInt (h.earliest i hi)) (fun i => by simp [Json.ofInt])
  have hlatest := field?_eq (hlookup "until" (by decide))
    (fun i hi => Json.int?_ofInt (h.latest i hi)) (fun i => by simp [Json.ofInt])
  rw [ofValues?, hkey, htype, hip, hearliest, hlatest]
  rfl

/-- The value that is written of a search gives the search. -/
theorem ofJson?_toJson {p : Predicate} (h : p.HasWords) : ofJson? p.toJson = some p := by
  have hnames : ∀ ms : List (String × Json),
      (ms.map fun m => (JsonChar.ofText m.1, m.2)).mapM
        (fun m => (JsonChar.text? m.1).map (·, m.2)) = some ms := by
    intro ms
    induction ms with
    | nil => rfl
    | cons m ms ih =>
      have htext : JsonChar.text? (JsonChar.ofText m.1) = some m.1 := Json.text?_ofText m.1
      simp [htext, ih]
  rw [toJson, Json.ofMembers, ofJson?, hnames, Option.bind_eq_bind, Option.bind_some,
    if_pos (hasNoDuplicate_members p), ofValues?_members h]

theorem members_eq_nil_iff (p : Predicate) : p.members = [] ↔ p.isEmpty := by
  obtain ⟨key, tokenType, ipAddress, earliest, latest⟩ := p
  simp [members, isEmpty, empty]

/-- Only the search that finds everything is written as an object without members. -/
theorem compact_toJson_iff (p : Predicate) : p.toJson.compact = "\x7b\x7d" ↔ p.isEmpty := by
  rw [← members_eq_nil_iff]
  constructor
  · intro h
    have hread := Json.read_compact (isWritable_toJson p)
    have hempty : Json.read "\x7b\x7d" = some (.object []) :=
      Json.read_compact (v := .object []) (isWritable_toJson empty)
    rw [h, hempty] at hread
    have hnil := Json.object.inj (Option.some.inj hread)
    exact List.map_eq_nil_iff.mp hnil.symm
  · intro h
    rw [toJson, h]
    rfl

/-! ## Query text -/

/-- The search that has the pairs of a query text for its fields; `none` if a type or a number is
none. -/
def ofPairs? (ps : List FormEncoded.Pair) : Option Predicate := do
  let tokenType ← (ps.lookup "token_type").mapM TokenType.ofName?
  let earliest ← (ps.lookup "since").mapM fun s => Json.integer? s.toList
  let latest ← (ps.lookup "until").mapM fun s => Json.integer? s.toList
  some ⟨ps.lookup "key", tokenType, ps.lookup "ip_address", earliest, latest⟩

theorem mapM_map {β γ : Type} {read : γ → Option β} {write : β → γ}
    (h : ∀ b, read (write b) = some b) (o : Option β) : (o.map write).mapM read = some o := by
  cases o with
  | none => rfl
  | some b => simp [h b]

/-- The pairs of a search give the search. -/
theorem ofPairs?_toPairs (p : Predicate) : ofPairs? p.toPairs = some p := by
  have hlookup : ∀ name ∈ memberNames, p.toPairs.lookup name = p.value? id numberText name :=
    fun name hname => by rw [toPairs_eq, lookup_value _ _ hname]
  have hkey : p.toPairs.lookup "key" = p.key := by
    rw [hlookup "key" (by decide), value?, Option.map_id, id]
  have hip : p.toPairs.lookup "ip_address" = p.ipAddress := by
    rw [hlookup "ip_address" (by decide), value?, Option.map_id, id]
  have htype : (p.toPairs.lookup "token_type").mapM TokenType.ofName? = some p.tokenType := by
    rw [hlookup "token_type" (by decide)]
    exact mapM_map TokenType.ofName?_name p.tokenType
  have hnumber : ∀ o : Option Int,
      (o.map numberText).mapM (fun s => Json.integer? s.toList) = some o :=
    mapM_map fun i => by rw [numberText, String.toList_ofList, Json.integer?_ofInt]
  have hearliest : (p.toPairs.lookup "since").mapM (fun s => Json.integer? s.toList) =
      some p.earliest := by
    rw [hlookup "since" (by decide)]
    exact hnumber p.earliest
  have hlatest : (p.toPairs.lookup "until").mapM (fun s => Json.integer? s.toList) =
      some p.latest := by
    rw [hlookup "until" (by decide)]
    exact hnumber p.latest
  rw [ofPairs?, htype, hearliest, hlatest, hkey, hip]
  rfl

theorem read_toQuery (p : Predicate) : FormEncoded.read p.toQuery = p.toPairs :=
  FormEncoded.read_write p.toPairs

/-- Different searches have different query texts. -/
theorem toQuery_inj {p q : Predicate} (h : q.toQuery = p.toQuery) : q = p := by
  have hpairs : q.toPairs = p.toPairs := by rw [← read_toQuery q, ← read_toQuery p, h]
  have hread := ofPairs?_toPairs q
  rw [hpairs, ofPairs?_toPairs p] at hread
  exact (Option.some.inj hread).symm

theorem toQuery_eq_empty_iff (p : Predicate) : p.toQuery = "" ↔ p.isEmpty := by
  have hempty : empty.toQuery = "" := rfl
  rw [isEmpty, decide_eq_true_eq]
  constructor
  · intro h
    exact toQuery_inj (h.trans hempty.symm)
  · rintro rfl
    exact hempty

/-! ## Nothing is lost -/

/-- What is written of a search tells the search: its JSON text in either form is read as the
search, and its query text as the pairs of the fields that are present, in their order, which give
the search again. Nothing is written exactly of the search that finds everything. -/
theorem encodings_lose_nothing {p : Predicate} (h : p.HasWords) :
    (Json.read p.toJson.compact).bind ofJson? = some p ∧
    (Json.read p.toJson.pretty).bind ofJson? = some p ∧
    FormEncoded.read p.toQuery =
      memberNames.filterMap (fun name => (p.value? id numberText name).map (name, ·)) ∧
    ofPairs? (FormEncoded.read p.toQuery) = some p ∧
    (∀ q : Predicate, q.toQuery = p.toQuery → q = p) ∧
    (p.toQuery = "" ↔ p.isEmpty) ∧ (p.toJson.compact = "\x7b\x7d" ↔ p.isEmpty) := by
  have hjson := ofJson?_toJson h
  have hwritable := isWritable_toJson p
  refine ⟨?_, ?_, ?_, ?_, fun _ => toQuery_inj, toQuery_eq_empty_iff p, compact_toJson_iff p⟩
  · rw [Json.read_compact hwritable, Option.bind_some, hjson]
  · rw [Json.read_pretty hwritable, Option.bind_some, hjson]
  · rw [read_toQuery, toPairs_eq, present]
  · rw [read_toQuery, ofPairs?_toPairs]

/-- A key that is present but empty, an address of special characters, and the least and the
greatest number. -/
theorem encodings_lose_nothing_extreme :
    (Json.read (toJson ⟨some "", some .user, some "\x00\"&=+\n", some (-0x8000000000000000),
        some 0x7FFFFFFFFFFFFFFF⟩).compact).bind ofJson? =
      some ⟨some "", some .user, some "\x00\"&=+\n", some (-0x8000000000000000),
        some 0x7FFFFFFFFFFFFFFF⟩ ∧
      toQuery ⟨some "", none, none, none, none⟩ ≠ "" := by
  have hwords : HasWords ⟨some "", some .user, some "\x00\"&=+\n", some (-0x8000000000000000),
      some 0x7FFFFFFFFFFFFFFF⟩ := ⟨by simp [Json.isWord], by simp [Json.isWord]⟩
  have hkey : HasWords ⟨some "", none, none, none, none⟩ := ⟨nofun, nofun⟩
  refine ⟨(encodings_lose_nothing hwords).1, fun hempty => ?_⟩
  exact absurd ((encodings_lose_nothing hkey).2.2.2.2.2.1.mp hempty) (by decide)

end Predicate

end HistorySearch
