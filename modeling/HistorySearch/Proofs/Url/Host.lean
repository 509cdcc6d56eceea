-- SUMMARY: The host of a web URL is read as it is written.
import HistorySearch.Proofs.Text.Percent
import HistorySearch.Proofs.Url.Address
import HistorySearch.Proofs.Url.Path
import HistorySearch.Url.Parser

/-!
# Written hosts

A domain name of ASCII characters is kept in small letters and is not changed in any other way: it
has nothing to compose, and labels that stand for others are kept as they are. So what such a host
is read as is written with no sign that would end it, and it is read as the same host.
-/

namespace HistorySearch

/-! ## Composed texts -/

namespace Composed

variable {c : Char}

theorem takeApart_of_lt (h : c.toNat < 0x80) (n : Nat) : takeApart n c = [c] := by
  have hparts : ∀ p ∈ parts, ¬p.1 = c.toNat := by
    have hall : parts.all (0x80 ≤ ·.1) := by decide +kernel
    intro p hp
    have hcode := of_decide_eq_true (List.all_eq_true.mp hall p hp)
    omega
  cases n with
  | zero => rfl
  | succ n =>
    rw [takeApart, List.find?_eq_none.mpr fun p hp => by simpa using hparts p hp]

/-- No ASCII character is a mark. -/
theorem classIn?_of_lt (h : c.toNat < 0x80) :
    Mark.classIn? Mark.nonspacing c = none ∧ Mark.classIn? Mark.spacing c = none := by
  have hnone : ∀ table : List (Nat × Nat × Nat), table.all (0x80 ≤ ·.1) →
      Mark.classIn? table c = none := by
    intro table hall
    rw [Mark.classIn?, List.find?_eq_none.mpr, Option.map_none]
    intro r hr
    have hcode := of_decide_eq_true (List.all_eq_true.mp hall r hr)
    simp only [Bool.and_eq_true, decide_eq_true_eq]
    omega
  exact ⟨hnone _ (by decide +kernel), hnone _ (by decide +kernel)⟩

theorem combiningClass_of_lt (h : c.toNat < 0x80) : Mark.combiningClass c = 0 := by
  obtain ⟨hnonspacing, hspacing⟩ := classIn?_of_lt h
  rw [Mark.combiningClass, hnonspacing, hspacing]
  rfl

theorem inOrder_of_lt {cs : List Char} (h : ∀ c ∈ cs, c.toNat < 0x80) : inOrder cs = cs := by
  induction cs with
  | nil => rfl
  | cons c cs ih =>
    have hrest := ih fun d hd => h d (List.mem_cons_of_mem _ hd)
    have hstep : inOrder (c :: cs) = insertMark c (inOrder cs) := rfl
    rw [hstep, hrest]
    cases cs with
    | nil => rfl
    | cons d ds =>
      have hclass := combiningClass_of_lt (h d (by simp))
      rw [insertMark, if_neg (by simp [hclass])]

/-- No character is put together with an ASCII character after it. -/
theorem pair?_of_lt (first : Char) (h : c.toNat < 0x80) : pair? first c = none := by
  have hparts : parts.find? (fun p => p.2.1 = first.toNat && p.2.2 = c.toNat) = none := by
    have hall : parts.all (0x80 ≤ ·.2.2) := by decide +kernel
    refine List.find?_eq_none.mpr fun p hp => ?_
    have hcode := of_decide_eq_true (List.all_eq_true.mp hall p hp)
    simp only [Bool.and_eq_true, decide_eq_true_eq]
    omega
  have hsyllable : syllable? first.toNat c.toNat = none := by
    rw [syllable?, if_neg (by omega), if_neg (by omega)]
  rw [pair?, hparts, hsyllable]
  rfl

theorem putTogether_of_lt (first : Char) {cs : List Char} (h : ∀ c ∈ cs, c.toNat < 0x80) :
    putTogether first [] cs = first :: cs := by
  induction cs generalizing first with
  | nil => rfl
  | cons c cs ih =>
    have hc := h c List.mem_cons_self
    have hrest := ih c fun d hd => h d (List.mem_cons_of_mem _ hd)
    rw [putTogether]
    simp [blocks, pair?_of_lt first hc, combiningClass_of_lt hc, hrest]

/-- A text of ASCII characters is composed. -/
theorem compose_of_lt {cs : List Char} (h : ∀ c ∈ cs, c.toNat < 0x80) : compose cs = cs := by
  have hapart : cs.flatMap (takeApart depth) = cs := by
    have hsingle : ∀ c ∈ cs, takeApart depth c = [c] := fun c hc => takeApart_of_lt (h c hc) depth
    rw [List.flatMap_def, List.map_congr_left hsingle, ← List.flatMap_def,
      List.flatMap_singleton']
  rw [compose, hapart, inOrder_of_lt h]
  cases cs with
  | nil => rfl
  | cons c cs => exact putTogether_of_lt c fun d hd => h d (List.mem_cons_of_mem _ hd)

end Composed

/-! ## Domain names -/

namespace DomainName

variable {cs domain : List Char}

theorem toLower_of_lt {c : Char} (h : c.toNat < 0x80) :
    c.toLower.toNat < 0x80 ∧ c.toLower.toLower = c.toLower :=
  of_ascii (P := fun c => c.toLower.toNat < 0x80 ∧ c.toLower.toLower = c.toLower) (by decide) h

/-- ASCII characters are written in small letters. -/
theorem mapM_written? (h : ∀ c ∈ cs, c.toNat < 0x80) :
    cs.mapM written? = some (cs.map fun c => [c.toLower]) := by
  refine mapM_eq_some_iff.mpr ?_
  rw [List.map_map]
  refine List.map_congr_left fun c hc => ?_
  exact if_pos (decide_eq_true (h c hc))

/-- A label of ASCII characters is its own ASCII form, also if it stands for another text. -/
theorem Label.ascii_of_ofText? {l : Label} (hcs : ∀ c ∈ cs, c.toNat < 0x80)
    (h : ofText? cs = some l) : l.ascii = cs := by
  unfold ofText? at h
  split at h
  · rename_i code
    unfold ofAscii? at h
    dsimp only at h
    split at h
    · contradiction
    · obtain ⟨text, _, h⟩ := Option.bind_eq_some_iff.mp h
      split at h
      · cases h
        rfl
      · contradiction
  · have hplain : cs.all Punycode.isPlain := List.all_eq_true.mpr fun c hc => decide_eq_true (hcs c hc)
    rw [if_pos hplain] at h
    cases h
    rfl

/-- Whether labels can stand beside each other in a name. -/
def areValid (labels : List Label) : Bool :=
  labels.all Label.isValid && areSteady labels

theorem lt_of_mem_map_toLower (h : ∀ c ∈ cs, c.toNat < 0x80) :
    ∀ c ∈ cs.map Char.toLower, c.toNat < 0x80 := by
  intro c hc
  obtain ⟨d, hd, rfl⟩ := List.mem_map.mp hc
  exact (toLower_of_lt (h d hd)).1

theorem lt_of_mem_splitOn (h : ∀ c ∈ cs, c.toNat < 0x80) {part : List Char}
    (hpart : part ∈ cs.splitOn '.') : ∀ c ∈ part, c.toNat < 0x80 :=
  fun c hc => h c (Path.of_mem_splitOnP hpart hc).1

/-- A name of ASCII characters is written in small letters, if it is one. -/
theorem ascii?_of_lt (h : ∀ c ∈ cs, c.toNat < 0x80) :
    ascii? cs =
      if (cs.map Char.toLower).any isForbidden then none
      else (((cs.map Char.toLower).splitOn '.').mapM Label.ofText?).bind fun labels =>
        if areValid labels then some (cs.map Char.toLower) else none := by
  have hlower := lt_of_mem_map_toLower h
  have hflat : (cs.map fun c => [c.toLower]).flatten = cs.map Char.toLower := by
    rw [← List.flatMap_def]
    exact List.map_eq_flatMap.symm
  unfold ascii?
  rw [mapM_written? h]
  simp only [Option.bind_eq_bind, Option.bind_some, hflat, Composed.compose_of_lt hlower]
  split
  · rfl
  · refine Option.bind_congr fun labels hlabels => ?_
    have hascii : labels.map Label.ascii = (cs.map Char.toLower).splitOn '.' :=
      map_eq_of_mapM hlabels fun part hpart _ hread =>
        Label.ascii_of_ofText? (lt_of_mem_splitOn hlower hpart) hread
    have hjoined : (((cs.map Char.toLower).splitOn '.').intersperse ['.']).flatten =
        cs.map Char.toLower := List.intercalate_splitOn '.'
    rw [hascii, hjoined]
    rfl

/-- The name that was read is read again as it is. -/
theorem ascii?_ascii (h : ∀ c ∈ cs, c.toNat < 0x80) (hread : ascii? cs = some domain) :
    ascii? domain = some domain ∧ ∀ c ∈ domain, isForbidden c = false := by
  have hlower := lt_of_mem_map_toLower h
  have htwice : (cs.map Char.toLower).map Char.toLower = cs.map Char.toLower := by
    rw [List.map_map]
    exact List.map_congr_left fun c hc => (toLower_of_lt (h c hc)).2
  have hagain : ascii? (cs.map Char.toLower) = ascii? cs := by
    rw [ascii?_of_lt hlower, htwice, ascii?_of_lt h]
  have hparts := hread
  rw [ascii?_of_lt h] at hparts
  split at hparts
  · contradiction
  · rename_i hallowed
    obtain ⟨labels, _, hdomain⟩ := Option.bind_eq_some_iff.mp hparts
    split at hdomain
    · obtain rfl := Option.some.inj hdomain
      exact ⟨hagain.trans hread, by simpa using hallowed⟩
    · contradiction

/-! ## Numbers as names -/

/-- No ASCII character is a mark or joins or parts others. -/
theorem isValid_of_lt {l : Label} (h : ∀ c ∈ l.text, c.toNat < 0x80) : l.isValid := by
  have hallowed : ∀ before, Joining.allAllowed before l.text := by
    generalize l.text = cs at h
    induction cs with
    | nil => exact fun _ => rfl
    | cons c cs ih =>
      intro before
      have hc := h c List.mem_cons_self
      have hplain : c ≠ Joining.parting ∧ c ≠ Joining.joining := by
        constructor <;> rintro rfl <;> exact absurd hc (by decide)
      rw [Joining.allAllowed, Joining.isAllowed, if_neg hplain.1, if_neg hplain.2]
      exact ih (fun d hd => h d (List.mem_cons_of_mem _ hd)) _
  have hmark : ∀ c ∈ l.text.head?, Mark.isMark c = false := by
    intro c hc
    obtain ⟨hnonspacing, hspacing⟩ := Composed.classIn?_of_lt (h c (List.mem_of_mem_head? hc))
    simp [Mark.isMark, Mark.isNonspacing, hnonspacing, hspacing]
  rw [Label.isValid, hallowed]
  cases hhead : l.text.head? with
  | none => rfl
  | some c => simp [hmark c hhead]

/-- The characters of addresses in four numbers. -/
def isNumeric (c : Char) : Bool :=
  Decimal.isDigit c || c = '.'

theorem isNumeric_lt {c : Char} (h : isNumeric c) : c.toNat < 0x80 := by
  simp only [isNumeric, Decimal.isDigit, Bool.or_eq_true, Bool.and_eq_true, decide_eq_true_eq,
    Char.le_def, UInt32.le_iff_toNat_le] at h
  rcases h with h | rfl
  · have hle : c.toNat ≤ 57 := h.2
    omega
  · decide

theorem of_isNumeric {c : Char} (h : isNumeric c) :
    c.toLower = c ∧ isForbidden c = false ∧ (Direction.ofChar c).isLeftward = false ∧ c ≠ 'x' := by
  have hlt := isNumeric_lt h
  revert h
  exact of_ascii (P := fun c => isNumeric c → c.toLower = c ∧ isForbidden c = false ∧
    (Direction.ofChar c).isLeftward = false ∧ c ≠ 'x') (by decide +kernel) hlt

theorem ofText?_of_isNumeric (h : ∀ c ∈ cs, isNumeric c) : Label.ofText? cs = some ⟨cs, cs⟩ := by
  have hplain : cs.all Punycode.isPlain :=
    List.all_eq_true.mpr fun c hc => decide_eq_true (isNumeric_lt (h c hc))
  unfold Label.ofText?
  split
  · exact absurd rfl (of_isNumeric (h 'x' (by simp))).2.2.2
  · exact if_pos hplain

/-- Digits and dots are a name that is kept as it is. -/
theorem ascii?_of_isNumeric (h : ∀ c ∈ cs, isNumeric c) : ascii? cs = some cs := by
  have hlower : cs.map Char.toLower = cs := by
    rw [List.map_congr_left fun c hc => (of_isNumeric (h c hc)).1, List.map_id']
  have hallowed : cs.any isForbidden = false := by
    simpa using fun c hc => (of_isNumeric (h c hc)).2.1
  have hpart : ∀ part ∈ cs.splitOn '.', ∀ c ∈ part, isNumeric c :=
    fun part hpart c hc => h c (Path.of_mem_splitOnP hpart hc).1
  have hread : (cs.splitOn '.').mapM Label.ofText? =
      some ((cs.splitOn '.').map fun part => ⟨part, part⟩) := by
    rw [mapM_eq_some_iff, List.map_map]
    exact List.map_congr_left fun part hmem => ofText?_of_isNumeric (hpart part hmem)
  have hvalid : areValid ((cs.splitOn '.').map fun part => ⟨part, part⟩) := by
    have heach : ((cs.splitOn '.').map fun part => (⟨part, part⟩ : Label)).all Label.isValid := by
      simpa using fun part hmem =>
        isValid_of_lt (l := ⟨part, part⟩) fun c hc => isNumeric_lt (hpart part hmem c hc)
    have hsteady : areSteady ((cs.splitOn '.').map fun part => ⟨part, part⟩) := by
      have hrightward : ∀ part ∈ cs.splitOn '.', ∀ c ∈ part,
          (Direction.ofChar c).isLeftward = false :=
        fun part hmem c hc => (of_isNumeric (hpart part hmem c hc)).2.2.1
      simp only [areSteady, Label.directions, List.any_map, Bool.or_eq_true, Bool.not_eq_true']
      exact .inl (by simpa using hrightward)
    rw [areValid, heach, hsteady]
    rfl
  rw [ascii?_of_lt fun c hc => isNumeric_lt (h c hc), hlower, hallowed, if_neg nofun, hread,
    Option.bind_some, if_pos hvalid]

end DomainName

/-! ## Hosts -/

theorem Url.hostChars_append {cs rest : List Char} (h : ∀ c ∈ cs, c ≠ ':' ∧ c ≠ '[' ∧ c ≠ ']')
    (hrest : ∀ c ∈ rest.head?, c = ':') : hostChars false (cs ++ rest) = cs := by
  induction cs with
  | nil =>
    cases rest with
    | nil => rfl
    | cons c cs =>
      obtain rfl := hrest c rfl
      rfl
  | cons c cs ih =>
    obtain ⟨hcolon, hopening, hclosing⟩ := h c List.mem_cons_self
    rw [List.cons_append, hostChars, if_neg (by simp [hcolon]), if_neg hopening, if_neg hclosing,
      ih fun d hd => h d (List.mem_cons_of_mem _ hd)]

/-- Colons within brackets belong to the host. -/
theorem Url.hostChars_bracketed {cs rest : List Char} (h : ∀ c ∈ cs, c ≠ '[' ∧ c ≠ ']')
    (hrest : ∀ c ∈ rest.head?, c = ':') :
    hostChars true (cs ++ ']' :: rest) = cs ++ [']'] := by
  induction cs with
  | nil =>
    have hend : hostChars false ([] ++ rest) = [] := hostChars_append (by simp) hrest
    rw [List.nil_append] at hend
    rw [List.nil_append, List.nil_append, hostChars, if_neg (by simp), if_neg (by decide),
      if_pos rfl, hend]
  | cons c cs ih =>
    obtain ⟨hopening, hclosing⟩ := h c List.mem_cons_self
    rw [List.cons_append, hostChars, if_neg (by simp), if_neg hopening, if_neg hclosing,
      ih fun d hd => h d (List.mem_cons_of_mem _ hd), List.cons_append]

namespace Host

/-- A character that may stand in a host without ending it and that is not left out. -/
def isInner (c : Char) : Bool :=
  0x20 < c.toNat && !("#/?@\\".toList.contains c)

/-- A host that is read as it is written, up to the colon of a port. -/
structure IsSettled (h : Host) : Prop where
  reads : parseWeb h.toChars = .ok h
  whole : ∀ rest : List Char, (∀ c ∈ rest.head?, c = ':') →
    Url.hostChars false (h.toChars ++ rest) = h.toChars
  inner : ∀ c ∈ h.toChars, isInner c

/-- Text without percent signs has nothing to decode. -/
theorem decode_of_not_mem {cs : List Char} (h : '%' ∉ cs) :
    Utf8.decode (Percent.decode (Utf8.encode cs)) = cs := by
  have hpercent : (0x25 : UInt8) ∉ Utf8.encode cs := by
    intro hmem
    exact h ((Utf8.mem_encode_iff (d := '%') (by decide)).mp hmem)
  have hdecode := Percent.decode_append_of_not_mem hpercent []
  rw [List.append_nil, show Percent.decode [] = [] from rfl, List.append_nil] at hdecode
  rw [hdecode, Utf8.decode_encode]

/-- The host that a domain name stands for. -/
inductive IsNamed (domain : List Char) : Host → Prop
  | ipv4 {address : Nat} (hnumber : Ipv4.endsInNumber domain)
      (h : Ipv4.parse? domain = some address) : IsNamed domain (ipv4 address)
  | name (hword : Ipv4.endsInNumber domain = false) :
      IsNamed domain (name (String.ofList domain))

/-- Without brackets and percent signs a host is that of a domain name. -/
theorem parseWeb_eq_ok_iff {cs : List Char} {h : Host} (hbracket : cs.head? ≠ some '[')
    (hpercent : '%' ∉ cs) :
    parseWeb cs = .ok h ↔
      ∃ domain, DomainName.ascii? cs = some domain ∧ domain ≠ [] ∧ IsNamed domain h := by
  rw [parseWeb, if_neg hbracket, decode_of_not_mem hpercent]
  constructor
  · intro hread
    split at hread
    · contradiction
    · rename_i domain hascii
      refine ⟨domain, hascii, ?_⟩
      split at hread
      · contradiction
      · rename_i hnonempty
        refine ⟨by simpa using hnonempty, ?_⟩
        split at hread
        · rename_i hnumber
          split at hread
          · rename_i haddress
            cases hread
            exact .ipv4 hnumber haddress
          · contradiction
        · rename_i hword
          cases hread
          exact .name (by simpa using hword)
  · rintro ⟨domain, hascii, hnonempty, hnamed⟩
    simp only [hascii, List.isEmpty_eq_false_iff.mpr hnonempty]
    cases hnamed with
    | ipv4 hnumber h => simp [hnumber, h]
    | name hword => simp [hword]

theorem isSettled_ipv6 {pieces : List Nat} (h : Ipv6.IsAddress pieces) :
    IsSettled (ipv6 pieces) where
  reads := by
    have hinside : ('[' :: Ipv6.write pieces ++ [']']).dropLast.drop 1 = Ipv6.write pieces := by
      rw [List.dropLast_concat]
      rfl
    have hbracket : ('[' :: Ipv6.write pieces ++ [']']).head? = some '[' := rfl
    rw [toChars, parseWeb, if_pos hbracket, parseBracketed, if_pos List.getLast?_concat, hinside,
      Ipv6.parse?_write h]
  whole rest hrest := by
    have hbrackets : ∀ c ∈ Ipv6.write pieces, c ≠ '[' ∧ c ≠ ']' := by
      intro c hc
      have hdigits : ∀ m : Fin 16, Nat.digitChar m ≠ '[' ∧ Nat.digitChar m ≠ ']' := by decide
      rcases Ipv6.of_mem_write hc with rfl | ⟨m, hm, rfl⟩
      · decide
      · exact hdigits ⟨m, hm⟩
    have hchars : (ipv6 pieces).toChars ++ rest = '[' :: (Ipv6.write pieces ++ ']' :: rest) := by
      simp [toChars]
    rw [hchars, Url.hostChars, if_neg (by simp), if_pos rfl,
      Url.hostChars_bracketed hbrackets hrest]
    rfl
  inner c hc := by
    have hdigits : ∀ m : Fin 16, isInner (Nat.digitChar m) := by decide
    rw [toChars, List.mem_append, List.mem_cons, List.mem_singleton] at hc
    rcases hc with (rfl | hc) | rfl
    · decide
    · rcases Ipv6.of_mem_write hc with rfl | ⟨m, hm, rfl⟩
      · decide
      · exact hdigits ⟨m, hm⟩
    · decide

theorem isInner_of_isForbidden {c : Char} (h : DomainName.isForbidden c = false) : isInner c := by
  have hne : ∀ d, DomainName.isForbidden d → c ≠ d := fun d hd => (ne_of_holds hd h).symm
  have hvisible : 0x20 < c.toNat := by
    simp only [DomainName.isForbidden, Bool.or_eq_false_iff, decide_eq_false_iff_not] at h
    omega
  have hhash := hne '#' (by decide)
  have hslash := hne '/' (by decide)
  have hquestion := hne '?' (by decide)
  have hat := hne '@' (by decide)
  have hback := hne '\\' (by decide)
  simp [isInner, hvisible, hhash, hslash, hquestion, hat, hback]

/-- A host is settled if it is written as a domain name that stands for it. -/
theorem isSettled_of_isNamed {h : Host} {domain : List Char}
    (hascii : DomainName.ascii? h.toChars = some domain) (hnonempty : domain ≠ [])
    (hnamed : IsNamed domain h)
    (hallowed : ∀ c ∈ h.toChars, DomainName.isForbidden c = false) : IsSettled h := by
  have hne : ∀ c ∈ h.toChars, ∀ d, DomainName.isForbidden d → c ≠ d :=
    fun c hc d hd => (ne_of_holds hd (hallowed c hc)).symm
  refine ⟨?_, fun rest hrest => ?_, fun c hc => isInner_of_isForbidden (hallowed c hc)⟩
  · refine (parseWeb_eq_ok_iff ?_ ?_).mpr ⟨domain, hascii, hnonempty, hnamed⟩
    · intro hbracket
      exact hne _ (List.mem_of_mem_head? hbracket) '[' (by decide) rfl
    · intro hpercent
      exact hne _ hpercent '%' (by decide) rfl
  · refine Url.hostChars_append (fun c hc => ?_) hrest
    exact ⟨hne c hc ':' (by decide), hne c hc '[' (by decide), hne c hc ']' (by decide)⟩

/-- What an ASCII host without percent signs is read as is settled. -/
theorem isSettled_of_parseWeb {cs : List Char} {h : Host}
    (hplain : ∀ c ∈ cs, c.toNat < 0x80 ∧ c ≠ '%') (hread : parseWeb cs = .ok h) :
    h.IsSettled := by
  by_cases hbracket : cs.head? = some '['
  · rw [parseWeb, if_pos hbracket, parseBracketed] at hread
    split at hread
    · split at hread
      · rename_i hpieces
        cases hread
        exact isSettled_ipv6 (Ipv6.isAddress_of_parse? hpieces)
      · contradiction
    · contradiction
  · have hpercent : '%' ∉ cs := fun hmem => (hplain _ hmem).2 rfl
    obtain ⟨domain, hascii, hnonempty, hnamed⟩ := (parseWeb_eq_ok_iff hbracket hpercent).mp hread
    obtain ⟨hagain, hallowed⟩ := DomainName.ascii?_ascii (fun c hc => (hplain c hc).1) hascii
    cases hnamed with
    | ipv4 hnumber haddress =>
      rename_i address
      have hnumeric : ∀ c ∈ Ipv4.write address, DomainName.isNumeric c := by
        intro c hc
        simpa [DomainName.isNumeric] using Ipv4.of_mem_write hc
      have hwritten : Ipv4.write address ≠ [] := by
        intro hnil
        have hends := Ipv4.endsInNumber_write address
        rw [hnil] at hends
        contradiction
      have hagain := Ipv4.parse?_write (Ipv4.parse?_lt haddress)
      exact isSettled_of_isNamed (DomainName.ascii?_of_isNumeric hnumeric) hwritten
        (.ipv4 (Ipv4.endsInNumber_write address) hagain)
        fun c hc => (DomainName.of_isNumeric (hnumeric c hc)).2.1
    | name hword =>
      have hchars : (name (String.ofList domain)).toChars = domain := String.toList_ofList
      exact isSettled_of_isNamed (hchars.symm ▸ hagain) hnonempty (.name hword)
        (hchars.symm ▸ hallowed)

theorem IsSettled.toChars_ne_nil {h : Host} (hsettled : h.IsSettled) : h.toChars ≠ [] := by
  intro hnil
  have hreads := hsettled.reads
  rw [hnil] at hreads
  obtain ⟨domain, hascii, hnonempty, _⟩ := (parseWeb_eq_ok_iff (by simp) (by simp)).mp hreads
  rw [DomainName.ascii?_of_isNumeric (by simp)] at hascii
  exact hnonempty (Option.some.inj hascii).symm

end Host

end HistorySearch
