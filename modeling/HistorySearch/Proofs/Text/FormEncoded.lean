-- SUMMARY: Reading form-urlencoded text gives back the pairs that were written.
import HistorySearch.Proofs.Text.Percent
import HistorySearch.Text.FormEncoded

/-!
# Form-urlencoded text

Written text is ASCII in which `&` and `=` stand only between names and values. A piece of it can
therefore be taken apart as characters or as octets alike, and each name and value is read back.
-/

namespace HistorySearch

/-! ## Pieces of expanded lists -/

/-- Lists with a separator between them have no other elements. -/
theorem eq_or_mem_of_mem_intercalate {α : Type} {x a : α} {xss : List (List α)}
    (h : x ∈ [a].intercalate xss) : x = a ∨ ∃ xs ∈ xss, x ∈ xs := by
  induction xss with
  | nil => simp at h
  | cons xs xss ih =>
    cases xss with
    | nil => exact .inr ⟨xs, List.mem_cons_self, by simpa using h⟩
    | cons ys yss =>
      rw [List.intercalate_cons_cons, List.mem_append, List.mem_append, List.mem_singleton] at h
      rcases h with (h | h) | h
      · exact .inr ⟨xs, List.mem_cons_self, h⟩
      · exact .inl h
      · obtain hsep | ⟨zs, hzs, hx⟩ := ih h
        · exact .inl hsep
        · exact .inr ⟨zs, List.mem_cons_of_mem _ hzs, hx⟩

section Pieces

variable {α β : Type} [DecidableEq α] [DecidableEq β] {f : α → List β} {a : α} {b : β}

theorem splitOn_append_of_not_mem {xs : List β} (h : b ∉ xs) (ys : List β) :
    (xs ++ ys).splitOn b = (ys.splitOn b).modifyHead (xs ++ ·) := by
  induction xs with
  | nil => cases hy : ys.splitOn b <;> simp [hy]
  | cons x xs ih =>
    have hx : x ≠ b := fun e => h (by simp [e])
    have hxs : b ∉ xs := fun m => h (by simp [m])
    rw [List.cons_append, List.splitOn_cons_eq_if_modifyHead, if_neg (by simpa using hx), ih hxs,
      List.modifyHead_modifyHead]
    rfl

/-- If only the separator becomes the separator, the pieces of an expanded list are the expanded
pieces. -/
theorem splitOn_flatMap (hsep : f a = [b]) (hne : ∀ x, x ≠ a → b ∉ f x) (xs : List α) :
    (xs.flatMap f).splitOn b = (xs.splitOn a).map (·.flatMap f) := by
  induction xs with
  | nil => simp
  | cons x xs ih =>
    rw [List.splitOn_cons_eq_if_modifyHead, List.flatMap_cons]
    by_cases hx : x = a
    · subst hx
      rw [hsep, List.singleton_append, List.splitOn_cons_eq_if_modifyHead, ih]
      simp
    · rw [splitOn_append_of_not_mem (hne x hx), ih, if_neg (by simpa using hx)]
      cases xs.splitOn a <;> simp

theorem takeWhile_flatMap (hsep : f a = [b]) (hne : ∀ x, x ≠ a → b ∉ f x) (xs : List α) :
    (xs.flatMap f).takeWhile (· != b) = (xs.takeWhile (· != a)).flatMap f := by
  induction xs with
  | nil => rfl
  | cons x xs ih =>
    rw [List.flatMap_cons]
    by_cases hx : x = a
    · subst hx
      simp [hsep]
    · rw [List.takeWhile_append_of_pos (by have := hne x hx; grind), ih]
      simp [hx]

theorem dropWhile_flatMap (hsep : f a = [b]) (hne : ∀ x, x ≠ a → b ∉ f x) (xs : List α) :
    (xs.flatMap f).dropWhile (· != b) = (xs.dropWhile (· != a)).flatMap f := by
  induction xs with
  | nil => rfl
  | cons x xs ih =>
    rw [List.flatMap_cons]
    by_cases hx : x = a
    · subst hx
      simp [hsep]
    · rw [List.dropWhile_append_of_pos (by have := hne x hx; grind), ih]
      simp [hx]

/-- What is left from a separator on starts with it. -/
theorem eq_of_dropWhile_cons {x : α} {xs rest : List α} (h : xs.dropWhile (· != a) = x :: rest) :
    x = a := by
  have hhead := List.head_dropWhile_not (p := (· != a)) (l := xs) (by simp [h])
  simpa [h] using hhead

end Pieces

namespace FormEncoded

/-! ## What is written -/

theorem isPlain_lt {c : Char} (h : isPlain c) : c.toNat < 0x80 := by
  simp only [isPlain, Bool.or_eq_true, decide_eq_true_eq] at h
  rcases h with (((h | rfl) | rfl) | rfl) | rfl
  · exact isAlphanum_lt h
  all_goals decide

theorem isPlain_ne {c d : Char} (h : isPlain c) (hd : !isPlain d) : c ≠ d := by
  rintro rfl
  simp [h] at hd

/-- A name or a value is written with plain characters, `+` and `%`. -/
theorem mem_encode {cs : List Char} {d : Char} (h : d ∈ encode cs) :
    isPlain d ∨ d = '+' ∨ d = '%' := by
  obtain ⟨c, _, hd⟩ := List.mem_flatMap.mp h
  unfold encodeChar at hd
  split_ifs at hd with hplain hspace
  · exact .inl (List.mem_singleton.mp hd ▸ hplain)
  · exact .inr (.inl (List.mem_singleton.mp hd))
  · rcases Percent.mem_char hd with rfl | hd
    · exact .inr (.inr rfl)
    · exact .inl (by simp [isPlain, hd])

theorem not_mem_encode {d : Char} (hplain : !isPlain d) (hplus : d ≠ '+') (hpercent : d ≠ '%')
    (cs : List Char) : d ∉ encode cs := by
  intro h
  rcases mem_encode h with h | h | h
  · simp [h] at hplain
  · exact hplus h
  · exact hpercent h

/-- The characters of form-urlencoded text. -/
def isWritten (c : Char) : Bool :=
  isPlain c || c = '+' || c = '%' || c = '&' || c = '='

theorem isWritten_of_mem_writePair {p : Pair} {c : Char} (h : c ∈ writePair p) : isWritten c := by
  simp only [writePair, List.mem_append, List.mem_cons] at h
  rcases h with h | rfl | h
  · rcases mem_encode h with h | rfl | rfl <;> simp_all [isWritten]
  · rfl
  · rcases mem_encode h with h | rfl | rfl <;> simp_all [isWritten]

theorem isWritten_of_mem_writeChars {ps : List Pair} {c : Char} (h : c ∈ writeChars ps) :
    isWritten c := by
  rcases eq_or_mem_of_mem_intercalate h with rfl | ⟨piece, hpiece, hc⟩
  · rfl
  · obtain ⟨p, _, rfl⟩ := List.mem_map.mp hpiece
    exact isWritten_of_mem_writePair hc

/-! ## Names and values -/

theorem map_spaceOfPlus {bs : List UInt8} (h : 0x2B ∉ bs) : bs.map spaceOfPlus = bs := by
  induction bs with
  | nil => rfl
  | cons b bs ih => grind [spaceOfPlus]

/-- The octets that a written text stands for. -/
def octetsOf (bs : List UInt8) : List UInt8 :=
  Percent.decode (bs.map spaceOfPlus)

theorem octetsOf_append {bs : List UInt8} (hplus : 0x2B ∉ bs) (hpercent : 0x25 ∉ bs)
    (rest : List UInt8) : octetsOf (bs ++ rest) = bs ++ octetsOf rest := by
  rw [octetsOf, List.map_append, map_spaceOfPlus hplus, Percent.decode_append_of_not_mem hpercent]
  rfl

theorem map_spaceOfPlus_char (c : Char) :
    (Utf8.encode (Percent.char c)).map spaceOfPlus = Utf8.encode (Percent.char c) := by
  refine map_spaceOfPlus fun h => ?_
  rcases Percent.mem_char ((Utf8.mem_encode_iff (d := '+') (by decide)).mp h) with h | h
  · exact absurd h (by decide)
  · exact absurd h (by decide)

theorem octetsOf_char (c : Char) (rest : List UInt8) :
    octetsOf (Utf8.encode (Percent.char c) ++ rest) = String.utf8EncodeChar c ++ octetsOf rest := by
  rw [octetsOf, List.map_append, map_spaceOfPlus_char, Percent.decode_char]
  rfl

theorem octetsOf_encodeChar (c : Char) (rest : List UInt8) :
    octetsOf (Utf8.encode (encodeChar c) ++ rest) = String.utf8EncodeChar c ++ octetsOf rest := by
  unfold encodeChar
  split_ifs with hplain hspace
  · have hc : Utf8.encode [c] = String.utf8EncodeChar c := by simp [Utf8.encode]
    rw [octetsOf_append, hc]
    · exact fun h => isPlain_ne hplain (by decide)
        (List.mem_singleton.mp ((Utf8.mem_encode_iff (d := '+') (by decide)).mp h)).symm
    · exact fun h => isPlain_ne hplain (by decide)
        (List.mem_singleton.mp ((Utf8.mem_encode_iff (d := '%') (by decide)).mp h)).symm
  · subst hspace
    exact Percent.decode_cons_of_ne (by decide) _
  · exact octetsOf_char c rest

theorem octetsOf_encode (cs : List Char) : octetsOf (Utf8.encode (encode cs)) = Utf8.encode cs := by
  induction cs with
  | nil => rfl
  | cons c cs ih =>
    rw [encode, List.flatMap_cons, Utf8.encode_append, octetsOf_encodeChar]
    exact congrArg _ ih

/-- A written name or value is read back. -/
theorem decode_encode (s : String) : decode (Utf8.encode (encode s.toList)) = s := by
  change String.ofList (Utf8.decode (octetsOf (Utf8.encode (encode s.toList)))) = s
  rw [octetsOf_encode, Utf8.decode_encode, String.ofList_toList]

/-! ## Pairs -/

theorem isEmpty_encode (cs : List Char) : (Utf8.encode cs).isEmpty = cs.isEmpty := by
  cases cs with
  | nil => rfl
  | cons c cs => simp [Utf8.encode, String.utf8EncodeChar_ne_nil]

/-- A text is read piece by piece. -/
theorem readOctets_encode (cs : List Char) :
    readOctets (Utf8.encode cs) =
      ((cs.splitOn '&').filter (!·.isEmpty)).map fun piece => readPair (Utf8.encode piece) := by
  have hne : ∀ c, c ≠ '&' → 0x26 ∉ String.utf8EncodeChar c := by
    exact fun c hc h => hc (Utf8.eq_of_mem_utf8EncodeChar (d := '&') (by decide) h)
  have hsplit : (Utf8.encode cs).splitOn 0x26 = (cs.splitOn '&').map Utf8.encode :=
    splitOn_flatMap (by decide) hne cs
  rw [readOctets, hsplit, List.filter_map, List.map_map]
  simp only [Function.comp_def, isEmpty_encode]

/-- The name of a piece ends at its first `=`. -/
theorem readPair_encode (piece : List Char) :
    readPair (Utf8.encode piece) =
      (decode (Utf8.encode (piece.takeWhile (· != '='))),
        decode (Utf8.encode ((piece.dropWhile (· != '=')).drop 1))) := by
  have hne : ∀ c, c ≠ '=' → 0x3D ∉ String.utf8EncodeChar c := by
    exact fun c hc h => hc (Utf8.eq_of_mem_utf8EncodeChar (d := '=') (by decide) h)
  have htake : (Utf8.encode piece).takeWhile (· != 0x3D) =
      Utf8.encode (piece.takeWhile (· != '=')) :=
    takeWhile_flatMap (by decide) hne piece
  have hdrop : (Utf8.encode piece).dropWhile (· != 0x3D) =
      Utf8.encode (piece.dropWhile (· != '=')) :=
    dropWhile_flatMap (by decide) hne piece
  rw [readPair, htake, hdrop]
  cases h : piece.dropWhile (· != '=') with
  | nil => rfl
  | cons c cs =>
    obtain rfl := eq_of_dropWhile_cons h
    rfl

theorem readPair_writePair (p : Pair) : readPair (Utf8.encode (writePair p)) = p := by
  have hname : ∀ c ∈ encode p.1.toList, (c != '=') = true := by
    intro c hc
    have : '=' ∉ encode p.1.toList := not_mem_encode (by decide) (by decide) (by decide) _
    exact bne_iff_ne.mpr (fun e => this (e ▸ hc))
  rw [readPair_encode, writePair, List.takeWhile_append_of_pos hname,
    List.dropWhile_append_of_pos hname]
  simp [decode_encode]

/-- Reading what was written of pairs gives the pairs. -/
theorem read_write (ps : List Pair) : read (write ps) = ps := by
  rw [read, write, String.toList_ofList, readOctets_encode, writeChars]
  cases ps with
  | nil => rfl
  | cons p ps =>
    have hamp : ∀ piece ∈ (p :: ps).map writePair, '&' ∉ piece := by
      intro piece hpiece
      obtain ⟨q, _, rfl⟩ := List.mem_map.mp hpiece
      have hname : '&' ∉ encode q.1.toList := not_mem_encode (by decide) (by decide) (by decide) _
      have hvalue : '&' ∉ encode q.2.toList := not_mem_encode (by decide) (by decide) (by decide) _
      simp [writePair, hname, hvalue]
    have hfilter : ((p :: ps).map writePair).filter (!·.isEmpty) = (p :: ps).map writePair := by
      refine List.filter_eq_self.mpr fun piece hpiece => ?_
      obtain ⟨q, _, rfl⟩ := List.mem_map.mp hpiece
      simp [writePair]
    rw [List.splitOn_intercalate '&' hamp (by simp), hfilter, List.map_map]
    simp [Function.comp_def, readPair_writePair]

/-! ## Further encoding -/

/-- Octets, some of which were percent-encoded. Only an octet that is neither `%` nor a digit may
have been, since in place of one of those an encoded octet reads differently. -/
inductive Reencoded : List UInt8 → List UInt8 → Prop
  | nil : Reencoded [] []
  | same (b : UInt8) {xs ys : List UInt8} : Reencoded xs ys → Reencoded (b :: xs) (b :: ys)
  | octet {b : UInt8} {xs ys : List UInt8} (hpercent : b ≠ 0x25)
      (hdigit : Hex.value? (Char.ofNat b.toNat) = none) :
      Reencoded xs ys → Reencoded (Utf8.encode (Percent.octet b) ++ xs) (b :: ys)

theorem octet?_eq_some {a b c o : UInt8} (h : Percent.octet? a b c = some o) :
    a = 0x25 ∧ Hex.value? (Char.ofNat b.toNat) ≠ none ∧ Hex.value? (Char.ofNat c.toNat) ≠ none := by
  unfold Percent.octet? at h
  split_ifs at h with ha
  refine ⟨ha, ?_, ?_⟩ <;> intro hn <;> simp [hn] at h

theorem octet?_percent (a c : UInt8) : Percent.octet? a 0x25 c = none := by
  cases h : Percent.octet? a 0x25 c with
  | none => rfl
  | some o => exact absurd (by decide) (octet?_eq_some h).2.1

theorem octet?_percent_last (a b : UInt8) : Percent.octet? a b 0x25 = none := by
  cases h : Percent.octet? a b 0x25 with
  | none => rfl
  | some o => exact absurd (by decide) (octet?_eq_some h).2.2

/-- An octet is either read with the two after it or on its own. -/
theorem decode_cons (a : UInt8) (bs : List UInt8) :
    (∃ b c rest o, bs = b :: c :: rest ∧ Percent.octet? a b c = some o ∧
      Percent.decode (a :: bs) = o :: Percent.decode rest) ∨
    (Percent.decode (a :: bs) = a :: Percent.decode bs ∧
      ∀ b c rest, bs = b :: c :: rest → Percent.octet? a b c = none) := by
  match bs with
  | [] => exact .inr ⟨rfl, by simp⟩
  | [b] => exact .inr ⟨rfl, by simp⟩
  | b :: c :: rest =>
    cases h : Percent.octet? a b c with
    | some o => exact .inl ⟨b, c, rest, o, rfl, h, by rw [Percent.decode, h]⟩
    | none => exact .inr ⟨by rw [Percent.decode, h], by rintro _ _ _ ⟨⟩; exact h⟩

namespace Reencoded

theorem append_same (bs : List UInt8) {xs ys : List UInt8} (h : Reencoded xs ys) :
    Reencoded (bs ++ xs) (bs ++ ys) := by
  induction bs with
  | nil => exact h
  | cons b bs ih => exact .same b ih

/-- Where no two digits follow a `%` among the octets, none do so among the encoded ones. -/
theorem decode_percent {xs ys : List UInt8} (h : Reencoded xs ys)
    (hys : ∀ b c rest, ys = b :: c :: rest → Percent.octet? 0x25 b c = none) :
    Percent.decode (0x25 :: xs) = 0x25 :: Percent.decode xs := by
  cases h with
  | nil => rfl
  | octet hpercent hdigit h =>
    rw [Percent.encode_octet]
    simp only [List.cons_append, List.nil_append]
    rw [Percent.decode, octet?_percent]
  | same b h =>
    cases h with
    | nil => rfl
    | same c h => rw [Percent.decode, hys b c _ rfl]
    | octet hpercent hdigit h =>
      rw [Percent.encode_octet]
      simp only [List.cons_append, List.nil_append]
      rw [Percent.decode, octet?_percent_last]

theorem decode_eq {xs ys : List UInt8} (h : Reencoded xs ys) :
    Percent.decode xs = Percent.decode ys := by
  -- By length and not by the derivation, since up to three octets are read at once.
  induction hn : ys.length using Nat.strongRecOn generalizing xs ys with
  | ind n ih =>
    subst hn
    cases ys with
    | nil => cases h; rfl
    | cons a bs =>
      rcases decode_cons a bs with ⟨b, c, rest, o, rfl, ho, hdecode⟩ | ⟨hdecode, hnone⟩
      · -- `%` and two digits stand in both lists, since none of the three may be encoded.
        obtain ⟨rfl, hb, hc⟩ := octet?_eq_some ho
        cases h with
        | octet hpercent _ _ => exact absurd rfl hpercent
        | same _ h =>
          cases h with
          | octet _ hdigit _ => exact absurd hdigit hb
          | same _ h =>
            cases h with
            | octet _ hdigit _ => exact absurd hdigit hc
            | same _ h => rw [Percent.decode, ho, hdecode, ih rest.length (by simp; omega) h rfl]
      · cases h with
        | octet _ _ h => rw [Percent.decode_octet, hdecode, ih bs.length (by simp) h rfl]
        | same _ h =>
          rw [hdecode, ← ih bs.length (by simp) h rfl]
          by_cases ha : a = 0x25
          · subst ha
            exact decode_percent h hnone
          · exact Percent.decode_cons_of_ne ha _

end Reencoded

/-- The octets of a character that is not written as it is may all be encoded. -/
theorem octet_of_not_isWritten {c : Char} (hc : !isWritten c) {b : UInt8}
    (hb : b ∈ String.utf8EncodeChar c) :
    b ≠ 0x25 ∧ b ≠ 0x2B ∧ Hex.value? (Char.ofNat b.toNat) = none := by
  by_cases hlt : c.toNat < 0x80
  · rw [Utf8.utf8EncodeChar_of_lt hlt, List.mem_singleton] at hb
    have hascii : ∀ n : Fin 128, !isWritten (Char.ofNat n) →
        UInt8.ofNat (Char.ofNat n).toNat ≠ 0x25 ∧ UInt8.ofNat (Char.ofNat n).toNat ≠ 0x2B ∧
          Hex.value? (Char.ofNat (UInt8.ofNat (Char.ofNat n).toNat).toNat) = none := by
      decide
    subst hb
    exact of_ascii (P := fun c => !isWritten c → UInt8.ofNat c.toNat ≠ 0x25 ∧
      UInt8.ofNat c.toNat ≠ 0x2B ∧ Hex.value? (Char.ofNat (UInt8.ofNat c.toNat).toNat) = none)
      hascii hlt hc
  · have hlarge := Utf8.le_of_mem_utf8EncodeChar (by omega) hb
    have hwide : ∀ n : Fin 256, 0x80 ≤ n.val → Hex.value? (Char.ofNat n) = none := by
      decide +kernel
    refine ⟨?_, ?_, hwide ⟨b.toNat, b.toNat_lt⟩ hlarge⟩ <;> rintro rfl <;> simp at hlarge

theorem reencoded_octets {bs xs ys : List UInt8}
    (hbs : ∀ b ∈ bs, b ≠ 0x25 ∧ Hex.value? (Char.ofNat b.toNat) = none) (h : Reencoded xs ys) :
    Reencoded (Utf8.encode (bs.flatMap Percent.octet) ++ xs) (bs ++ ys) := by
  induction bs with
  | nil => exact h
  | cons b bs ih =>
    obtain ⟨hpercent, hdigit⟩ := hbs b List.mem_cons_self
    rw [List.flatMap_cons, Utf8.encode_append, List.append_assoc]
    exact .octet hpercent hdigit (ih fun c hc => hbs c (List.mem_cons_of_mem _ hc))

theorem reencoded_encode {keep : Char → Bool} (hkeep : ∀ c, isWritten c → keep c)
    (cs : List Char) :
    Reencoded ((Utf8.encode (Percent.encode keep cs)).map spaceOfPlus)
      ((Utf8.encode cs).map spaceOfPlus) := by
  induction cs with
  | nil => exact .nil
  | cons c cs ih =>
    have hleft : Utf8.encode (Percent.encode keep (c :: cs)) =
        Utf8.encode (if keep c then [c] else Percent.char c) ++
          Utf8.encode (Percent.encode keep cs) := by
      rw [Percent.encode, List.flatMap_cons, Utf8.encode_append]
      rfl
    have hright : Utf8.encode (c :: cs) = String.utf8EncodeChar c ++ Utf8.encode cs := rfl
    rw [hleft, hright, List.map_append, List.map_append]
    split_ifs with hc
    · have hself : Utf8.encode [c] = String.utf8EncodeChar c := by simp [Utf8.encode]
      rw [hself]
      exact ih.append_same _
    · have hoctet := @octet_of_not_isWritten c (by have := hkeep c; grind)
      rw [map_spaceOfPlus_char, map_spaceOfPlus fun hb => (hoctet hb).2.1 rfl]
      exact reencoded_octets (fun b hb => ⟨(hoctet hb).1, (hoctet hb).2.2⟩) ih

/-- Percent-encoding characters that form-urlencoded text does not have changes no name or
value. -/
theorem decode_percent_encode {keep : Char → Bool} (hkeep : ∀ c, isWritten c → keep c)
    (cs : List Char) : decode (Utf8.encode (Percent.encode keep cs)) = decode (Utf8.encode cs) := by
  rw [decode, (reencoded_encode hkeep cs).decode_eq]
  rfl

/-- Percent-encoding gives no separator that was not there. -/
theorem not_mem_percent {keep : Char → Bool} {a : Char} (ha : a ≠ '%') (halnum : !a.isAlphanum)
    (c : Char) (hc : c ≠ a) : a ∉ if keep c then [c] else Percent.char c := by
  split_ifs with h
  · simpa using hc.symm
  · intro hm
    rcases Percent.mem_char hm with hm | hm
    · exact ha hm
    · simp [hm] at halnum

theorem readPair_percent_encode {keep : Char → Bool} (hkeep : ∀ c, isWritten c → keep c)
    (piece : List Char) :
    readPair (Utf8.encode (Percent.encode keep piece)) = readPair (Utf8.encode piece) := by
  have hsep : (if keep '=' then ['='] else Percent.char '=') = ['='] :=
    if_pos (hkeep '=' (by decide))
  have htake := takeWhile_flatMap (f := fun c => if keep c then [c] else Percent.char c) hsep
    (not_mem_percent (by decide) (by decide)) piece
  have hdrop := dropWhile_flatMap (f := fun c => if keep c then [c] else Percent.char c) hsep
    (not_mem_percent (by decide) (by decide)) piece
  rw [readPair_encode, readPair_encode, Percent.encode, htake, hdrop]
  congr 1
  · exact decode_percent_encode hkeep _
  · cases h : piece.dropWhile (· != '=') with
    | nil => rfl
    | cons c cs =>
      obtain rfl := eq_of_dropWhile_cons h
      rw [List.flatMap_cons, hsep]
      exact decode_percent_encode hkeep _

theorem isEmpty_percent_encode (keep : Char → Bool) (piece : List Char) :
    (Percent.encode keep piece).isEmpty = piece.isEmpty := by
  cases piece with
  | nil => rfl
  | cons c cs =>
    have hc : (if keep c then [c] else Percent.char c) ≠ [] := by
      split_ifs
      · simp
      · have hne : String.utf8EncodeChar c ≠ [] := String.utf8EncodeChar_ne_nil
        cases h : String.utf8EncodeChar c <;> simp_all [Percent.char, Percent.octet]
    simp [Percent.encode, hc]

/-- Percent-encoding characters that form-urlencoded text does not have changes no pair. -/
theorem readOctets_percent_encode {keep : Char → Bool} (hkeep : ∀ c, isWritten c → keep c)
    (cs : List Char) :
    readOctets (Utf8.encode (Percent.encode keep cs)) = readOctets (Utf8.encode cs) := by
  have hsplit : (Percent.encode keep cs).splitOn '&' =
      (cs.splitOn '&').map (Percent.encode keep) :=
    splitOn_flatMap (f := fun c => if keep c then [c] else Percent.char c)
      (if_pos (hkeep '&' (by decide))) (not_mem_percent (by decide) (by decide)) cs
  rw [readOctets_encode, readOctets_encode, hsplit, List.filter_map, List.map_map]
  simp only [Function.comp_def, isEmpty_percent_encode, readPair_percent_encode hkeep]

end FormEncoded

end HistorySearch
