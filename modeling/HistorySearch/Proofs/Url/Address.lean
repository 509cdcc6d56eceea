-- SUMMARY: Addresses are read as they are written.
import HistorySearch.Proofs.Text.Decimal
import HistorySearch.Proofs.Text.FormEncoded
import HistorySearch.Url.Address

/-!
# Written addresses

An address may be given in many ways and is written in one, which is read as the same address. Of
an IPv6 address the pieces are read one after the other; the zeros that were left out are filled in
where the two colons stand.
-/

namespace HistorySearch

/-- Every element is read, and what they are read as stands in the same order. -/
theorem mapM_eq_some_iff {α β : Type} {f : α → Option β} {as : List α} {bs : List β} :
    as.mapM f = some bs ↔ as.map f = bs.map some := by
  induction as generalizing bs with
  | nil => cases bs <;> simp
  | cons a as ih =>
    rw [List.mapM_cons]
    constructor
    · intro h
      obtain ⟨c, hfirst, h⟩ := Option.bind_eq_some_iff.mp h
      obtain ⟨cs, hrest, h⟩ := Option.bind_eq_some_iff.mp h
      cases h
      rw [List.map_cons, List.map_cons, hfirst, ih.mp hrest]
    · intro h
      cases bs with
      | nil => contradiction
      | cons b bs =>
        obtain ⟨hfirst, hrest⟩ := List.cons.inj h
        rw [hfirst, ih.mpr hrest]
        rfl

/-- What gives back every element gives back the list. -/
theorem map_eq_of_mapM {α β : Type} {f : α → Option β} {g : β → α} {as : List α} {bs : List β}
    (h : as.mapM f = some bs) (hg : ∀ a ∈ as, ∀ b, f a = some b → g b = a) : bs.map g = as := by
  have hmap := mapM_eq_some_iff.mp h
  clear h
  induction as generalizing bs with
  | nil =>
    obtain rfl := List.map_eq_nil_iff.mp hmap.symm
    rfl
  | cons a as ih =>
    cases bs with
    | nil => contradiction
    | cons b bs =>
      obtain ⟨hfirst, hrest⟩ := List.cons.inj hmap
      rw [List.map_cons, hg a List.mem_cons_self b hfirst,
        ih (fun c hc => hg c (List.mem_cons_of_mem _ hc)) hrest]

/-! ## Hexadecimal digits -/

namespace Hex

/-- The digits of a number, the last one set apart. -/
theorem lowerDigits_of_le {n : Nat} (h : 16 ≤ n) :
    lowerDigits n = lowerDigits (n / 16) ++ [(n % 16).digitChar] :=
  Nat.toDigits_of_base_le (by decide) h

theorem lowerDigits_ne_nil (n : Nat) : lowerDigits n ≠ [] :=
  Nat.toDigits_ne_nil

theorem value?_digitChar {n : Nat} (h : n < 16) : value? n.digitChar = some n := by
  have hall : ∀ m : Fin 16, value? (Nat.digitChar m) = some m.val := by decide
  exact hall ⟨n, h⟩

theorem exists_of_mem_lowerDigits {n : Nat} {c : Char} (h : c ∈ lowerDigits n) :
    ∃ m < 16, c = Nat.digitChar m := by
  induction n using Nat.strongRecOn with
  | ind n ih =>
    by_cases hsmall : n < 16
    · rw [lowerDigits, Nat.toDigits_of_lt_base hsmall] at h
      exact ⟨n, hsmall, List.mem_singleton.mp h⟩
    · rw [lowerDigits_of_le (by omega)] at h
      rcases List.mem_append.mp h with h | h
      · exact ih (n / 16) (by omega) h
      · exact ⟨n % 16, by omega, List.mem_singleton.mp h⟩

theorem number?_lowerDigits (n : Nat) : number? (lowerDigits n) = some n := by
  induction n using Nat.strongRecOn with
  | ind n ih =>
    by_cases hsmall : n < 16
    · rw [lowerDigits, Nat.toDigits_of_lt_base hsmall]
      simp [number?, value?_digitChar hsmall]
    · have hlast := value?_digitChar (show n % 16 < 16 by omega)
      have hsum : 16 * (n / 16) + n % 16 = n := by omega
      rw [lowerDigits_of_le (by omega), number?, List.foldlM_append, ← number?,
        ih (n / 16) (by omega)]
      simp [hlast, hsum]

theorem value?_lt {c : Char} {n : Nat} (h : value? c = some n) : n < 16 := by
  simp only [value?, Char.le_def, UInt32.le_iff_toNat_le] at h
  split_ifs at h with hdigit hcapital hsmall
  all_goals
    obtain rfl := Option.some.inj h
    simp only [Char.toNat]
  · have hle : c.val.toNat ≤ 57 := hdigit.2
    omega
  · have hle : c.val.toNat ≤ 70 := hcapital.2
    omega
  · have hle : c.val.toNat ≤ 102 := hsmall.2
    omega

/-- A number is the sum of its digits, each with its weight. -/
theorem eq_foldl_of_number? {cs : List Char} {n : Nat} (h : number? cs = some n) :
    n = cs.foldl (fun n c => 16 * n + (value? c).getD 0) 0 := by
  have hfold : ∀ m, cs.foldlM (fun n c => (value? c).map (16 * n + ·)) m = some n →
      n = cs.foldl (fun n c => 16 * n + (value? c).getD 0) m := by
    clear h
    induction cs with
    | nil =>
      intro m h
      exact (Option.some.inj h).symm
    | cons c cs ih =>
      intro m h
      rw [List.foldlM_cons] at h
      obtain ⟨k, hk, h⟩ := Option.bind_eq_some_iff.mp h
      obtain ⟨d, hvalue, rfl⟩ := Option.map_eq_some_iff.mp hk
      rw [List.foldl_cons, hvalue]
      exact ih _ h
  exact hfold 0 h

/-- So many digits stand for a number below the power of sixteen. -/
theorem number?_lt {cs : List Char} {n : Nat} (h : number? cs = some n) : n < 16 ^ cs.length := by
  have hdigit : ∀ c ∈ cs, (value? c).getD 0 < 16 := by
    intro c _
    cases hvalue : value? c with
    | none => decide
    | some d => exact value?_lt hvalue
  rw [eq_foldl_of_number? h]
  simpa using Decimal.foldl_lt (f := fun c => (value? c).getD 0) hdigit 0

end Hex

/-! ## IPv4 -/

namespace Ipv4

theorem combine_lt {octets : List Nat} {last address : Nat} (hlength : octets.length ≤ 4)
    (h : combine octets last = some address) : address < 256 ^ 4 := by
  unfold combine at h
  dsimp only at h
  split at h
  · rename_i hfits
    obtain rfl := Option.some.inj h
    have hoctets : octets.foldl (fun n o => 256 * n + o) 0 < 256 ^ octets.length := by
      simpa using Decimal.foldl_lt (f := id) (by simpa using hfits.2) 0
    have hlast : last < 256 ^ (4 - octets.length) := hfits.1
    calc octets.foldl (fun n o => 256 * n + o) 0 * 256 ^ (4 - octets.length) + last
        < (octets.foldl (fun n o => 256 * n + o) 0 + 1) * 256 ^ (4 - octets.length) := by
          rw [Nat.add_mul]
          omega
      _ ≤ 256 ^ octets.length * 256 ^ (4 - octets.length) := Nat.mul_le_mul_right _ hoctets
      _ = 256 ^ 4 := by rw [← Nat.pow_add, Nat.add_sub_cancel' hlength]
  · contradiction

/-- An address has four octets. -/
theorem parse?_lt {name : List Char} {address : Nat} (h : parse? name = some address) :
    address < 256 ^ 4 := by
  unfold parse? at h
  dsimp only at h
  generalize (if (name.splitOn '.').getLast? = some [] then (name.splitOn '.').dropLast
    else name.splitOn '.') = parts at h
  split at h
  · contradiction
  · rename_i hfour
    split at h
    · rename_i numbers hnumbers
      have hlength : parts.length = numbers.length := by
        simpa using congrArg List.length (mapM_eq_some_iff.mp hnumbers)
      split at h
      · exact combine_lt (by rw [List.length_dropLast]; omega) h
      · contradiction
    · contradiction

theorem number?_digits {n : Nat} (h : n < 256) : number? (Decimal.digits n) = some n := by
  have hall : ∀ m : Fin 256, number? (Decimal.digits m) = some m.val := by decide +kernel
  exact hall ⟨n, h⟩

/-- The octets of an address, the highest first. -/
def octets (address : Nat) : List Nat :=
  [address / 0x1000000 % 256, address / 0x10000 % 256, address / 256 % 256, address % 256]

theorem write_eq (address : Nat) :
    write address = ['.'].intercalate ((octets address).map Decimal.digits) :=
  rfl

/-- The text of an address is of digits and dots. -/
theorem of_mem_write {address : Nat} {c : Char} (h : c ∈ write address) :
    Decimal.isDigit c ∨ c = '.' := by
  rw [write_eq] at h
  rcases eq_or_mem_of_mem_intercalate h with hdot | ⟨part, hpart, hc⟩
  · exact .inr hdot
  · obtain ⟨n, _, rfl⟩ := List.mem_map.mp hpart
    exact .inl (Decimal.isDigit_of_mem_digits hc)

theorem splitOn_write (address : Nat) :
    (write address).splitOn '.' = (octets address).map Decimal.digits := by
  have hdot : ∀ part ∈ (octets address).map Decimal.digits, '.' ∉ part := by
    intro part hpart hmem
    obtain ⟨n, _, rfl⟩ := List.mem_map.mp hpart
    exact absurd (Decimal.isDigit_of_mem_digits hmem) (by decide)
  exact List.splitOn_intercalate '.' hdot nofun

/-- A written address is read as it is. -/
theorem parse?_write {address : Nat} (h : address < 256 ^ 4) :
    parse? (write address) = some address := by
  have hnonempty : Decimal.digits (address % 256) ≠ [] := Nat.toDigits_ne_nil
  have hread : ((octets address).map Decimal.digits).mapM number? = some (octets address) := by
    refine mapM_eq_some_iff.mpr ?_
    rw [List.map_map]
    refine List.map_congr_left fun n hn => number?_digits ?_
    simp only [octets, List.mem_cons, List.not_mem_nil, or_false] at hn
    rcases hn with rfl | rfl | rfl | rfl <;> exact Nat.mod_lt _ (by decide)
  unfold parse?
  rw [splitOn_write]
  simp only [octets, List.map_cons, List.map_nil] at hread ⊢
  simp [hnonempty, hread, combine]
  omega

/-- A written address is taken for one. -/
theorem endsInNumber_write (address : Nat) : endsInNumber (write address) := by
  have hnonempty : Decimal.digits (address % 256) ≠ [] := Nat.toDigits_ne_nil
  have hdigits : (Decimal.digits (address % 256)).all Decimal.isDigit :=
    List.all_eq_true.mpr fun _ hc => Decimal.isDigit_of_mem_digits hc
  have hpart : decidingPart? (write address) = some (Decimal.digits (address % 256)) := by
    rw [decidingPart?, splitOn_write]
    simp only [octets, List.map_cons, List.map_nil, List.reverse_cons, List.reverse_nil,
      List.nil_append, List.cons_append]
    split
    · rename_i hnil
      exact absurd (List.cons.inj hnil).1 hnonempty
    · rename_i hnil
      exact absurd (List.cons.inj hnil).1 hnonempty
    · rename_i hfirst
      rw [(List.cons.inj hfirst).1]
    · contradiction
  simp [endsInNumber, hpart, hnonempty, hdigits]

end Ipv4

/-! ## Reading of IPv6 -/

namespace Ipv6

/-- What was read leaves room for so many more pieces; each of the pieces has 16 bits. -/
structure Found.Fits (free : Nat) (f : Found) : Prop where
  small : ∀ p ∈ f.pieces, p < 0x10000
  room : f.pieces.length + free ≤ 8
  gap : ∀ n ∈ f.gap, n ≤ f.pieces.length

/-- The pieces of an address. -/
structure IsAddress (pieces : List Nat) : Prop where
  small : ∀ p ∈ pieces, p < 0x10000
  eight : pieces.length = 8

variable {free : Nat} {f g : Found}

theorem Found.Fits.append (h : f.Fits free) {new : List Nat} {left : Nat}
    (hnew : ∀ p ∈ new, p < 0x10000) (hleft : new.length + left ≤ free) :
    Found.Fits left { f with pieces := f.pieces ++ new } where
  small := List.forall_mem_append.mpr ⟨h.small, hnew⟩
  room := by
    have hroom := h.room
    rw [List.length_append]
    omega
  gap n hn := Nat.le_trans (h.gap n hn) (by simp)

theorem octet?_le {cs : List Char} {n : Nat} (h : octet? cs = some n) : n ≤ 255 := by
  unfold octet? at h
  split at h
  · contradiction
  · cases h
    decide
  · contradiction
  · split at h
    · rename_i hsmall
      cases h
      exact hsmall.2.2
    · contradiction

theorem embedded?_small {cs : List Char} {two : List Nat} (h : embedded? cs = some two) :
    two.length = 2 ∧ ∀ p ∈ two, p < 0x10000 := by
  unfold embedded? at h
  split at h
  · rename_i a b c d hread
    obtain rfl := Option.some.inj h
    have hmap := mapM_eq_some_iff.mp hread
    have hoctet : ∀ n ∈ [a, b, c, d], n ≤ 255 := by
      intro n hn
      have hmem : some n ∈ (cs.splitOn '.').map octet? := by
        rw [hmap]
        exact List.mem_map_of_mem hn
      obtain ⟨part, _, hpart⟩ := List.mem_map.mp hmem
      exact octet?_le hpart
    simp only [List.forall_mem_cons] at hoctet
    simp only [List.length_cons, List.length_nil, List.forall_mem_cons]
    refine ⟨trivial, by omega, by omega, by simp⟩
  · contradiction

/-- What reading one piece can do. -/
inductive Steps (free : Nat) (f g : Found) : Prop
  | gap (cs : List Char) (hgap : f.gap = none)
      (h : readPieces free cs ⟨f.pieces ++ [0], some (f.pieces.length + 1)⟩ = some g)
  | piece (cs : List Char) (p : Nat) (hsmall : p < 0x10000)
      (h : readPieces free cs { f with pieces := f.pieces ++ [p] } = some g)
  | embedded (two : List Nat) (hlength : two.length = 2) (hsmall : ∀ p ∈ two, p < 0x10000)
      (hfree : free ≠ 0) (h : g = { f with pieces := f.pieces ++ two })

theorem steps_of_readPieces {c : Char} {cs : List Char}
    (h : readPieces (free + 1) (c :: cs) f = some g) : Steps free f g := by
  by_cases hcolon : c = ':'
  · subst hcolon
    rw [readPieces] at h
    split at h
    · contradiction
    · rename_i hgap
      exact .gap cs (by simpa using hgap) h
  · rw [readPieces] at h
    · generalize hdigits : ((c :: cs).take 4).takeWhile (fun c => (Hex.value? c).isSome) = digits at h
      have hsmall : ∀ p, Hex.number? digits = some p → p < 0x10000 := by
        intro p hp
        have hfour : digits.length ≤ 4 := by
          rw [← hdigits]
          exact Nat.le_trans (List.takeWhile_sublist _).length_le (List.length_take_le _ _)
        exact Nat.lt_of_lt_of_le (Hex.number?_lt hp) (Nat.pow_le_pow_right (by decide) hfour)
      split at h
      · rename_i hp
        exact .piece _ _ (hsmall _ hp) h
      · split at h
        · contradiction
        · rename_i hfree
          obtain ⟨two, htwo, hg⟩ := Option.map_eq_some_iff.mp h
          obtain ⟨hlength, hoctets⟩ := embedded?_small htwo
          exact .embedded two hlength hoctets (by simp_all) hg.symm
      · rename_i hp
        split at h
        · contradiction
        · exact .piece _ _ (hsmall _ hp) h
      · contradiction
    · nofun
    · rintro rest ⟨⟩
      exact hcolon rfl

theorem fits_of_readPieces {cs : List Char} (hf : f.Fits free) (h : readPieces free cs f = some g) :
    g.Fits 0 := by
  induction free generalizing cs f with
  | zero =>
    cases cs with
    | nil =>
      obtain rfl := Option.some.inj h
      exact hf
    | cons c cs => contradiction
  | succ free ih =>
    cases cs with
    | nil =>
      obtain rfl := Option.some.inj h
      exact ⟨hf.small, Nat.le_trans (Nat.le_add_right _ _) hf.room, hf.gap⟩
    | cons c cs =>
      cases steps_of_readPieces h with
      | gap cs hgap h =>
        have hnext : Found.Fits free { f with pieces := f.pieces ++ [0] } :=
          hf.append (by simp) (by simp; omega)
        have hfits : Found.Fits free ⟨f.pieces ++ [0], some (f.pieces.length + 1)⟩ :=
          ⟨hnext.small, hnext.room, by simp⟩
        exact ih hfits h
      | piece cs p hsmall h => exact ih (hf.append (by simpa using hsmall) (by simp; omega)) h
      | embedded two hlength hsmall hfree h =>
        rw [h]
        exact hf.append hsmall (by omega)

theorem isAddress_of_fill? (hf : f.Fits 0) {pieces : List Nat} (h : f.fill? = some pieces) :
    IsAddress pieces := by
  unfold Found.fill? at h
  split at h
  · rename_i n hgap
    obtain rfl := Option.some.inj h
    have hroom := hf.room
    have hn := hf.gap n hgap
    refine ⟨fun p hp => ?_, ?_⟩
    · rcases List.mem_append.mp hp with hp | hp
      · rcases List.mem_append.mp hp with hp | hp
        · exact hf.small p (List.mem_of_mem_take hp)
        · rw [List.eq_of_mem_replicate hp]
          decide
      · exact hf.small p (List.mem_of_mem_drop hp)
    · simp only [List.length_append, List.length_take, List.length_replicate, List.length_drop]
      omega
  · split at h
    · rename_i height
      obtain rfl := Option.some.inj h
      exact ⟨hf.small, height⟩
    · contradiction

/-- What is read is an address. -/
theorem isAddress_of_parse? {cs : List Char} {pieces : List Nat} (h : parse? cs = some pieces) :
    IsAddress pieces := by
  have hread : ∀ free rest start, Found.Fits free start →
      (readPieces free rest start).bind Found.fill? = some pieces → IsAddress pieces := by
    intro free rest start hstart h
    obtain ⟨f, hf, hfill⟩ := Option.bind_eq_some_iff.mp h
    exact isAddress_of_fill? (fits_of_readPieces hstart hf) hfill
  unfold parse? at h
  split at h
  · exact hread _ _ _ ⟨by simp, by decide, by simp⟩ h
  · contradiction
  · contradiction
  · contradiction
  · exact hread _ _ _ ⟨by simp, by decide, by simp⟩ h

/-! ## Writing of IPv6 -/

/-- The longest run of zeros, with what is before and after it. -/
theorem eq_append_of_longestRun (pieces : List Nat) (i : Nat)
    (h : 0 < (longestRun pieces i).2) :
    ∃ before after, pieces = before ++ (List.replicate (longestRun pieces i).2 0 ++ after) ∧
      (longestRun pieces i).1 = i + before.length := by
  induction pieces generalizing i with
  | nil => contradiction
  | cons p ps ih =>
    have hlater := ih (i + 1)
    rw [longestRun] at h ⊢
    generalize longestRun ps (i + 1) = later at h hlater ⊢
    split at h
    · rename_i hhere
      rw [if_pos hhere]
      have hzeros : (p :: ps).takeWhile (· = 0) = List.replicate (zeroRun (p :: ps)) 0 := by
        refine List.eq_replicate_iff.mpr ⟨rfl, fun q hq => ?_⟩
        exact of_decide_eq_true (List.all_eq_true.mp List.all_takeWhile q hq)
      refine ⟨[], (p :: ps).dropWhile (· = 0), ?_, rfl⟩
      rw [← hzeros, List.nil_append, List.takeWhile_append_dropWhile]
    · rename_i hhere
      rw [if_neg hhere]
      obtain ⟨before, after, hps, hstart⟩ := hlater h
      refine ⟨p :: before, after, by rw [List.cons_append, ← hps], ?_⟩
      rw [hstart, List.length_cons]
      omega

/-- Digits do not start with a colon. -/
theorem lowerDigits_eq_cons (p : Nat) : ∃ c cs, Hex.lowerDigits p = c :: cs ∧ c ≠ ':' := by
  cases hcons : Hex.lowerDigits p with
  | nil => exact absurd hcons (Hex.lowerDigits_ne_nil p)
  | cons c cs =>
    refine ⟨c, cs, rfl, ?_⟩
    rintro rfl
    obtain ⟨m, hm, hcolon⟩ := Hex.exists_of_mem_lowerDigits (hcons ▸ List.mem_cons_self)
    have hdigit := Hex.value?_digitChar hm
    rw [← hcolon] at hdigit
    contradiction

theorem writePieces_singleton (p : Nat) : writePieces [p] = Hex.lowerDigits p := by
  simp [writePieces]

theorem writePieces_cons_cons (p q : Nat) (ps : List Nat) :
    writePieces (p :: q :: ps) = Hex.lowerDigits p ++ ':' :: writePieces (q :: ps) := by
  simp [writePieces, List.intercalate_cons_cons]

theorem writePieces_eq_cons {ps : List Nat} (h : ps ≠ []) :
    ∃ c cs, writePieces ps = c :: cs ∧ c ≠ ':' := by
  match ps, h with
  | [p], _ =>
    rw [writePieces_singleton]
    exact lowerDigits_eq_cons p
  | p :: q :: ps, _ =>
    obtain ⟨c, cs, hcons, hcolon⟩ := lowerDigits_eq_cons p
    exact ⟨c, _, by rw [writePieces_cons_cons, hcons, List.cons_append], hcolon⟩

/-- The digits of a piece are read up to the colon after them. -/
theorem readPieces_lowerDigits {p : Nat} (hp : p < 0x10000) {rest : List Char}
    (hrest : rest = [] ∨ ∃ c cs, rest = ':' :: c :: cs) :
    readPieces (free + 1) (Hex.lowerDigits p ++ rest) f =
      readPieces free (rest.drop 1) { f with pieces := f.pieces ++ [p] } := by
  have hfour : (Hex.lowerDigits p).length ≤ 4 :=
    (Nat.length_toDigits_le_iff (by decide) (by decide)).mpr hp
  have hhex : ∀ c ∈ Hex.lowerDigits p, (Hex.value? c).isSome := by
    intro c hc
    obtain ⟨m, hm, rfl⟩ := Hex.exists_of_mem_lowerDigits hc
    rw [Hex.value?_digitChar hm]
    rfl
  have hstop : (rest.take (4 - (Hex.lowerDigits p).length)).takeWhile
      (fun c => (Hex.value? c).isSome) = [] := by
    rcases hrest with rfl | ⟨c, cs, rfl⟩
    · simp
    · cases 4 - (Hex.lowerDigits p).length with
      | zero => rfl
      | succ n => exact List.takeWhile_cons_of_neg (by decide)
  have hdigits : ((Hex.lowerDigits p ++ rest).take 4).takeWhile (fun c => (Hex.value? c).isSome) =
      Hex.lowerDigits p := by
    rw [List.take_append, List.take_of_length_le hfour, List.takeWhile_append_of_pos hhex, hstop,
      List.append_nil]
  have hnumber := Hex.number?_lowerDigits p
  obtain ⟨c, cs, hcons, hcolon⟩ := lowerDigits_eq_cons p
  rw [hcons] at hdigits hnumber ⊢
  rw [List.cons_append, readPieces, ← List.cons_append, hdigits, List.drop_left, hnumber]
  · rcases hrest with rfl | ⟨d, ds, rfl⟩
    · rfl
    · rfl
  · nofun
  · rintro rest ⟨⟩
    exact hcolon rfl

/-- So are all the pieces of a part of an address. -/
theorem readPieces_writePieces {ps : List Nat} (hps : ∀ p ∈ ps, p < 0x10000) (hne : ps ≠ [])
    {rest : List Char} (hrest : rest = [] ∨ ∃ c cs, rest = ':' :: c :: cs) :
    readPieces (ps.length + free) (writePieces ps ++ rest) f =
      readPieces free (rest.drop 1) { f with pieces := f.pieces ++ ps } := by
  induction ps generalizing f with
  | nil => contradiction
  | cons p ps ih =>
    have hp := hps p List.mem_cons_self
    cases ps with
    | nil =>
      rw [writePieces_singleton, List.length_singleton, Nat.add_comm]
      exact readPieces_lowerDigits hp hrest
    | cons q qs =>
      obtain ⟨c, cs, hcons, _⟩ := writePieces_eq_cons (List.cons_ne_nil q qs)
      have hmore : ∃ d ds, ':' :: (writePieces (q :: qs) ++ rest) = ':' :: d :: ds :=
        ⟨c, cs ++ rest, by rw [hcons, List.cons_append]⟩
      have hlength : (p :: q :: qs).length + free = ((q :: qs).length + free) + 1 := by
        simp only [List.length_cons]
        omega
      rw [writePieces_cons_cons, List.append_assoc, List.cons_append, hlength,
        readPieces_lowerDigits hp (.inr hmore), List.drop_one, List.tail_cons,
        ih (fun r hr => hps r (List.mem_cons_of_mem _ hr)) (by simp)]
      simp

/-- At the end there may be no piece at all. -/
theorem readPieces_last {ps : List Nat} (hps : ∀ p ∈ ps, p < 0x10000) (hfree : ps.length ≤ free) :
    readPieces free (writePieces ps) f = some { f with pieces := f.pieces ++ ps } := by
  by_cases hne : ps = []
  · subst hne
    cases free <;> simp [writePieces, readPieces]
  · have hread : readPieces (ps.length + (free - ps.length)) (writePieces ps ++ []) f =
        readPieces (free - ps.length) [] { f with pieces := f.pieces ++ ps } :=
      readPieces_writePieces hps hne (.inl rfl)
    rw [List.append_nil, Nat.add_sub_cancel' hfree] at hread
    rw [hread]
    cases free - ps.length <;> rfl

/-- A text that does not start with a colon is read without zeros in front of it. -/
theorem parse?_of_ne {c : Char} {cs : List Char} (hc : c ≠ ':') (hne : cs ≠ []) :
    parse? (c :: cs) = (readPieces 8 (c :: cs) ⟨[], none⟩).bind Found.fill? := by
  unfold parse?
  split
  · rename_i heq
    exact absurd (List.cons.inj heq).1 hc
  · rename_i heq
    exact absurd (List.cons.inj heq).1 hc
  · contradiction
  · rename_i heq
    exact absurd (List.cons.inj heq).2 hne
  · rfl

/-- Pieces of which a run of zeros was left out are read as all of them. -/
theorem parse?_gap {before after : List Nat} {n : Nat}
    (h : IsAddress (before ++ (List.replicate n 0 ++ after))) (hn : 2 ≤ n) :
    parse? (writePieces before ++ ':' :: ':' :: writePieces after) =
      some (before ++ (List.replicate n 0 ++ after)) := by
  have hbefore : ∀ p ∈ before, p < 0x10000 := fun p hp => h.small p (List.mem_append_left _ hp)
  have hafter : ∀ p ∈ after, p < 0x10000 := fun p hp =>
    h.small p (List.mem_append_right _ (List.mem_append_right _ hp))
  have height := h.eight
  simp only [List.length_append, List.length_replicate] at height
  -- One zero stands in for all that were left out.
  have hfill : Found.fill? ⟨before ++ [0] ++ after, some (before.length + 1)⟩ =
      some (before ++ (List.replicate n 0 ++ after)) := by
    have hleft : n = (8 - (before ++ [0] ++ after).length) + 1 := by
      simp only [List.length_append, List.length_singleton]
      omega
    have htake : (before ++ [0] ++ after).take (before.length + 1) = before ++ [0] :=
      List.take_left' (by simp)
    have hdrop : (before ++ [0] ++ after).drop (before.length + 1) = after :=
      List.drop_left' (by simp)
    rw [Found.fill?]
    simp only [htake, hdrop]
    rw [hleft, List.replicate_succ]
    simp
  by_cases hne : before = []
  · subst hne
    have hread : readPieces 7 (writePieces after) ⟨[0], some 1⟩ = some ⟨0 :: after, some 1⟩ :=
      readPieces_last hafter (by simp only [List.length_nil] at height; omega)
    calc parse? (':' :: ':' :: writePieces after)
        = (readPieces 7 (writePieces after) ⟨[0], some 1⟩).bind Found.fill? := rfl
      _ = some (List.replicate n 0 ++ after) := by
        rw [hread]
        exact hfill
  · obtain ⟨c, cs, hcons, hc⟩ := writePieces_eq_cons hne
    have hread : readPieces 8 (writePieces before ++ ':' :: ':' :: writePieces after) ⟨[], none⟩ =
        some ⟨before ++ [0] ++ after, some (before.length + 1)⟩ := by
      have hfree : 8 = before.length + ((n - 1 + after.length) + 1) := by omega
      rw [hfree, readPieces_writePieces hbefore hne (.inr ⟨_, _, rfl⟩), List.drop_one,
        List.tail_cons, List.nil_append, readPieces, if_neg (by simp),
        readPieces_last hafter (by omega)]
    have hparse : parse? (writePieces before ++ ':' :: ':' :: writePieces after) =
        (readPieces 8 (writePieces before ++ ':' :: ':' :: writePieces after) ⟨[], none⟩).bind
          Found.fill? := by
      rw [hcons]
      exact parse?_of_ne hc (by simp)
    rw [hparse, hread]
    exact hfill

/-- All eight pieces are read as they are. -/
theorem parse?_writePieces {pieces : List Nat} (h : IsAddress pieces) :
    parse? (writePieces pieces) = some pieces := by
  have hread : readPieces 8 (writePieces pieces) ⟨[], none⟩ = some ⟨pieces, none⟩ :=
    readPieces_last h.small (Nat.le_of_eq h.eight)
  match pieces, h.eight with
  | p :: q :: ps, height =>
    obtain ⟨c, cs, hcons, hc⟩ := lowerDigits_eq_cons p
    rw [writePieces_cons_cons, hcons] at hread ⊢
    have hparse : parse? (c :: cs ++ ':' :: writePieces (q :: ps)) =
        (readPieces 8 (c :: cs ++ ':' :: writePieces (q :: ps)) ⟨[], none⟩).bind Found.fill? :=
      parse?_of_ne hc (by simp)
    rw [hparse, hread]
    exact if_pos height

/-- A written address is read as it is. -/
theorem parse?_write {pieces : List Nat} (h : IsAddress pieces) :
    parse? (write pieces) = some pieces := by
  unfold write
  dsimp only
  split
  · exact parse?_writePieces h
  · rename_i hrun
    obtain ⟨before, after, hpieces, hstart⟩ :=
      eq_append_of_longestRun pieces 0 (by omega)
    rw [Nat.zero_add] at hstart
    rw [hstart]
    generalize (longestRun pieces 0).2 = n at hpieces hrun ⊢
    subst hpieces
    have hdrop : (before ++ (List.replicate n 0 ++ after)).drop (before.length + n) = after := by
      rw [← List.append_assoc]
      exact List.drop_left' (by simp)
    rw [List.take_left, hdrop]
    exact parse?_gap h (by omega)

/-- The characters of a written address. -/
theorem of_mem_write {pieces : List Nat} {c : Char} (h : c ∈ write pieces) :
    c = ':' ∨ ∃ m < 16, c = Nat.digitChar m := by
  have hpieces : ∀ ps, c ∈ writePieces ps → c = ':' ∨ ∃ m < 16, c = Nat.digitChar m := by
    intro ps h
    rcases eq_or_mem_of_mem_intercalate h with hcolon | ⟨piece, hpiece, hc⟩
    · exact .inl hcolon
    · obtain ⟨p, _, rfl⟩ := List.mem_map.mp hpiece
      exact .inr (Hex.exists_of_mem_lowerDigits hc)
  unfold write at h
  dsimp only at h
  split at h
  · exact hpieces _ h
  · rw [List.mem_append, List.mem_cons, List.mem_cons] at h
    rcases h with h | h | h | h
    · exact hpieces _ h
    · exact .inl h
    · exact .inl h
    · exact hpieces _ h

end Ipv6

end HistorySearch
