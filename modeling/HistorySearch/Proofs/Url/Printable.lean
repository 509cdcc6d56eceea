-- SUMMARY: The paths of URLs are of printable ASCII characters.
import HistorySearch.Proofs.Text.Percent
import HistorySearch.Proofs.Url.Readers

/-!
# Printable paths

Whatever is read as a URL, its path has only printable ASCII characters: segments are encoded when
they are added, and a path without hierarchy is encoded as a whole. Neither a line break nor a
character beyond ASCII gets into a path, however it was written.
-/

namespace HistorySearch

/-- Whether a character is of ASCII and no control character. -/
def isPrintable (c : Char) : Bool :=
  0x20 ≤ c.toNat && c.toNat < 0x7F

theorem isPrintable_of_isAlphanum {c : Char} (h : c.isAlphanum) : isPrintable c := by
  have hlt := isAlphanum_lt h
  revert h
  exact of_ascii (P := fun c => c.isAlphanum → isPrintable c) (by decide) hlt

theorem isPrintable_of_isAlpha {c : Char} (h : c.isAlpha) : isPrintable c :=
  isPrintable_of_isAlphanum (by rw [Char.isAlphanum, h, Bool.true_or])

/-- Encoded text is printable if the characters that are kept are. -/
theorem Percent.isPrintable_encode {keep : Char → Bool} (h : ∀ c, keep c → isPrintable c)
    (cs : List Char) : (encode keep cs).all isPrintable := by
  refine List.all_eq_true.mpr fun d hd => ?_
  rcases mem_encode hd with hkept | rfl | halnum
  · exact h d hkept
  · decide
  · exact isPrintable_of_isAlphanum halnum

/-! ## Segments -/

namespace Path

theorem isPrintable_of_isPlain {c : Char} (h : isPlain c) : isPrintable c := by
  simp only [isPlain, Bool.and_eq_true, decide_eq_true_eq] at h
  obtain ⟨⟨hlow, hhigh⟩, _⟩ := h
  simp only [isPrintable, Bool.and_eq_true, decide_eq_true_eq]
  exact ⟨Nat.le_of_lt hlow, hhigh⟩

theorem isPrintable_encode (seg : List Char) : (encode seg).all isPrintable :=
  Percent.isPrintable_encode (fun _ => isPrintable_of_isPlain) seg

theorem isAlpha_of_isDrive {seg : List Char} (h : isDrive seg) :
    ∃ a b, seg = [a, b] ∧ a.isAlpha := by
  simp only [isDrive, Bool.and_eq_true, decide_eq_true_eq] at h
  obtain ⟨hlength, hstart⟩ := h
  match seg, hlength with
  | [a, b], _ =>
    simp only [startsWithDrive, Bool.and_eq_true] at hstart
    exact ⟨a, b, rfl, hstart.1⟩

theorem isAlpha_of_dividedDrive? {seg drive rest : List Char}
    (h : dividedDrive? seg = some (drive, rest)) : ∃ a, drive = [a, ':'] ∧ a.isAlpha := by
  unfold dividedDrive? at h
  split at h
  · split at h
    · rename_i hdrive
      rw [Bool.and_eq_true] at hdrive
      cases h
      exact ⟨_, rfl, hdrive.1⟩
    · contradiction
  · contradiction

/-- A drive letter is printable with its colon. -/
theorem isPrintable_drive {a : Char} (h : a.isAlpha) : [a, ':'].all isPrintable := by
  have hcolon : HistorySearch.isPrintable ':' := by decide
  simp [isPrintable_of_isAlpha h, hcolon]

namespace Stack

def IsPrintable (s : Stack) : Prop :=
  ∀ seg ∈ s.segments, seg.all isPrintable

variable {s : Stack} {k : SchemeKind}

theorem isPrintable_nil (hasDrive : Bool) : IsPrintable ⟨[], hasDrive⟩ := by
  simp [IsPrintable]

theorem isPrintable_cons {seg : List Char} {segs : List (List Char)} {hasDrive : Bool} :
    IsPrintable ⟨seg :: segs, hasDrive⟩ ↔
      seg.all HistorySearch.isPrintable ∧ ∀ t ∈ segs, t.all HistorySearch.isPrintable :=
  List.forall_mem_cons

theorem IsPrintable.pop (h : s.IsPrintable) : s.pop.IsPrintable :=
  fun seg hseg => h seg (s.pop_subset hseg)

theorem IsPrintable.push (h : s.IsPrintable) (seg : List Char) : (s.push k seg).IsPrintable := by
  unfold Stack.push
  split
  · rename_i hfirst
    obtain ⟨a, b, rfl, ha⟩ := isAlpha_of_isDrive hfirst.2.2
    exact isPrintable_cons.mpr ⟨isPrintable_drive ha, by simp⟩
  · exact isPrintable_cons.mpr ⟨isPrintable_encode seg, h⟩

/-- What the text of a segment says keeps a stack printable, whichever it is. -/
theorem IsPrintable.add (h : s.IsPrintable) (isLast : Bool) (text : List Char) :
    (s.add k isLast text).IsPrintable := by
  have henter : ∀ t : Stack, t.IsPrintable →
      IsPrintable (if isLast then { t with segments := [] :: t.segments } else t) := by
    intro t ht
    split
    · exact isPrintable_cons.mpr ⟨rfl, ht⟩
    · exact ht
  unfold Stack.add
  cases hsays : Segment.ofText k s.segments.isEmpty text with
  | above => exact henter _ h.pop
  | here => exact henter _ h
  | name seg => exact h.push seg
  | divided drive rest =>
    unfold Segment.ofText at hsays
    split at hsays
    · rename_i hdivided
      cases hsays
      split at hdivided
      · obtain ⟨a, rfl, ha⟩ := isAlpha_of_dividedDrive? hdivided
        refine isPrintable_cons.mpr ⟨isPrintable_encode rest, ?_⟩
        exact List.forall_mem_cons.mpr ⟨isPrintable_drive ha, h⟩
      · contradiction
    · dsimp only at hsays
      split at hsays
      · cases hsays
      · split at hsays <;> cases hsays

theorem IsPrintable.addAll (h : s.IsPrintable) (texts : List (List Char)) :
    (s.addAll k texts).IsPrintable :=
  addAll_of_add (fun _ isLast text _ hs => hs.add isLast text) h

theorem IsPrintable.read (h : s.IsPrintable) (cs : List Char) :
    (Path.read k s cs).IsPrintable :=
  h.addAll _

/-- A path in order has the segments of its stack; a `file` path may have an empty one instead. -/
theorem mem_toPath {seg : String} (h : seg ∈ s.toPath k) :
    seg.toList ∈ s.segments ∨ seg.toList = [] := by
  obtain ⟨cs, hcs, rfl⟩ := List.mem_map.mp h
  rw [String.toList_ofList]
  split at hcs
  · split at hcs
    · exact .inr (List.mem_singleton.mp hcs)
    · rename_i hdrop
      refine .inl (List.mem_reverse.mp ?_)
      exact (List.dropWhile_sublist _).subset (hdrop ▸ hcs)
  · exact .inl (List.mem_reverse.mp hcs)

theorem IsPrintable.toPath (h : s.IsPrintable) :
    ∀ seg ∈ s.toPath k, seg.toList.all HistorySearch.isPrintable := by
  intro seg hseg
  rcases mem_toPath hseg with hmem | hnil
  · exact h _ hmem
  · rw [hnil]
    rfl

end Stack

end Path

/-! ## Paths -/

def UrlPath.IsPrintable (path : UrlPath) : Prop :=
  path.toChars.all isPrintable

namespace Url

/-- A hierarchy is printable exactly if its segments are. -/
theorem isPrintable_hierarchy {segs : List String} :
    (UrlPath.hierarchy segs).IsPrintable ↔ ∀ seg ∈ segs, seg.toList.all isPrintable := by
  have hslash : isPrintable '/' := by decide
  simp [UrlPath.IsPrintable, UrlPath.toChars, Path.toChars, List.all_flatMap, hslash]

theorem isPrintable_pathStack {u : Url} (h : u.path.IsPrintable) : (pathStack u).IsPrintable := by
  unfold pathStack
  split
  · rename_i segs hpath
    rw [hpath, isPrintable_hierarchy] at h
    intro seg hseg
    obtain ⟨t, ht, rfl⟩ := List.mem_map.mp (List.mem_reverse.mp hseg)
    exact h t ht
  · exact Path.Stack.isPrintable_nil false

theorem isPrintable_directoryStack {u : Url} (h : u.path.IsPrintable) :
    (directoryStack u).IsPrintable :=
  fun seg hseg => isPrintable_pathStack h seg (directoryStack_subset u hseg)

theorem isPrintable_readPathOnto (u : Url) {stack : Path.Stack} (h : stack.IsPrintable)
    (cs : List Char) : (readPathOnto u stack cs).path.IsPrintable :=
  isPrintable_hierarchy.mpr (h.read _).toPath

theorem isPrintable_readAfterSlashes {k : SchemeKind} {scheme : String} {cs : List Char} {u : Url}
    (h : readAfterSlashes k scheme cs = .ok u) : u.path.IsPrintable := by
  obtain ⟨_, _, _, rest, _, _, rfl⟩ := of_readAfterSlashes h
  refine isPrintable_hierarchy.mpr ?_
  unfold pathAfterAuthority
  split
  · split <;> simp
  · exact ((Path.Stack.isPrintable_nil false).read _).toPath

/-! ## Schemes -/

theorem isPrintable_fileRootOf (base : Option Url) (cs : List Char) :
    (fileRootOf base cs).2.IsPrintable := by
  have hnil := Path.Stack.isPrintable_nil false
  unfold fileRootOf
  split
  · split
    · exact hnil
    split
    · split
      · split
        · rename_i halpha
          exact Path.Stack.isPrintable_cons.mpr ⟨Path.isPrintable_drive halpha, by simp⟩
        · exact hnil
      · exact hnil
    · exact hnil
  · exact hnil

theorem isPrintable_readBesides {b : Url} (h : b.path.IsPrintable) (whole cs : List Char) :
    (readBesides b whole cs).path.IsPrintable := by
  have hdirectory := isPrintable_directoryStack h
  unfold readBesides
  dsimp only
  split
  · rename_i segs hsegs
    have hstack := isPrintable_pathStack h
    rw [Path.Stack.IsPrintable, hsegs] at hstack
    have habove : Path.Stack.IsPrintable ⟨segs, false⟩ := (List.forall_mem_cons.mp hstack).2
    split
    · exact isPrintable_readPathOnto _ hdirectory _
    split
    · exact isPrintable_readPathOnto _ habove _
    split
    · exact isPrintable_readPathOnto _ hdirectory _
    · exact h
  · exact isPrintable_readPathOnto _ hdirectory _

theorem isPrintable_readFile {base : Option Url} (hbase : ∀ b ∈ base, b.path.IsPrintable)
    {whole cs : List Char} {u : Url} (h : readFile base whole cs = .ok u) :
    u.path.IsPrintable := by
  have hnil := Path.Stack.isPrintable_nil false
  -- Every path is read onto a stack that is printable, or it is the one of the base.
  cases of_readFile h with
  | kept hb hkept => exact hkept.path ▸ hbase _ hb
  | besides hb _ _ => exact isPrintable_readBesides (hbase _ hb) _ _
  | root _ => exact isPrintable_readPathOnto _ hnil _
  | rootOf _ _ => exact isPrintable_readPathOnto _ (isPrintable_fileRootOf _ _) _
  | authority _ _ _ => exact isPrintable_hierarchy.mpr (hnil.read _).toPath

theorem isPrintable_readRelative {base : Url} (hbase : base.path.IsPrintable) {cs : List Char}
    {u : Url} (h : readRelative base cs = .ok u) : u.path.IsPrintable := by
  cases of_readRelative h with
  | kept hkept => exact hkept.path ▸ hbase
  | authority hauthority => exact isPrintable_readAfterSlashes hauthority
  | root _ => exact isPrintable_readPathOnto _ (Path.Stack.isPrintable_nil false) _
  | directory _ => exact isPrintable_readPathOnto _ (isPrintable_directoryStack hbase) _

theorem isPrintable_readWeb {base : Option Url} (hbase : ∀ b ∈ base, b.path.IsPrintable)
    {scheme : String} {cs : List Char} {u : Url} (h : readWeb base scheme cs = .ok u) :
    u.path.IsPrintable := by
  unfold readWeb at h
  dsimp only at h
  split at h
  · split at h
    · exact isPrintable_readRelative (hbase _ rfl) h
    · exact isPrintable_readAfterSlashes h
  · exact isPrintable_readAfterSlashes h

theorem isPrintable_readOther {scheme : String} {cs : List Char} {u : Url}
    (h : readOther scheme cs = .ok u) : u.path.IsPrintable := by
  unfold readOther at h
  split at h
  · exact isPrintable_readAfterSlashes h
  · cases h
    exact isPrintable_readPathOnto _ (Path.Stack.isPrintable_nil false) _
  · cases h
    -- Here spaces are kept, but no control characters.
    rw [UrlPath.IsPrintable, withTail, UrlPath.toChars, String.toList_ofList]
    refine Percent.isPrintable_encode (fun c hkept => ?_) _
    simp only [Host.isControl, isPrintable, Bool.and_eq_true, Bool.not_eq_true',
      Bool.or_eq_false_iff, decide_eq_true_eq, decide_eq_false_iff_not] at hkept ⊢
    omega

/-! ## URLs -/

theorem isPrintable_readChars {base : Option Url} (hbase : ∀ b ∈ base, b.path.IsPrintable)
    {whole : List Char} {u : Url} (h : readChars base whole = .ok u) : u.path.IsPrintable := by
  simp only [readChars] at h
  split at h
  · split at h
    · exact isPrintable_readFile (fun b hb => hbase b (Option.mem_filter_iff.mp hb).1) h
    · exact isPrintable_readWeb hbase h
    · exact isPrintable_readOther h
  · split at h
    · cases h
    · rename_i b
      have hb := hbase b rfl
      split at h
      · cases h
        exact hb
      split at h
      · cases h
      split at h
      · exact isPrintable_readFile hbase h
      · exact isPrintable_readRelative hb h

/-- The path of a URL that was read is printable. -/
theorem isPrintable_parse {text : String} {u : Url} (h : parse text = .ok u) :
    u.path.IsPrintable :=
  isPrintable_readChars (by simp) h

/-- So is that of a reference that was resolved against such a URL. -/
theorem isPrintable_join {base u : Url} {text : String} (hbase : base.path.IsPrintable)
    (h : base.join text = .ok u) : u.path.IsPrintable := by
  refine isPrintable_readChars (fun b hb => ?_) h
  obtain rfl := Option.some.inj hb
  exact hbase

end Url

end HistorySearch
