-- SUMMARY: Paths that are read as they are written.
import HistorySearch.Proofs.Text.Blank
import HistorySearch.Proofs.Text.Percent
import HistorySearch.Url.Path

/-!
# Plain paths

A plain path is a slash alone or segments of letters, digits, `-` and `_`. Nothing in it is
encoded, dropped or resolved when it is read, so that the path of a URL gives the same text again.
-/

namespace HistorySearch.Path

/-! ## Characters -/

/-- The characters of the segments of a plain path. -/
def isLetter (c : Char) : Bool :=
  c.isAlphanum || c = '-' || c = '_'

/-- The characters of a plain path. -/
def isLetterOrSlash (c : Char) : Bool :=
  isLetter c || c = '/'

theorem isLetterOrSlash_lt {c : Char} (h : isLetterOrSlash c) : c.toNat < 0x80 := by
  simp only [isLetterOrSlash, isLetter, Bool.or_eq_true, decide_eq_true_eq] at h
  rcases h with ((h | rfl) | rfl) | rfl
  · exact isAlphanum_lt h
  all_goals decide

/-- A character of a plain path is visible and has no other meaning than itself. -/
theorem visible_of_isLetterOrSlash {c : Char} (h : isLetterOrSlash c) :
    0x20 < c.toNat ∧ c ≠ '?' ∧ c ≠ '#' ∧ c ≠ '\\' := by
  have hlt := isLetterOrSlash_lt h
  revert h
  exact of_ascii (P := fun c => isLetterOrSlash c →
    0x20 < c.toNat ∧ c ≠ '?' ∧ c ≠ '#' ∧ c ≠ '\\') (by decide) hlt

/-- A letter stands for itself in a segment and is no part of dots, encoded or not. -/
theorem isPlain_of_isLetter {c : Char} (h : isLetter c) :
    isPlain c ∧ c.toLower ≠ '.' ∧ c.toLower ≠ '%' ∧ c ≠ '/' := by
  have hlt : c.toNat < 0x80 := isLetterOrSlash_lt (by simp [isLetterOrSlash, h])
  revert h
  exact of_ascii (P := fun c => isLetter c →
    isPlain c ∧ c.toLower ≠ '.' ∧ c.toLower ≠ '%' ∧ c ≠ '/') (by decide) hlt

/-- Nothing is left out of a text of visible characters. -/
theorem visible_eq_self {cs : List Char} (h : ∀ c ∈ cs, 0x20 < c.toNat) : visible cs = cs := by
  refine List.filter_eq_self.mpr fun c hc => ?_
  have hc := h c hc
  have hignored : c ≠ '\t' ∧ c ≠ '\n' ∧ c ≠ '\r' := by
    refine ⟨?_, ?_, ?_⟩ <;> rintro rfl <;> exact absurd hc (by decide)
  simp [isIgnored, hignored]

/-- A character that stands for itself in a segment is visible. -/
theorem visible_of_isPlain {c : Char} (h : isPlain c) :
    0x20 < c.toNat ∧ c ≠ '?' ∧ c ≠ '#' := by
  simp only [isPlain, Bool.and_eq_true, decide_eq_true_eq] at h
  refine ⟨h.1.1, ?_, ?_⟩ <;> rintro rfl <;> exact absurd h.2 (by decide)

/-! ## Pieces -/

/-- A piece of a text is of the characters of the text that do not separate. -/
theorem of_mem_splitOnP {p : Char → Bool} {cs seg : List Char} (hseg : seg ∈ cs.splitOnP p)
    {c : Char} (hc : c ∈ seg) : c ∈ cs ∧ p c = false := by
  induction cs generalizing seg with
  | nil =>
    obtain rfl : seg = [] := by simpa using hseg
    contradiction
  | cons d ds ih =>
    rw [List.splitOnP_cons_eq_if_modifyHead] at hseg
    split at hseg
    · rcases List.mem_cons.mp hseg with rfl | hseg
      · contradiction
      · exact ⟨List.mem_cons_of_mem _ (ih hseg hc).1, (ih hseg hc).2⟩
    · rename_i hplain
      cases hsplit : ds.splitOnP p with
      | nil => exact absurd hsplit (List.splitOnP_ne_nil _ _)
      | cons first rest =>
        rw [hsplit] at hseg ih
        rcases List.mem_cons.mp hseg with rfl | hseg
        · rcases List.mem_cons.mp hc with rfl | hc
          · exact ⟨List.mem_cons_self, Bool.eq_false_iff.mpr hplain⟩
          · have hfirst := ih List.mem_cons_self hc
            exact ⟨List.mem_cons_of_mem _ hfirst.1, hfirst.2⟩
        · have hrest := ih (List.mem_cons_of_mem _ hseg) hc
          exact ⟨List.mem_cons_of_mem _ hrest.1, hrest.2⟩

/-! ## Segments -/

/-- A segment that is read as it stands: nothing of it is encoded or separates, and it is no
dots. -/
structure IsSettled (seg : List Char) : Prop where
  plain : ∀ c ∈ seg, isPlain c
  whole : ∀ c ∈ seg, SchemeKind.isSeparator .web c = false
  named : isDoubleDot seg = false ∧ isSingleDot seg = false

theorem isSettled_nil : IsSettled [] :=
  ⟨by simp, by simp, by decide⟩

theorem isSettled_of_letters {seg : List Char} (h : ∀ c ∈ seg, isLetter c) : IsSettled seg where
  plain c hc := (isPlain_of_isLetter (h c hc)).1
  whole c hc := by
    have hslash := (isPlain_of_isLetter (h c hc)).2.2.2
    have hback := (visible_of_isLetterOrSlash (c := c) (by simp [isLetterOrSlash, h c hc])).2.2.2
    simp [SchemeKind.isSeparator, hslash, hback]
  named := by
    cases seg with
    | nil => decide
    | cons c cs =>
      obtain ⟨_, hdot, hpercent, _⟩ := isPlain_of_isLetter (h c List.mem_cons_self)
      simp [isDoubleDot, isSingleDot, Ne.symm hdot, Ne.symm hpercent]

/-- All that a segment of a web URL does to the segments before it. -/
theorem Stack.segments_add (s : Stack) (isLast : Bool) (text : List Char) :
    (s.add .web isLast text).segments =
      if isDoubleDot (visible text) then (if isLast then [[]] else []) ++ s.pop.segments
      else if isSingleDot (visible text) then (if isLast then [[]] else []) ++ s.segments
      else encode (visible text) :: s.segments := by
  have hsays : Segment.ofText .web s.segments.isEmpty text =
      if isDoubleDot (visible text) then .above
      else if isSingleDot (visible text) then .here else .name (visible text) := rfl
  simp only [add, hsays]
  split_ifs <;> rfl

/-- A settled segment is added as it is. -/
theorem IsSettled.segments_add {seg : List Char} (h : IsSettled seg) (isLast : Bool) (s : Stack) :
    (s.add .web isLast seg).segments = seg :: s.segments := by
  have hvisible : visible seg = seg :=
    visible_eq_self fun c hc => (visible_of_isPlain (h.plain c hc)).1
  have hencode : encode seg = seg := Percent.encode_eq_self h.plain
  rw [Stack.segments_add, hvisible, hencode]
  simp [h.named]

theorem segments_addAll {segs : List (List Char)} (h : ∀ seg ∈ segs, IsSettled seg)
    (s : Stack) : (s.addAll .web segs).segments = segs.reverse ++ s.segments := by
  induction segs generalizing s with
  | nil => rfl
  | cons seg segs ih =>
    have hseg := h seg List.mem_cons_self
    have hsegs := fun t ht => h t (List.mem_cons_of_mem _ ht)
    cases segs with
    | nil => exact hseg.segments_add true s
    | cons next segs =>
      have hstep : s.addAll .web (seg :: next :: segs) =
          (s.add .web false seg).addAll .web (next :: segs) := rfl
      rw [hstep, ih hsegs, hseg.segments_add, List.reverse_cons (a := seg), List.append_assoc]
      rfl

/-- Settled segments are the pieces of the path that they make. -/
theorem splitOnP_toChars {seg : String} {segs : List String}
    (h : ∀ t ∈ seg :: segs, IsSettled t.toList) :
    (seg.toList ++ toChars segs).splitOnP (SchemeKind.isSeparator .web) =
      (seg :: segs).map String.toList := by
  induction segs generalizing seg with
  | nil =>
    have hseg := (h seg List.mem_cons_self).whole
    rw [toChars, List.flatMap_nil, List.append_nil, List.splitOnP_eq_singleton hseg]
    rfl
  | cons next segs ih =>
    have hseg := (h seg List.mem_cons_self).whole
    have hnext := ih fun t ht => h t (List.mem_cons_of_mem _ ht)
    have hchars : toChars (next :: segs) = '/' :: (next.toList ++ toChars segs) := rfl
    rw [hchars, List.splitOnP_append_cons_of_forall_mem hseg '/' (by decide), hnext]
    rfl

/-- The path of settled segments is read as these segments. -/
theorem toPath_read {seg : String} {segs : List String}
    (h : ∀ t ∈ seg :: segs, IsSettled t.toList) :
    (read .web ⟨[], false⟩ (seg.toList ++ toChars segs)).toPath .web = seg :: segs := by
  have hsettled : ∀ t ∈ (seg :: segs).map String.toList, IsSettled t := by
    intro t ht
    obtain ⟨name, hname, rfl⟩ := List.mem_map.mp ht
    exact h name hname
  rw [read, splitOnP_toChars h, Stack.toPath, segments_addAll hsettled, List.append_nil,
    List.reverse_reverse]
  simp

/-- The pieces between the slashes of a path give the path again. -/
theorem flatMap_splitOnP {cs : List Char} (h : ∀ c ∈ cs, c ≠ '\\') :
    (cs.splitOnP (SchemeKind.isSeparator .web)).flatMap ('/' :: ·) = '/' :: cs := by
  induction cs with
  | nil => rfl
  | cons c cs ih =>
    have hflat := ih fun d hd => h d (List.mem_cons_of_mem _ hd)
    have hback := h c List.mem_cons_self
    rw [List.splitOnP_cons_eq_if_modifyHead]
    by_cases hslash : c = '/'
    · subst hslash
      exact congrArg ('/' :: ·) hflat
    · rw [if_neg (by simp [SchemeKind.isSeparator, hslash, hback])]
      cases hsplit : cs.splitOnP (SchemeKind.isSeparator .web) with
      | nil => exact absurd hsplit (List.splitOnP_ne_nil _ _)
      | cons first rest =>
        rw [hsplit] at hflat
        have hjoined : first ++ rest.flatMap ('/' :: ·) = cs := List.tail_eq_of_cons_eq hflat
        rw [← hjoined]
        rfl

/-- A path of letters and slashes that is read after its first slash is the path that was read. -/
theorem toChars_read {cs : List Char} (h : ∀ c ∈ cs, isLetterOrSlash c) :
    toChars ((read .web ⟨[], false⟩ cs).toPath .web) = '/' :: cs := by
  have hflat := flatMap_splitOnP fun c hc => (visible_of_isLetterOrSlash (h c hc)).2.2.2
  have hsettled : ∀ seg ∈ cs.splitOnP (SchemeKind.isSeparator .web), IsSettled seg := by
    intro seg hseg
    refine isSettled_of_letters fun c hc => ?_
    obtain ⟨hmem, hwhole⟩ := of_mem_splitOnP hseg hc
    have hslash : c ≠ '/' := by
      rintro rfl
      contradiction
    simpa [isLetterOrSlash, hslash] using h c hmem
  have hsegments := segments_addAll hsettled ⟨[], false⟩
  simp only [toChars, read, Stack.toPath]
  rw [hsegments, List.append_nil, List.reverse_reverse]
  simpa [List.flatMap_map] using hflat

/-! ## Plain paths -/

/-- A slash alone, or segments of letters, digits, `-` and `_`, each after a slash. -/
def IsPlain (path : String) : Prop :=
  path = "/" ∨ ∃ segs : List String, segs ≠ [] ∧
    (∀ seg ∈ segs, seg ≠ "" ∧ ∀ c ∈ seg.toList, isLetter c) ∧ path.toList = toChars segs

/-- Letters and slashes after a first slash that no other follows at once. -/
structure IsRooted (path : String) (rest : List Char) : Prop where
  toList_eq : path.toList = '/' :: rest
  letters : ∀ c ∈ rest, isLetterOrSlash c
  single : rest.head? ≠ some '/'

theorem isLetterOrSlash_of_mem_toChars {segs : List String}
    (h : ∀ seg ∈ segs, ∀ c ∈ seg.toList, isLetter c) {c : Char} (hc : c ∈ toChars segs) :
    isLetterOrSlash c := by
  obtain ⟨seg, hseg, hc⟩ := List.mem_flatMap.mp hc
  rcases List.mem_cons.mp hc with rfl | hc
  · decide
  · simp [isLetterOrSlash, h seg hseg c hc]

theorem IsPlain.isRooted {path : String} (h : IsPlain path) : ∃ rest, IsRooted path rest := by
  rcases h with rfl | ⟨segs, hne, hsegs, hpath⟩
  · exact ⟨[], by simp, by simp, by simp⟩
  · cases segs with
    | nil => exact absurd rfl hne
    | cons seg segs =>
      have hletters : ∀ t ∈ seg :: segs, ∀ c ∈ t.toList, isLetter c := fun t ht => (hsegs t ht).2
      have hchars : toChars (seg :: segs) = '/' :: (seg.toList ++ toChars segs) := rfl
      refine ⟨seg.toList ++ toChars segs, hpath.trans hchars, fun c hc => ?_, ?_⟩
      · refine isLetterOrSlash_of_mem_toChars hletters ?_
        rw [hchars]
        exact List.mem_cons_of_mem _ hc
      · obtain ⟨hempty, hfirst⟩ := hsegs seg List.mem_cons_self
        cases hlist : seg.toList with
        | nil => exact absurd (String.toList_eq_nil_iff.mp hlist) hempty
        | cons c cs =>
          have hc : isLetter c := hfirst c (hlist ▸ List.mem_cons_self)
          intro hslash
          exact (isPlain_of_isLetter hc).2.2.2 (Option.some.inj hslash)

/-- A path between two others of letters. -/
theorem IsRooted.predicate {path : String} {rest : List Char} (h : IsRooted path rest) :
    IsRooted ("/api" ++ path ++ "/predicate")
      ("api".toList ++ path.toList ++ "/predicate".toList) where
  toList_eq := by
    rw [String.toList_append, String.toList_append]
    rfl
  letters c hc := by
    have hapi : "api".toList.all isLetterOrSlash := by decide
    have hend : "/predicate".toList.all isLetterOrSlash := by decide
    rw [h.toList_eq, List.mem_append, List.mem_append, List.mem_cons] at hc
    rcases hc with (hc | rfl | hc) | hc
    · exact List.all_eq_true.mp hapi c hc
    · decide
    · exact h.letters c hc
    · exact List.all_eq_true.mp hend c hc
  single := by
    simp

end HistorySearch.Path
