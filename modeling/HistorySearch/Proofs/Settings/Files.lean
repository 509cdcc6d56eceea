-- SUMMARY: A file that was written is read with the same content.
import Mathlib.Data.List.Basic
import Mathlib.Tactic.SplitIfs
import HistorySearch.Proofs.Fallible
import HistorySearch.Settings.Files

/-!
# Written files

A file is only put where no directory is, so that the directories that lead to it lead there
afterwards as before. The same path then leads to the file.
-/

namespace HistorySearch

namespace FileTree

variable {t : FileTree} {p place : Place} {content : String}

/-! ## Putting a file -/

theorem file?_put_self : (t.put place content).file? place = some content := by
  simp [file?, put]

theorem file?_put_of_ne (h : p ≠ place) : (t.put place content).file? p = t.file? p := by
  have hfilter : ∀ files : List (Place × String),
      (files.filter (·.1 ≠ place)).lookup p = files.lookup p := by
    intro files
    induction files with
    | nil => rfl
    | cons f files ih =>
      obtain ⟨q, s⟩ := f
      by_cases hq : q = place
      · have hne : (p == q) = false := beq_false_of_ne (hq ▸ h)
        rw [List.filter_cons_of_neg (by simp [hq]), List.lookup_cons, hne, ih]
      · rw [List.filter_cons_of_pos (by simp [hq]), List.lookup_cons, List.lookup_cons, ih]
  have hne : (p == place) = false := beq_false_of_ne h
  rw [file?, put, List.lookup_cons, hne, hfilter]
  rfl

/-- Directories stay directories. -/
theorem isDirectory_put (h : t.isDirectory p) : (t.put place content).isDirectory p := by
  simp only [isDirectory, Bool.or_eq_true, List.any_eq_true, List.mem_append, List.mem_map] at h ⊢
  refine h.imp_right ?_
  rintro ⟨above, hmade | ⟨f, hf, rfl⟩, hprefix⟩
  · exact ⟨above, .inl hmade, hprefix⟩
  · refine ⟨f.1.dropLast, .inr ?_, hprefix⟩
    by_cases hplace : f.1 = place
    · exact ⟨(place, content), List.mem_cons_self, by rw [hplace]⟩
    · refine ⟨f, List.mem_cons_of_mem _ (List.mem_filter.mpr ⟨hf, ?_⟩), rfl⟩
      simpa using hplace

theorem isThere_put (h : t.isThere p) : (t.put place content).isThere p := by
  by_cases hp : p = place
  · rw [isThere, hp, file?_put_self]
    rfl
  · rw [isThere, Bool.or_eq_true] at h ⊢
    rw [file?_put_of_ne hp]
    exact h.imp_right isDirectory_put

/-! ## Following paths -/

variable {q : Place} {name : String}

/-- A name is only followed from where no file is, and leads to something. -/
theorem of_follow (h : t.follow p name = .ok q) :
    t.file? p = none ∧ t.enter p name = .ok q ∧ t.isThere q := by
  rw [follow] at h
  split at h
  · rename_i r henter
    split_ifs at h with hthere
    obtain rfl := Except.ok.inj h
    refine ⟨?_, henter, hthere⟩
    rw [enter] at henter
    split_ifs at henter with hfile
    all_goals
      exact Option.not_isSome_iff_eq_none.mp hfile
  · contradiction

/-- What is there and is no file is a directory, where a file is not put. -/
theorem ne_of_isThere (hplace : t.isDirectory place = false) (hp : t.isThere p)
    (hfile : t.file? p = none) : p ≠ place := by
  rintro rfl
  rw [isThere, hfile, hplace] at hp
  contradiction

/-- Names that were followed lead to the same place, if the file is put where no directory is. -/
theorem foldlM_follow_put (content : String) (hplace : t.isDirectory place = false)
    {names : List String} (hp : t.isThere p) (h : names.foldlM t.follow p = .ok q) :
    t.isThere q ∧ names.foldlM (t.put place content).follow p = .ok q := by
  induction names generalizing p with
  | nil =>
    obtain rfl := Except.ok.inj h
    exact ⟨hp, rfl⟩
  | cons name names ih =>
    rw [List.foldlM_cons] at h
    obtain ⟨r, hfollow, hrest⟩ := ok_of_bind h
    obtain ⟨hfile, henter, hr⟩ := of_follow hfollow
    obtain ⟨hq, hput⟩ := ih hr hrest
    have hne := ne_of_isThere hplace hp hfile
    have hsame : (t.put place content).follow p name = .ok r := by
      have hthere : (t.put place content).isThere r := isThere_put hr
      have hsame : (t.put place content).enter p name = .ok r := by
        rw [← henter, enter, enter, file?_put_of_ne hne]
      rw [follow, hsame]
      exact if_pos hthere
    refine ⟨hq, ?_⟩
    rw [List.foldlM_cons, hsame]
    exact hput

/-! ## Paths of files -/

/-- Only what ends with a separator has nothing after the last one. -/
theorem suffix_of_getLast?_splitOn {cs : List Char} {a : Char}
    (h : (cs.splitOn a).getLast? = some []) : cs = [] ∨ [a] <:+ cs := by
  induction cs with
  | nil => exact .inl rfl
  | cons c cs ih =>
    right
    rw [List.splitOn_cons_eq_if_modifyHead] at h
    cases hpieces : cs.splitOn a with
    | nil => exact absurd hpieces (List.splitOn_ne_nil a cs)
    | cons piece pieces =>
      rw [hpieces] at h ih
      split_ifs at h with hc
      · rw [List.getLast?_cons_cons] at h
        rcases ih h with rfl | hsuffix
        · obtain rfl : c = a := beq_iff_eq.mp hc
          exact List.suffix_refl _
        · exact hsuffix.trans (List.suffix_cons c cs)
      · rw [List.modifyHead_cons] at h
        cases pieces with
        | nil => simp at h
        | cons next pieces =>
          rw [List.getLast?_cons_cons] at h ih
          rcases ih h with rfl | hsuffix
          · simp at hpieces
          · exact hsuffix.trans (List.suffix_cons c cs)

/-- A path that does not end with a slash has a last name. -/
theorem namesToLast_eq {path : String} (hne : path ≠ "") (hslash : path.endsWith "/" = false) :
    namesToLast path = names path := by
  have hlast : ((path.toList.splitOn '/').map String.ofList).getLast? ≠ some "" := by
    intro heq
    rw [List.getLast?_map, Option.map_eq_some_iff] at heq
    obtain ⟨piece, hpiece, hempty⟩ := heq
    have hnil : piece = [] := by simpa using congrArg String.toList hempty
    rcases suffix_of_getLast?_splitOn (hnil ▸ hpiece) with hpath | hsuffix
    · exact hne (by simpa using congrArg String.ofList hpath)
    · have hends : path.endsWith "/" := by
        rw [String.endsWith_eq_endsWith_toSlice, String.Slice.endsWith_string_iff]
        simpa using hsuffix
      rw [hslash] at hends
      contradiction
  have hnames : (names path).getLast? ≠ some "" := by
    rw [names]
    split
    · rename_i name rest heq
      rw [heq, List.getLast?_cons_cons] at hlast
      rwa [List.getLast?_cons_cons]
    · exact hlast
  rw [namesToLast]
  cases hreverse : (names path).reverse with
  | nil =>
    rw [List.reverse_eq_nil_iff.mp hreverse]
    rfl
  | cons name rest =>
    have hname : name ≠ "" := by
      rintro rfl
      apply hnames
      rw [← List.head?_reverse, hreverse]
      rfl
    rw [List.dropWhile_cons_of_neg (by simp [hname]), ← hreverse, List.reverse_reverse]

/-! ## Writing and reading -/

/-- What a write needs that succeeds. -/
structure CanWrite (t : FileTree) (path : String) (above place : Place) (name : String) : Prop where
  check : checkPath path = .ok ()
  directory : (namesToLast path).dropLast.foldlM t.follow [] = .ok above
  free : t.file? above = none
  slash : path.endsWith "/" = false
  last : (namesToLast path).getLast?.getD "" = name
  idle : isIdle name = false
  enter : t.enter above name = .ok place
  noDirectory : t.isDirectory place = false

theorem canWrite_of_write {t' : FileTree} {path : String} (h : t.write path content = .ok t') :
    ∃ above place name, t.CanWrite path above place name ∧ t' = t.put place content := by
  obtain ⟨_, hcheck, h⟩ := ok_of_bind h
  obtain ⟨above, habove, h⟩ := ok_of_bind h
  split_ifs at h with hfree
  · contradiction
  dsimp only at h
  split_ifs at h with hname
  · contradiction
  obtain ⟨place, henter, h⟩ := ok_of_bind h
  split_ifs at h with hdirectory
  · contradiction
  obtain rfl := Except.ok.inj h
  simp only [not_or] at hname
  exact ⟨above, place, _, ⟨hcheck, habove, Option.not_isSome_iff_eq_none.mp hfree,
    by simpa using hname.1, rfl, by simpa using hname.2.1, henter, by simpa using hdirectory⟩, rfl⟩

/-- A content is read exactly from a path that leads to a file with it. -/
theorem read_eq_ok_iff {path s : String} :
    t.read path = .ok s ↔ ∃ q, t.locate path = .ok q ∧ t.file? q = some s := by
  constructor
  · intro h
    obtain ⟨q, hlocate, hfile⟩ := ok_of_bind h
    refine ⟨q, hlocate, ?_⟩
    split at hfile
    · rename_i found
      obtain rfl := Except.ok.inj hfile
      exact found
    · contradiction
  · rintro ⟨q, hlocate, hfile⟩
    simp only [read, hlocate, bind, Except.bind, hfile]
    rfl

/-- A file that was written is read from the same path. -/
theorem read_of_write {t' : FileTree} {path : String} (h : t.write path content = .ok t') :
    t'.read path = .ok content := by
  obtain ⟨above, place, name, hcan, rfl⟩ := canWrite_of_write h
  have hpath : path ≠ "" := by
    rintro rfl
    have hempty : checkPath "" = .error .notFound := rfl
    rw [hcan.check] at hempty
    contradiction
  have hnames := namesToLast_eq hpath hcan.slash
  have hroot : t.isThere [] := by
    simp [isThere, isDirectory]
  obtain ⟨habove, hput⟩ := foldlM_follow_put content hcan.noDirectory hroot
    hcan.directory
  have hne := ne_of_isThere hcan.noDirectory habove hcan.free
  have hlast : (t.put place content).follow above name = .ok place := by
    have henter : (t.put place content).enter above name = .ok place := by
      rw [← hcan.enter, enter, enter, file?_put_of_ne hne]
    have hthere : (t.put place content).isThere place := by
      rw [isThere, file?_put_self]
      rfl
    rw [follow, henter]
    exact if_pos hthere
  have hsplit : (names path).dropLast ++ [name] = names path := by
    apply List.dropLast_append_getLast?
    change _ = _
    have hgetD := hcan.last
    rw [hnames] at hgetD
    cases hlast? : (names path).getLast? with
    | none =>
      rw [hlast?] at hgetD
      exact absurd hcan.idle (by rw [← hgetD]; decide)
    | some last =>
      rw [hlast?] at hgetD
      exact congrArg some hgetD
  have hlocate : (t.put place content).locate path = .ok place := by
    rw [locate, hcan.check, ← hsplit, ← hnames]
    change List.foldlM _ _ _ = _
    rw [List.foldlM_append, hput]
    change List.foldlM _ _ _ = _
    rw [List.foldlM_cons, hlast]
    rfl
  exact read_eq_ok_iff.mpr ⟨place, hlocate, file?_put_self⟩

/-! ## Files beside a new one -/

theorem pathExists_of_read {path s : String} (h : t.read path = .ok s) : t.pathExists path := by
  obtain ⟨q, hlocate, _⟩ := read_eq_ok_iff.mp h
  rw [pathExists, hlocate]

/-- A file that is put where nothing was leaves what is read from other files. -/
theorem read_put {path s : String} (hplace : t.isThere place = false) (h : t.read path = .ok s) :
    (t.put place content).read path = .ok s := by
  obtain ⟨hnone, hdirectory⟩ := Bool.or_eq_false_iff.mp hplace
  obtain ⟨q, hlocate, hfile⟩ := read_eq_ok_iff.mp h
  obtain ⟨_, hcheck, hnames⟩ := ok_of_bind hlocate
  have hroot : t.isThere [] := by
    simp [isThere, isDirectory]
  obtain ⟨-, hput⟩ := foldlM_follow_put content hdirectory hroot hnames
  have hsame : (t.put place content).locate path = .ok q := by
    rw [locate, hcheck]
    exact hput
  have hne : q ≠ place := by
    rintro rfl
    rw [hfile] at hnone
    contradiction
  exact read_eq_ok_iff.mpr ⟨q, hsame, (file?_put_of_ne hne).trans hfile⟩

end FileTree

end HistorySearch
