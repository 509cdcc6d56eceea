-- SUMMARY: The path and the query of a URL lead back to it, unless the path reads as an authority.
import HistorySearch.Proofs.Url.Reference
import HistorySearch.Proofs.Url.Settled

/-!
# References to the same place

A redirect names its target by a path and a query alone, and the browser resolves them against the
URL it is at. Of a settled URL they lead back to the same origin, path and query. The exception is
a path that starts with two slashes: on its own it is no path but the authority of another place,
so that it never leads back.
-/

namespace HistorySearch

namespace Path.Stack

/-! ## Lengths -/

/-- The length of the path of a stack. -/
def pathLength (s : Stack) : Nat :=
  (s.segments.flatMap ('/' :: ·)).length

theorem pathLength_pop (s : Stack) : s.pop.pathLength ≤ s.pathLength := by
  unfold pop
  split
  · exact Nat.le_refl _
  · rename_i seg segs hsegments
    split
    · exact Nat.le_refl _
    · rw [pathLength, pathLength, hsegments, List.flatMap_cons, List.length_append]
      exact Nat.le_add_left _ _

/-- What is read of a segment adds no more than the segment and its slash, if nothing of it has to
be encoded. -/
theorem pathLength_add (s : Stack) (isLast : Bool) {text : List Char}
    (hplain : ∀ c ∈ text, isPlain c) :
    (s.add .web isLast text).pathLength ≤ s.pathLength + (text.length + 1) := by
  have hdirectory :
      ((if isLast then [[]] else [] : List (List Char)).flatMap ('/' :: ·)).length ≤ 1 := by
    split <;> simp
  have hvisible : (visible text).length ≤ text.length := List.length_filter_le _ _
  have hencode : encode (visible text) = visible text :=
    Percent.encode_eq_self fun c hc => hplain c (List.mem_of_mem_filter hc)
  have hpop := s.pathLength_pop
  simp only [pathLength] at hpop ⊢
  rw [segments_add, hencode]
  split
  · rw [List.flatMap_append, List.length_append]
    omega
  split
  · rw [List.flatMap_append, List.length_append]
    omega
  · rw [List.flatMap_cons, List.length_append, List.length_cons]
    omega

theorem pathLength_addAll (s : Stack) {texts : List (List Char)}
    (hplain : ∀ text ∈ texts, ∀ c ∈ text, isPlain c) :
    (s.addAll .web texts).pathLength ≤ s.pathLength + (texts.flatMap ('/' :: ·)).length := by
  induction s, texts using Stack.addAll.induct .web with
  | case1 s => exact Nat.le_add_right _ _
  | case2 s text =>
    have hlast := s.pathLength_add true (hplain text List.mem_cons_self)
    simpa [Stack.addAll] using hlast
  | case3 s text texts hne ih =>
    have hstep := s.pathLength_add false (hplain text List.mem_cons_self)
    have hrest := ih fun t ht => hplain t (List.mem_cons_of_mem _ ht)
    rw [Stack.addAll]
    · rw [List.flatMap_cons, List.length_append, List.length_cons]
      omega
    · exact hne

theorem length_toPath (s : Stack) : (toChars (s.toPath .web)).length = s.pathLength := by
  have hpath : toChars (s.toPath .web) = s.segments.reverse.flatMap ('/' :: ·) := by
    rw [toChars, toPath, List.flatMap_map]
    simp
  rw [hpath, pathLength, List.length_flatMap, List.length_flatMap, List.map_reverse,
    List.sum_reverse]

end Path.Stack

/-- A path that is read again has no more characters than were read. -/
theorem Path.length_read {cs : List Char} (hplain : ∀ c ∈ cs, isPlain c)
    (hback : ∀ c ∈ cs, c ≠ '\\') :
    (toChars ((read .web ⟨[], false⟩ cs).toPath .web)).length ≤ cs.length + 1 := by
  have hread := Stack.pathLength_addAll ⟨[], false⟩ fun text htext c hc =>
    hplain c (of_mem_splitOnP (p := SchemeKind.isSeparator .web) htext hc).1
  rw [flatMap_splitOnP hback] at hread
  rw [Stack.length_toPath]
  calc (read .web ⟨[], false⟩ cs).pathLength
      ≤ Stack.pathLength ⟨[], false⟩ + ('/' :: cs).length := hread
    _ = cs.length + 1 := by simp [Stack.pathLength]

namespace Url

theorem length_pathAfterAuthority {cs : List Char} (hplain : ∀ c ∈ cs, Path.isPlain c)
    (hback : ∀ c ∈ cs, c ≠ '\\') :
    (Path.toChars (pathAfterAuthority .web cs)).length ≤ cs.length + 1 := by
  unfold pathAfterAuthority
  split
  · decide
  · rename_i c rest
    split
    · have hrest := Path.length_read (List.forall_mem_cons.mp hplain).2
        (List.forall_mem_cons.mp hback).2
      exact Nat.le_trans hrest (by simp)
    · exact Path.length_read hplain hback

/-! ## Authorities -/

variable {scheme : String} {k : SchemeKind} {cs left : List Char}

theorem suffix_of_readPort {port : Option Nat} (h : readPort scheme cs = .ok (port, left)) :
    left <:+ cs := by
  unfold readPort at h
  split at h
  · dsimp only at h
    split at h
    · cases h
    · cases h
      exact (List.dropWhile_suffix _).trans (List.suffix_cons _ _)
  · cases h
    exact List.suffix_refl _

theorem suffix_of_readHostPort {hasUser : Bool} {host : Host} {port : Option Nat}
    (h : readHostPort k scheme hasUser cs = .ok (host, port, left)) : left <:+ cs := by
  unfold readHostPort at h
  dsimp only at h
  split at h
  · cases h
  -- Of every kind the port is read behind the host.
  split at h
  all_goals
    obtain ⟨_, _, h⟩ := ok_of_bind h
    obtain ⟨⟨_, rest⟩, hport, h⟩ := ok_of_bind h
    have hsuffix := (suffix_of_readPort hport).trans (List.drop_suffix _ _)
    split at h
    · cases h
    · cases h
      exact hsuffix

theorem suffix_of_splitUser? {user rest : List Char} (h : splitUser? cs = some (user, rest)) :
    rest <:+ cs := by
  unfold splitUser? at h
  dsimp only at h
  split at h
  · contradiction
  · cases h
    have hafter := List.takeWhile_prefix (· ≠ '@') (l := cs.reverse)
    simpa using List.reverse_suffix.mpr hafter

theorem suffix_of_readAuthority {ended : Bool} {a : Authority}
    (h : readAuthority k scheme cs ended = .ok (a, left)) : left <:+ cs := by
  unfold readAuthority at h
  split at h
  · obtain ⟨⟨_, _, _⟩, hhost, h⟩ := ok_of_bind h
    cases h
    exact suffix_of_readHostPort hhost
  · rename_i huser
    dsimp only at h
    split at h
    · cases h
    · obtain ⟨⟨_, _, _⟩, hhost, h⟩ := ok_of_bind h
      cases h
      exact (suffix_of_readHostPort hhost).trans (suffix_of_splitUser? huser)

/-- After an authority the path has no more characters than were read. -/
theorem length_readAfterSlashes {v : Url}
    (hplain : ∀ c ∈ cs.takeWhile (!endsPath ·), Path.isPlain c)
    (hback : ∀ c ∈ cs.takeWhile (!endsPath ·), c ≠ '\\')
    (h : readAfterSlashes .web scheme cs = .ok v) :
    v.path.toChars.length ≤ (cs.takeWhile (!endsPath ·)).length + 1 := by
  obtain ⟨a, left, _, tail, hauthority, htail, rfl⟩ := of_readAfterSlashes h
  obtain ⟨before, hbefore⟩ := suffix_of_readAuthority hauthority
  have hcs : before ++ tail = cs := by
    rw [← htail, ← List.append_assoc, hbefore]
    exact List.prefix_iff_eq_append.mp (List.takeWhile_prefix _)
  have hopen : ∀ c ∈ before, !endsPath c := by
    intro c hc
    have hmem : c ∈ authorityText .web cs := hbefore ▸ List.mem_append_left left hc
    have hauthority := List.all_eq_true.mp List.all_takeWhile c hmem
    simp only [endsAuthority, Bool.not_or, Bool.and_eq_true] at hauthority
    exact hauthority.2
  rw [← hcs, List.takeWhile_append_of_pos hopen] at hplain hback ⊢
  have hpath := length_pathAfterAuthority (List.forall_mem_append.mp hplain).2
    (List.forall_mem_append.mp hback).2
  rw [List.length_append]
  exact Nat.le_trans hpath (by omega)

/-! ## References to a settled URL -/

variable {u v : Url}

/-- What a settled URL is made of. -/
theorem IsSettled.eq_hierarchy (h : u.IsSettled) :
    ∃ seg segs, u.path = .hierarchy (seg :: segs) ∧
      ∀ t ∈ seg :: segs, Path.IsSettled t.toList := by
  have hpath := h.path
  cases hsegs : u.path with
  | rootless text =>
    rw [hsegs] at hpath
    exact absurd hpath id
  | hierarchy segs =>
    rw [hsegs] at hpath
    cases segs with
    | nil => exact absurd rfl hpath.1
    | cons seg segs => exact ⟨seg, segs, rfl, hpath.2⟩

/-- The characters of the path of a settled URL stand for themselves. -/
theorem plain_of_mem_toChars {segs : List String} (h : ∀ t ∈ segs, Path.IsSettled t.toList)
    {c : Char} (hc : c ∈ Path.toChars segs) : Path.isPlain c ∧ c ≠ '\\' := by
  obtain ⟨t, ht, hc⟩ := List.mem_flatMap.mp hc
  rcases List.mem_cons.mp hc with rfl | hc
  · decide
  · refine ⟨(h t ht).plain c hc, ?_⟩
    rintro rfl
    exact absurd ((h t ht).whole _ hc) (by decide)

theorem IsSettled.isQueryPart (h : u.IsSettled) : RequestTarget.IsQueryPart u.queryChars := by
  unfold queryChars
  cases hquery : u.query with
  | none => exact .inl rfl
  | some q =>
    have hplain := h.query q hquery
    exact .inr ⟨q.toList, rfl, fun c hc => isQueryChar_of_isQueryPlain (hplain c hc)⟩

/-- The query of a settled URL is read as it stands. -/
theorem IsSettled.readQuery (h : u.IsSettled) : Url.readQuery .web u.queryChars = u.query := by
  unfold queryChars
  cases hquery : u.query with
  | none => rfl
  | some q =>
    have hplain := h.query q hquery
    rw [readQuery_of_isQueryChar .web fun c hc => isQueryChar_of_isQueryPlain (hplain c hc),
      Percent.encode_eq_self hplain, String.ofList_toList]

/-- Behind its first slash a settled path and the query stand for themselves. -/
theorem IsSettled.relative_eq (h : u.IsSettled) {rest : List Char}
    (hchars : u.path.toChars = '/' :: rest) :
    u.relative.toList = '/' :: (rest ++ u.queryChars) ∧
      (∀ c ∈ rest ++ u.queryChars, 0x20 < c.toNat) ∧
      (rest ++ u.queryChars).takeWhile (!endsPath ·) = rest ∧
      (rest ++ u.queryChars).dropWhile (!endsPath ·) = u.queryChars ∧
      ∀ c ∈ rest, Path.isPlain c ∧ c ≠ '\\' := by
  obtain ⟨seg, segs, hpath, hsegs⟩ := h.eq_hierarchy
  have hplain : ∀ c ∈ rest, Path.isPlain c ∧ c ≠ '\\' := by
    intro c hc
    refine plain_of_mem_toChars hsegs ?_
    rw [hpath, UrlPath.toChars] at hchars
    rw [hchars]
    exact List.mem_cons_of_mem _ hc
  have hopen : ∀ c ∈ rest, endsPath c = false := by
    intro c hc
    obtain ⟨_, hquestion, hhash⟩ := Path.visible_of_isPlain (hplain c hc).1
    simp [endsPath, hquestion, hhash]
  obtain ⟨htake, hdrop⟩ := takeWhile_endsPath hopen (endsPath_of_isQueryPart h.isQueryPart)
  refine ⟨?_, fun c hc => ?_, htake, hdrop, hplain⟩
  · rw [relative, String.toList_ofList, hchars]
    rfl
  · rcases List.mem_append.mp hc with hc | hc
    · exact (Path.visible_of_isPlain (hplain c hc).1).1
    · exact visible_of_isQueryPart h.isQueryPart c hc

/-- With one slash in front the path and the query of a settled URL are read as they stand. -/
theorem IsSettled.join_relative (h : u.IsSettled) (hkind : u.kind = .web)
    (hsingle : ¬['/', '/'] <+: u.path.toChars) :
    u.join u.relative = .ok { u with fragment := none } := by
  obtain ⟨seg, segs, hpath, hsegs⟩ := h.eq_hierarchy
  have hchars : u.path.toChars = '/' :: (seg.toList ++ Path.toChars segs) := by
    rw [hpath]
    rfl
  obtain ⟨htext, hvisible, htake, hdrop, hplain⟩ := h.relative_eq hchars
  have hrooted : u.isRootless = false := by
    rw [isRootless, hpath]
  have hfirst : ∀ c ∈ (seg.toList ++ Path.toChars segs ++ u.queryChars).head?,
      c ≠ '/' ∧ c ≠ '\\' := by
    intro c hc
    cases hrest : seg.toList ++ Path.toChars segs with
    | nil =>
      rw [hrest, List.nil_append] at hc
      have hsign := endsPath_of_isQueryPart h.isQueryPart c hc
      constructor <;> rintro rfl <;> exact absurd hsign (by decide)
    | cons d ds =>
      rw [hrest] at hc hchars hplain
      obtain rfl := Option.some.inj hc
      refine ⟨?_, (hplain d List.mem_cons_self).2⟩
      rintro rfl
      exact hsingle ⟨ds, hchars.symm⟩
  rw [join_slash (by simp [hkind]) hrooted htext hvisible hfirst, readPathOnto, htake, hdrop, hkind,
    Path.toPath_read hsegs, Path.visible_eq_self (visible_of_isQueryPart h.isQueryPart), ← hpath,
    withTail, readFragment_of_isQueryPart h.isQueryPart]
  have hquery : Url.readQuery u.kind u.queryChars = u.query := by
    rw [hkind]
    exact h.readQuery
  exact congrArg (fun q => Except.ok { u with query := q, fragment := none }) hquery

/-- With two slashes in front a part of the path is lost to the authority. -/
theorem IsSettled.path_ne (h : u.IsSettled) (hkind : u.kind = .web)
    (hdouble : ['/', '/'] <+: u.path.toChars) (hjoin : u.join u.relative = .ok v) :
    v.path ≠ u.path := by
  obtain ⟨seg, segs, hpath, hsegs⟩ := h.eq_hierarchy
  obtain ⟨rest, hrest⟩ := hdouble
  have hchars : u.path.toChars = '/' :: ('/' :: rest) := hrest.symm
  obtain ⟨htext, hvisible, htake, _, hplain⟩ := h.relative_eq hchars
  have hrooted : u.isRootless = false := by
    rw [isRootless, hpath]
  have hall : ∀ c ∈ '/' :: ('/' :: rest ++ u.queryChars), 0x20 < c.toNat :=
    List.forall_mem_cons.mpr ⟨by decide, hvisible⟩
  have hread : readAfterSlashes .web u.scheme (rest ++ u.queryChars) = .ok v := by
    rw [join, htext, trim_eq_self hall, readChars, Path.visible_eq_self hall] at hjoin
    simp only [splitScheme?_slash, hrooted, hkind] at hjoin
    simpa [readRelative, hkind] using hjoin
  have hafter : (rest ++ u.queryChars).takeWhile (!endsPath ·) = rest := by
    rw [List.cons_append, List.takeWhile_cons_of_pos (by decide)] at htake
    exact List.tail_eq_of_cons_eq htake
  have hlength := length_readAfterSlashes
    (by rw [hafter]; exact fun c hc => (hplain c (List.mem_cons_of_mem _ hc)).1)
    (by rw [hafter]; exact fun c hc => (hplain c (List.mem_cons_of_mem _ hc)).2) hread
  rw [hafter] at hlength
  intro hsame
  rw [hsame, hchars, List.length_cons, List.length_cons] at hlength
  omega

/-- Of two URLs that differ at most in their fragments, one is at the place of the other. -/
structure IsSamePlace (v u : Url) : Prop where
  scheme : v.scheme = u.scheme
  authority : v.authority = u.authority
  path : v.path = u.path
  query : v.query = u.query

/-- The path and the query of a URL on the web lead back to the same origin, path and query exactly
if the path does not start with two slashes. -/
theorem leadsBack_iff (h : u.IsHeld) (hkind : u.kind = .web) :
    (∃ v, u.join u.relative = .ok v ∧ v.IsSamePlace u) ↔ ¬['/', '/'] <+: u.path.toChars := by
  have hsettled := h.isSettled hkind
  constructor
  · rintro ⟨v, hjoin, hplace⟩ hdouble
    exact hsettled.path_ne hkind hdouble hjoin hplace.path
  · intro hsingle
    exact ⟨_, hsettled.join_relative hkind hsingle, rfl, rfl, rfl, rfl⟩

/-- A URL with all parts and with two slashes within its path. -/
def sampleInner : Url :=
  ⟨"https", some ⟨"user", "", .name "site", some 8443⟩, .hierarchy ["x", "", "%7By"],
    some "q=%271%27", some "top"⟩

theorem leadsBack_iff_inner :
    parse "https://user@site:8443/x//%7By?q='1'#top" = .ok sampleInner ∧
      ∃ v, sampleInner.join sampleInner.relative = .ok v ∧ v.IsSamePlace sampleInner := by
  have hparse : parse "https://user@site:8443/x//%7By?q='1'#top" = .ok sampleInner := by
    decide +kernel
  exact ⟨hparse, (leadsBack_iff (.parsed hparse) rfl).mpr (by decide)⟩

/-- A URL of which the path starts with two slashes. -/
def sampleTwoSlashes : Url :=
  ⟨"http", some (.ofHost (.name "site")), .hierarchy ["", "other", "x"], none, none⟩

/-- Its path and query lead to another host. -/
theorem leadsAway_twoSlashes :
    parse "http://site//other/x" = .ok sampleTwoSlashes ∧
      sampleTwoSlashes.relative = "//other/x" ∧
      ∃ v, sampleTwoSlashes.join sampleTwoSlashes.relative = .ok v ∧
        v.authority = some (.ofHost (.name "other")) ∧ ¬v.IsSamePlace sampleTwoSlashes := by
  have hjoin : sampleTwoSlashes.join sampleTwoSlashes.relative =
      .ok ⟨"http", some (.ofHost (.name "other")), .hierarchy ["x"], none, none⟩ := by
    decide +kernel
  refine ⟨by decide +kernel, by decide +kernel, _, hjoin, rfl, fun hplace => ?_⟩
  exact absurd hplace.authority (by decide)

end Url

end HistorySearch
