-- SUMMARY: A plain path is a route that only the path itself matches; a regular one matches itself.
import HistorySearch.Proofs.Url.Path
import HistorySearch.Web.Route

/-!
# Plain routes

Letters and slashes have no special meaning in a route, so that a plain path is routed by exact
comparison. A path with parameters is routed to what it gives as well, unless one of its braces is
doubled or a slash stands where a name should start.
-/

namespace HistorySearch

namespace Route

/-- The characters that mean something in a route. -/
def isSpecial (c : Char) : Bool :=
  ":*\x7b\x7d".toList.contains c

theorem ne_of_isSpecial {c d : Char} (hc : !isSpecial c) (hd : isSpecial d) : c ≠ d := by
  rintro rfl
  simp [hd] at hc

theorem hasRefusedSegment_of_plain {cs : List Char} (h : ∀ c ∈ cs, !isSpecial c) :
    hasRefusedSegment cs = false := by
  refine List.any_eq_false.mpr fun seg hseg => ?_
  cases seg with
  | nil => decide
  | cons c rest =>
    rw [List.splitOn_eq_splitOnP] at hseg
    have hc := h c (Path.of_mem_splitOnP hseg List.mem_cons_self).1
    have hcolon : c ≠ ':' := ne_of_isSpecial hc (by decide)
    have hstar : c ≠ '*' := ne_of_isSpecial hc (by decide)
    simp [hcolon, hstar]

/-- No brace is doubled, and no name starts with a slash. -/
structure IsRegular (cs : List Char) : Prop where
  opening : ¬['\x7b', '\x7b'] <:+: cs
  closing : ¬['\x7d', '\x7d'] <:+: cs
  named : ¬['\x7b', '/'] <:+: cs

theorem IsRegular.of_suffix {cs ds : List Char} (h : IsRegular cs) (hsuffix : ds <:+ cs) :
    IsRegular ds where
  opening hds := h.opening (hds.trans hsuffix.isInfix)
  closing hds := h.closing (hds.trans hsuffix.isInfix)
  named hds := h.named (hds.trans hsuffix.isInfix)

theorem unescape_of_isRegular {cs : List Char} (h : IsRegular cs) :
    unescape cs = cs.map (·, false) := by
  induction cs using unescape.induct with
  | case1 cs => exact absurd (List.prefix_append ['\x7b', '\x7b'] cs).isInfix h.opening
  | case2 cs => exact absurd (List.prefix_append ['\x7d', '\x7d'] cs).isInfix h.closing
  | case3 c cs hopening hclosing ih =>
    rw [unescape, ih (h.of_suffix (List.suffix_cons c cs))]
    · rfl
    · exact hopening
    · exact hclosing
  | case4 => rfl

theorem isRegular_of_unbraced {cs : List Char} (h : ∀ c ∈ cs, c ≠ '\x7b' ∧ c ≠ '\x7d') :
    IsRegular cs where
  opening hds := (h _ (hds.subset List.mem_cons_self)).1 rfl
  closing hds := (h _ (hds.subset List.mem_cons_self)).2 rfl
  named hds := (h _ (hds.subset List.mem_cons_self)).1 rfl

theorem readItems_of_unbraced {cs : List Char} (h : ∀ c ∈ cs, c ≠ '\x7b' ∧ c ≠ '\x7d') :
    readItems .outside (cs.map (·, false)) = some (literal cs) := by
  induction cs with
  | nil => rfl
  | cons c cs ih =>
    have hcs := ih fun d hd => h d (List.mem_cons_of_mem _ hd)
    obtain ⟨hopen, hclose⟩ := h c List.mem_cons_self
    simp [readItems, hopen, hclose, hcs, literal]

theorem count_literal (cs : List Char) : (literal cs).count .parameter = 0 := by
  refine List.count_eq_zero.mpr fun hmem => ?_
  obtain ⟨c, _, hc⟩ := List.mem_map.mp hmem
  contradiction

/-- Without braces all characters of a route stand for themselves, and only the first character of
a segment can be refused. -/
theorem parse?_of_unbraced {path : String} (h : ∀ c ∈ path.toList, c ≠ '\x7b' ∧ c ≠ '\x7d') :
    parse? path =
      if hasRefusedSegment path.toList then none else some (literal path.toList) := by
  rw [parse?, unescape_of_isRegular (isRegular_of_unbraced h), readItems_of_unbraced h,
    Option.filter_some, count_literal]
  rfl

theorem unbraced_of_plain {cs : List Char} (h : ∀ c ∈ cs, !isSpecial c) :
    ∀ c ∈ cs, c ≠ '\x7b' ∧ c ≠ '\x7d' := fun c hc =>
  ⟨ne_of_isSpecial (h c hc) (by decide), ne_of_isSpecial (h c hc) (by decide)⟩

theorem parse?_of_plain {path : String} (h : ∀ c ∈ path.toList, !isSpecial c) :
    parse? path = some (literal path.toList) := by
  rw [parse?_of_unbraced (unbraced_of_plain h), hasRefusedSegment_of_plain h, if_neg (by decide)]

theorem not_isSpecial_of_rooted {path : String} {rest : List Char} (h : Path.IsRooted path rest) :
    ∀ c ∈ path.toList, !isSpecial c := by
  intro c hc
  have hletter : Path.isLetterOrSlash c := by
    rw [h.toList_eq] at hc
    rcases List.mem_cons.mp hc with rfl | hc
    · decide
    · exact h.letters c hc
  have hlt := Path.isLetterOrSlash_lt hletter
  revert hletter
  exact of_ascii (P := fun c => Path.isLetterOrSlash c → !isSpecial c) (by decide) hlt

/-- A plain path is a route of characters. -/
theorem parse?_rooted {path : String} {rest : List Char} (h : Path.IsRooted path rest) :
    parse? path = some (literal path.toList) :=
  parse?_of_plain (not_isSpecial_of_rooted h)

/-! ## Parameters -/

/-- A parameter takes a segment as it is. -/
theorem isMatch_parameter {seg rest : List Char} (r : Route) (hne : seg ≠ [])
    (hseg : ∀ c ∈ seg, c ≠ '/') (hrest : ∀ c ∈ rest.head?, c = '/') :
    isMatch (.parameter :: r) (seg ++ rest) = isMatch r rest := by
  have hsegment : segment (seg ++ rest) = seg := by
    rw [segment, List.takeWhile_append_of_pos fun c hc => decide_eq_true (hseg c hc)]
    cases rest with
    | nil => simp
    | cons c cs => simp [hrest c rfl]
  rw [isMatch, hsegment, List.drop_left]
  simp [hne]

/-- The rest of a name up to its brace, and what follows it, give a parameter and a route. -/
inductive IsNamed : List Char → Route → Prop
  | mk {name rest : List Char} {after : Route} (hname : ∀ c ∈ name, c ≠ '/')
      (hrest : ∀ c ∈ rest.head?, c = '/')
      (hafter : readItems .outside (rest.map (·, false)) = some after) :
      IsNamed (name ++ '\x7d' :: rest) (.parameter :: after)

theorem IsNamed.cons {c : Char} (hc : c ≠ '/') {cs : List Char} {r : Route} (h : IsNamed cs r) :
    IsNamed (c :: cs) r := by
  obtain ⟨hname, hrest, hafter⟩ := h
  rw [← List.cons_append]
  exact ⟨List.forall_mem_cons.mpr ⟨hc, hname⟩, hrest, hafter⟩

theorem isNamed_of_inside {cs : List Char} {r : Route}
    (h : readItems .inside (cs.map (·, false)) = some r) : IsNamed cs r := by
  induction cs with
  | nil => contradiction
  | cons c cs ih =>
    by_cases hclose : c = '\x7d'
    · subst hclose
      rw [List.map_cons, readItems] at h
      split at h
      · rename_i hend
        obtain ⟨after, hafter, rfl⟩ := Option.map_eq_some_iff.mp h
        refine @IsNamed.mk [] cs after (by simp) (fun d hd => ?_) hafter
        cases cs with
        | nil => contradiction
        | cons e es =>
          obtain rfl := Option.some.inj hd
          simpa [mayEndParameter] using hend
      · contradiction
    · rw [List.map_cons, readItems] at h
      · split at h
        · contradiction
        · rename_i hfree
          exact (ih h).cons fun hslash => hfree (.inr hslash)
      · exact fun heq _ => hclose heq

theorem isNamed_of_opened {cs : List Char} {r : Route} (hregular : IsRegular ('\x7b' :: cs))
    (h : readItems .opened (cs.map (·, false)) = some r) : IsNamed cs r := by
  cases cs with
  | nil => contradiction
  | cons c cs =>
    rw [List.map_cons, readItems] at h
    split at h
    · contradiction
    · refine (isNamed_of_inside h).cons ?_
      rintro rfl
      exact hregular.named (List.prefix_append ['\x7b', '/'] cs).isInfix

/-- A regular text is matched by the route that is read from it. The induction is on the length of
the text, of which a parameter takes a whole segment. -/
theorem isMatch_of_readItems {cs : List Char} {r : Route} (hregular : IsRegular cs)
    (h : readItems .outside (cs.map (·, false)) = some r) : isMatch r cs := by
  induction hlength : cs.length using Nat.strong_induction_on generalizing cs r with
  | h n ih =>
    subst hlength
    cases cs with
    | nil =>
      obtain rfl := Option.some.inj h
      rfl
    | cons c cs =>
      by_cases hopen : c = '\x7b'
      · subst hopen
        rw [List.map_cons, readItems] at h
        obtain @⟨name, rest, after, hname, hrest, hafter⟩ := isNamed_of_opened hregular h
        have hsplit : '\x7b' :: (name ++ '\x7d' :: rest) = '\x7b' :: name ++ ['\x7d'] ++ rest := by
          simp
        have hseg : ∀ c ∈ '\x7b' :: name ++ ['\x7d'], c ≠ '/' :=
          List.forall_mem_append.mpr ⟨List.forall_mem_cons.mpr ⟨by decide, hname⟩, by simp⟩
        rw [hsplit] at hregular ⊢
        rw [isMatch_parameter after (by simp) hseg hrest]
        exact ih rest.length (by simp; omega) (hregular.of_suffix (List.suffix_append _ _)) hafter
          rfl
      · by_cases hclose : c = '\x7d'
        · subst hclose
          rw [List.map_cons, readItems] at h
          contradiction
        · rw [List.map_cons, readItems] at h
          · obtain ⟨after, hafter, rfl⟩ := Option.map_eq_some_iff.mp h
            have hrest := hregular.of_suffix (List.suffix_cons c cs)
            have hmatch := ih cs.length (Nat.lt_succ_self _) hrest hafter rfl
            simpa [isMatch] using hmatch
          · exact fun heq _ => hopen heq
          · exact fun heq _ => hclose heq

/-- A regular path that gives a route is routed by it. -/
theorem isMatch_parse? {path : String} {r : Route} (hregular : IsRegular path.toList)
    (h : parse? path = some r) : isMatch r path.toList := by
  unfold parse? at h
  split at h
  · contradiction
  · rw [unescape_of_isRegular hregular, Option.filter_eq_some_iff] at h
    exact isMatch_of_readItems hregular h.1

end Route

end HistorySearch
