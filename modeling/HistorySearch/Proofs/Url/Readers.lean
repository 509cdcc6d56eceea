-- SUMMARY: What each reader of a URL can make of a text.
import HistorySearch.Proofs.Fallible
import HistorySearch.Url.Parser

/-!
# What readers make

A reader of URLs keeps the one that it reads against up to the query and the fragment, or it reads
a path, behind an authority or onto the segments that it starts from. Here each reader is told once
by what it can make, so that a property of all URLs is shown by these cases and no other proof has
to follow the reading.
-/

namespace HistorySearch

/-! ## Stacks -/

namespace Path.Stack

theorem pop_subset (s : Stack) : s.pop.segments ⊆ s.segments := by
  unfold pop
  split
  · exact List.Subset.refl _
  · rename_i seg segs hsegments
    split
    · exact List.Subset.refl _
    · rw [hsegments]
      exact List.subset_cons_self seg segs

/-- What every text of a segment preserves is preserved by a path. -/
theorem addAll_of_add {k : SchemeKind} {P : Stack → Prop} {texts : List (List Char)}
    (hadd : ∀ s isLast, ∀ text ∈ texts, P s → P (s.add k isLast text)) {s : Stack} (h : P s) :
    P (s.addAll k texts) := by
  induction s, texts using Stack.addAll.induct k with
  | case1 s => exact h
  | case2 s text => exact hadd s true text List.mem_cons_self h
  | case3 s text texts hne ih =>
    rw [Stack.addAll]
    · exact ih (fun s isLast t ht => hadd s isLast t (List.mem_cons_of_mem _ ht))
        (hadd s false text List.mem_cons_self h)
    · exact hne

end Path.Stack

namespace Url

theorem directoryStack_subset (u : Url) :
    (directoryStack u).segments ⊆ (pathStack u).segments := by
  unfold directoryStack
  split
  · exact List.nil_subset _
  · rename_i hsegs
    rw [hsegs]
    split
    · exact List.Subset.refl _
    · exact List.subset_cons_self _ _
  · rename_i hsegs
    rw [hsegs]
    exact List.subset_cons_self _ _

/-! ## Readers -/

variable {base u : Url} {whole cs : List Char}

/-- After two slashes an authority is read, and of what it leaves a path and a query. -/
theorem of_readAfterSlashes {k : SchemeKind} {scheme : String}
    (h : readAfterSlashes k scheme cs = .ok u) :
    ∃ a left ended rest, readAuthority k scheme (authorityText k cs) ended = .ok (a, left) ∧
      left ++ cs.drop (authorityText k cs).length = rest ∧
      u = withTail
        ⟨scheme, some a, .hierarchy (pathAfterAuthority k (rest.takeWhile (!endsPath ·))), none,
          none⟩
        (rest.dropWhile (!endsPath ·)) := by
  unfold readAfterSlashes at h
  obtain ⟨⟨a, left⟩, hauthority, h⟩ := ok_of_bind h
  cases h
  exact ⟨a, left, _, _, hauthority, rfl, rfl⟩

/-- A URL that differs from its base by the query and the fragment at most. -/
inductive Keeps (base : Url) : Url → Prop
  | tail (cs : List Char) : Keeps base (withTail base cs)
  | fragment (text : Option String) : Keeps base { base with fragment := text }

theorem Keeps.scheme (h : Keeps base u) : u.scheme = base.scheme := by
  cases h <;> rfl

theorem Keeps.path (h : Keeps base u) : u.path = base.path := by
  cases h <;> rfl

/-- What a reference of the same scheme is read as. -/
inductive IsRelativeTo (base : Url) : Url → Prop
  | kept {u : Url} (h : Keeps base u) : IsRelativeTo base u
  | authority {after : List Char} {u : Url}
      (h : readAfterSlashes base.kind base.scheme after = .ok u) : IsRelativeTo base u
  | root (text : List Char) : IsRelativeTo base (readPathOnto base ⟨[], false⟩ text)
  | directory (text : List Char) :
      IsRelativeTo base (readPathOnto base (directoryStack base) text)

theorem of_readRelative (h : readRelative base cs = .ok u) : IsRelativeTo base u := by
  unfold readRelative at h
  split at h
  · cases h
    exact .kept (.fragment none)
  · cases h
    exact .kept (.tail _)
  · cases h
    exact .kept (.fragment _)
  split at h
  · dsimp only at h
    split at h
    · exact .authority h
    · cases h
      exact .root _
  · cases h
    exact .directory _

/-- What is read as a `file` URL, with a base or without one. -/
inductive IsFileRead (base : Option Url) : Url → Prop
  | kept {b u : Url} (hb : b ∈ base) (h : Keeps b u) : IsFileRead base u
  | besides {b : Url} (hb : b ∈ base) (whole cs : List Char) :
      IsFileRead base (readBesides b whole cs)
  | root (text : List Char) : IsFileRead base (readPathOnto fileRoot ⟨[], false⟩ text)
  | rootOf (cs text : List Char) :
      IsFileRead base (readPathOnto (fileRootOf base cs).1 (fileRootOf base cs).2 text)
  | authority (a : Option Authority) (text tail : List Char) :
      IsFileRead base (withTail
        { fileRoot with
          authority := a
          path := .hierarchy ((Path.read .file ⟨[], false⟩ text).toPath .file) }
        tail)

theorem of_readFileAfterSlashes {base : Option Url} (h : readFileAfterSlashes whole cs = .ok u) :
    IsFileRead base u := by
  unfold readFileAfterSlashes at h
  dsimp only at h
  split at h
  · cases h
    exact .root _
  · obtain ⟨host, _, h⟩ := ok_of_bind h
    cases h
    exact .authority _ _ _

theorem of_readFile {base : Option Url} (h : readFile base whole cs = .ok u) :
    IsFileRead base u := by
  unfold readFile at h
  split at h
  · split at h
    · split at h
      · split at h
        · exact of_readFileAfterSlashes h
        · cases h
          exact .rootOf _ _
      · cases h
        exact .rootOf _ _
    · split at h
      · split at h
        · cases h
          exact .kept rfl (.tail _)
        split at h
        · cases h
          exact .kept rfl (.fragment _)
        split at h
        · cases h
          exact .root _
        · cases h
          exact .besides rfl _ _
      · cases h
        exact .root _
  · cases h
    exact .kept rfl (.fragment none)
  · cases h
    exact .root _

end Url

end HistorySearch
