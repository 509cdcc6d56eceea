-- SUMMARY: The path and the query of a web URL are kept in a form that is read as it stands.
import HistorySearch.Proofs.Url.Query
import HistorySearch.Proofs.Url.Readers

/-!
# Settled URLs

Reading a URL resolves the dots of its path and encodes what a path or a query cannot hold. What is
left of a web URL has nothing more to resolve or to encode: its segments and its query would be
read as they stand. This holds however the URL came about, by reading, by resolving against another
one, or by writing of its query.
-/

namespace HistorySearch

/-! ## Dots -/

namespace Path

/-- Whether every percent sign is the start of an encoded dot in small letters, if two characters
follow it at all. -/
def percentsAreDots : List Char → Bool
  | '%' :: a :: b :: cs => a = '2' && b = 'e' && percentsAreDots (a :: b :: cs)
  | _ :: cs => percentsAreDots cs
  | [] => true

theorem percentsAreDots_tail {c : Char} {cs : List Char} (h : percentsAreDots (c :: cs)) :
    percentsAreDots cs := by
  unfold percentsAreDots at h
  split at h
  · rename_i heq
    obtain ⟨-, rfl⟩ := List.cons.inj heq
    exact (Bool.and_eq_true_iff.mp h).2
  · rename_i heq
    obtain ⟨-, rfl⟩ := List.cons.inj heq
    exact h
  · contradiction

/-- A character that was encoded leaves a percent sign that is not one of a dot. -/
theorem isPlain_of_percentsAreDots {seg : List Char}
    (h : percentsAreDots ((encode seg).map Char.toLower)) : ∀ c ∈ seg, isPlain c := by
  induction seg with
  | nil => simp
  | cons c cs ih =>
    have hencode : encode (c :: cs) =
        (if isPlain c then [c] else Percent.char c) ++ encode cs := rfl
    rw [hencode, List.map_append] at h
    by_cases hplain : isPlain c
    · rw [if_pos hplain] at h
      exact List.forall_mem_cons.mpr ⟨hplain, ih (percentsAreDots_tail h)⟩
    · have hdot : c ≠ '.' := by
        rintro rfl
        exact hplain (by decide)
      obtain ⟨a, b, rest, hchar, hne⟩ := Percent.char_of_ne_dot hdot
      rw [if_neg hplain, hchar] at h
      have hpercent : percentsAreDots ('%' :: a.toLower :: b.toLower ::
          (rest.map Char.toLower ++ (encode cs).map Char.toLower)) := h
      rw [percentsAreDots] at hpercent
      simp only [Bool.and_eq_true, decide_eq_true_eq] at hpercent
      exact absurd hpercent.1 hne

/-- Encoding makes no dots of a segment that is none. -/
theorem noDots_encode {seg : List Char}
    (h : isDoubleDot seg = false ∧ isSingleDot seg = false) :
    isDoubleDot (encode seg) = false ∧ isSingleDot (encode seg) = false := by
  have hdots : ∀ v, (encode seg).map Char.toLower = v → percentsAreDots v → encode seg = seg :=
    fun v hv hpercents => Percent.encode_eq_self (isPlain_of_percentsAreDots (hv ▸ hpercents))
  refine ⟨Bool.eq_false_iff.mpr fun hdouble => ?_, Bool.eq_false_iff.mpr fun hsingle => ?_⟩
  · have hsame : encode seg = seg := by
      simp only [isDoubleDot, List.any_cons, List.any_nil, Bool.or_eq_true, decide_eq_true_eq,
        Bool.or_false] at hdouble
      rcases hdouble with heq | heq | heq | heq <;> exact hdots _ heq.symm (by decide)
    rw [hsame, h.1] at hdouble
    contradiction
  · have hsame : encode seg = seg := by
      simp only [isSingleDot, List.any_cons, List.any_nil, Bool.or_eq_true, decide_eq_true_eq,
        Bool.or_false] at hsingle
      rcases hsingle with heq | heq <;> exact hdots _ heq.symm (by decide)
    rw [hsame, h.2] at hsingle
    contradiction

/-- A segment that is no dots is settled once it is encoded. -/
theorem isSettled_encode {seg : List Char}
    (hwhole : ∀ c ∈ seg, SchemeKind.isSeparator .web c = false)
    (hnamed : isDoubleDot seg = false ∧ isSingleDot seg = false) : IsSettled (encode seg) where
  plain c hc := by
    exact Percent.keep_of_mem_encode (by decide) hc
  whole c hc := by
    rcases Percent.kept_of_mem_encode hc with hkept | rfl | halnum
    · exact hwhole c hkept.1
    · decide
    · exact (@isSettled_of_letters [c] (by simp [isLetter, halnum])).whole c (by simp)
  named := noDots_encode hnamed

/-! ## Stacks -/

namespace Stack

def IsSettled (s : Stack) : Prop :=
  ∀ seg ∈ s.segments, Path.IsSettled seg

variable {s : Stack}

theorem isSettled_empty : IsSettled ⟨[], false⟩ := by
  simp [IsSettled]

theorem IsSettled.add (h : s.IsSettled) (isLast : Bool) {text : List Char}
    (hwhole : ∀ c ∈ text, SchemeKind.isSeparator .web c = false) :
    (s.add .web isLast text).IsSettled := by
  have hdirectory : ∀ seg ∈ (if isLast then [[]] else [] : List (List Char)),
      Path.IsSettled seg := by
    intro seg hseg
    split at hseg
    · obtain rfl := List.mem_singleton.mp hseg
      exact isSettled_nil
    · contradiction
  have hvisible : ∀ c ∈ visible text, SchemeKind.isSeparator .web c = false := fun c hc =>
    hwhole c (List.mem_of_mem_filter hc)
  rw [IsSettled, segments_add]
  split
  · exact List.forall_mem_append.mpr ⟨hdirectory, fun seg hseg => h seg (s.pop_subset hseg)⟩
  split
  · exact List.forall_mem_append.mpr ⟨hdirectory, h⟩
  · rename_i hdouble hsingle
    have hnamed := And.intro (Bool.eq_false_iff.mpr hdouble) (Bool.eq_false_iff.mpr hsingle)
    exact List.forall_mem_cons.mpr ⟨isSettled_encode hvisible hnamed, h⟩

theorem IsSettled.addAll (h : s.IsSettled) {texts : List (List Char)}
    (hwhole : ∀ text ∈ texts, ∀ c ∈ text, SchemeKind.isSeparator .web c = false) :
    (s.addAll .web texts).IsSettled :=
  addAll_of_add (fun _ isLast text htext hs => hs.add isLast (hwhole text htext)) h

/-- The last segment leaves a name or the empty one of a directory. -/
theorem addAll_ne_nil (s : Stack) {texts : List (List Char)} (h : texts ≠ []) :
    (s.addAll .web texts).segments ≠ [] := by
  induction s, texts using Stack.addAll.induct .web with
  | case1 s => contradiction
  | case2 s text =>
    rw [Stack.addAll, segments_add, if_pos rfl]
    split_ifs <;> simp
  | case3 s text texts hne ih =>
    rw [Stack.addAll]
    · exact ih fun hnil => hne hnil
    · exact hne

end Stack

end Path

/-! ## URLs -/

/-- A path of settled segments, of which there is at least one. -/
def UrlPath.IsSettled : UrlPath → Prop
  | hierarchy segs => segs ≠ [] ∧ ∀ seg ∈ segs, Path.IsSettled seg.toList
  | rootless _ => False

namespace Url

/-- The path and the query of a web URL have nothing to resolve or to encode. -/
structure IsSettled (u : Url) : Prop where
  path : u.path.IsSettled
  query : ∀ q ∈ u.query, ∀ c ∈ q.toList, isQueryPlain .web c

variable {u base : Url} {scheme : String}

theorem isSettled_toPath {stack : Path.Stack} (h : stack.IsSettled) (cs : List Char) :
    (UrlPath.hierarchy ((Path.read .web stack cs).toPath .web)).IsSettled := by
  have hread : (Path.read .web stack cs).IsSettled :=
    h.addAll fun text htext c hc => (Path.of_mem_splitOnP htext hc).2
  have hne := stack.addAll_ne_nil (List.splitOnP_ne_nil (SchemeKind.isSeparator .web) cs)
  refine ⟨?_, fun seg hseg => ?_⟩
  · simpa [Path.Stack.toPath, Path.read] using hne
  · obtain ⟨t, ht, rfl⟩ := List.mem_map.mp hseg
    rw [String.toList_ofList]
    exact hread t (List.mem_reverse.mp ht)

theorem isQueryPlain_of_readQuery {cs : List Char} :
    ∀ q ∈ readQuery .web cs, ∀ c ∈ q.toList, isQueryPlain .web c := by
  intro q hq c hc
  unfold readQuery at hq
  split at hq
  · obtain rfl := Option.some.inj hq
    rw [String.toList_ofList] at hc
    exact isQueryPlain_of_mem_encode hc
  · contradiction

theorem isSettled_withTail (hkind : u.kind = .web) (h : u.path.IsSettled) (cs : List Char) :
    (withTail u cs).IsSettled where
  path := h
  query := by
    rw [withTail, hkind]
    exact isQueryPlain_of_readQuery

theorem isSettled_readPathOnto (hkind : u.kind = .web) {stack : Path.Stack} (h : stack.IsSettled)
    (cs : List Char) : (readPathOnto u stack cs).IsSettled := by
  have hpath : (UrlPath.hierarchy
      ((Path.read u.kind stack (cs.takeWhile (!endsPath ·))).toPath u.kind)).IsSettled := by
    rw [hkind]
    exact isSettled_toPath h _
  exact isSettled_withTail (u := { u with path := .hierarchy _ }) hkind hpath _

theorem isSettled_pathStack (h : u.path.IsSettled) : (pathStack u).IsSettled := by
  unfold pathStack
  split
  · rename_i segs hpath
    rw [hpath] at h
    intro seg hseg
    obtain ⟨t, ht, rfl⟩ := List.mem_map.mp (List.mem_reverse.mp hseg)
    exact h.2 t ht
  · exact Path.Stack.isSettled_empty

theorem isSettled_directoryStack (h : u.path.IsSettled) : (directoryStack u).IsSettled :=
  fun seg hseg => isSettled_pathStack h seg (directoryStack_subset u hseg)

/-! ## Schemes -/

theorem scheme_of_ofScheme (h : SchemeKind.ofScheme scheme = .file) : scheme = "file" := by
  unfold SchemeKind.ofScheme at h
  split_ifs at h with hfile
  exact hfile

theorem scheme_readAfterSlashes {k : SchemeKind} {cs : List Char}
    (h : readAfterSlashes k scheme cs = .ok u) : u.scheme = scheme := by
  obtain ⟨_, _, _, _, _, _, rfl⟩ := of_readAfterSlashes h
  rfl

theorem scheme_readOther {cs : List Char} (h : readOther scheme cs = .ok u) :
    u.scheme = scheme := by
  unfold readOther at h
  split at h
  · exact scheme_readAfterSlashes h
  · cases h
    rfl
  · cases h
    rfl

theorem scheme_readRelative {cs : List Char} (h : readRelative base cs = .ok u) :
    u.scheme = base.scheme := by
  cases of_readRelative h with
  | kept hkept => exact hkept.scheme
  | authority hauthority => exact scheme_readAfterSlashes hauthority
  | root _ => rfl
  | directory _ => rfl

theorem scheme_fileRootOf (base : Option Url) (cs : List Char) :
    (fileRootOf base cs).1.scheme = "file" := by
  unfold fileRootOf
  split
  · split
    · rfl
    split
    · split
      · split <;> rfl
      · rfl
    · rfl
  · rfl

theorem scheme_readBesides (whole cs : List Char) :
    (readBesides base whole cs).scheme = base.scheme := by
  unfold readBesides
  dsimp only
  split
  · split
    · rfl
    split
    · rfl
    split <;> rfl
  · rfl

/-- What is read as a `file` URL is one. -/
theorem scheme_readFile {base : Option Url} (hbase : ∀ b ∈ base, b.scheme = "file")
    {whole cs : List Char} (h : readFile base whole cs = .ok u) : u.scheme = "file" := by
  cases of_readFile h with
  | kept hb hkept => exact hkept.scheme.trans (hbase _ hb)
  | besides hb _ _ => exact (scheme_readBesides _ _).trans (hbase _ hb)
  | root _ => rfl
  | rootOf _ _ => exact scheme_fileRootOf _ _
  | authority _ _ _ => rfl

/-! ## Reading -/

theorem isSettled_readAfterSlashes {cs : List Char}
    (hscheme : SchemeKind.ofScheme scheme = .web)
    (h : readAfterSlashes .web scheme cs = .ok u) : u.IsSettled := by
  obtain ⟨a, _, _, rest, _, _, rfl⟩ := of_readAfterSlashes h
  refine isSettled_withTail (u := ⟨scheme, _, _, none, none⟩) hscheme ?_ _
  unfold pathAfterAuthority
  split
  · exact ⟨by simp, by simp [Path.isSettled_nil]⟩
  · exact isSettled_toPath Path.Stack.isSettled_empty _

theorem IsSettled.of_keeps (h : base.IsSettled) (hkind : base.kind = .web) (hkept : Keeps base u) :
    u.IsSettled := by
  cases hkept with
  | tail cs => exact isSettled_withTail hkind h.path cs
  | fragment text => exact ⟨h.path, h.query⟩

theorem isSettled_readRelative (hkind : base.kind = .web) (hbase : base.IsSettled)
    {cs : List Char} (h : readRelative base cs = .ok u) : u.IsSettled := by
  cases of_readRelative h with
  | kept hkept => exact hbase.of_keeps hkind hkept
  | authority hauthority =>
    rw [hkind] at hauthority
    exact isSettled_readAfterSlashes hkind hauthority
  | root _ => exact isSettled_readPathOnto hkind Path.Stack.isSettled_empty _
  | directory _ => exact isSettled_readPathOnto hkind (isSettled_directoryStack hbase.path) _

theorem isSettled_readWeb {base : Option Url}
    (hbase : ∀ b ∈ base, b.kind = .web → b.IsSettled) {cs : List Char}
    (hscheme : SchemeKind.ofScheme scheme = .web) (h : readWeb base scheme cs = .ok u) :
    u.IsSettled := by
  unfold readWeb at h
  dsimp only at h
  split at h
  · rename_i b
    split at h
    · rename_i hrelative
      have hkind : b.kind = .web := by rw [kind, hrelative.2, hscheme]
      exact isSettled_readRelative hkind (hbase b rfl hkind) h
    · exact isSettled_readAfterSlashes hscheme h
  · exact isSettled_readAfterSlashes hscheme h

theorem isSettled_readChars {base : Option Url}
    (hbase : ∀ b ∈ base, b.kind = .web → b.IsSettled) {whole : List Char}
    (h : readChars base whole = .ok u) (hkind : u.kind = .web) : u.IsSettled := by
  have hfile : u.scheme ≠ "file" := by
    intro hscheme
    rw [kind, hscheme] at hkind
    contradiction
  simp only [readChars] at h
  split at h
  · rename_i scheme rest _
    split at h
    · refine absurd (scheme_readFile (fun b hb => ?_) h) hfile
      simpa using (Option.mem_filter_iff.mp hb).2
    · rename_i hweb
      exact isSettled_readWeb hbase hweb h
    · rename_i hother
      rw [kind, scheme_readOther h, hother] at hkind
      contradiction
  · split at h
    · cases h
    · rename_i b
      split at h
      · cases h
        have hb := hbase b rfl hkind
        exact ⟨hb.path, hb.query⟩
      split at h
      · cases h
      split at h
      · rename_i hfiles
        refine absurd (scheme_readFile (fun c hc => ?_) h) hfile
        obtain rfl := Option.some.inj hc
        exact scheme_of_ofScheme hfiles
      · have hb : b.kind = .web := by rw [kind, ← scheme_readRelative h, ← kind, hkind]
        exact isSettled_readRelative hb (hbase b rfl hb) h

/-! ## Stores -/

/-- The URLs that a store can be on: what was read, what was resolved against such a URL, and what
pairs were written to. -/
inductive IsHeld : Url → Prop
  | parsed {text : String} {u : Url} (h : parse text = .ok u) : IsHeld u
  | joined {base u : Url} {text : String} (hbase : IsHeld base) (h : base.join text = .ok u) :
    IsHeld u
  | written {u : Url} (h : IsHeld u) (ps : List FormEncoded.Pair) : IsHeld (u.setPairs ps)

theorem isSettled_setPairs (h : u.IsSettled) (ps : List FormEncoded.Pair) :
    (u.setPairs ps).IsSettled where
  path := by
    by_cases hnil : ps = []
    · have hpath := h.path
      subst hnil
      cases hsegs : u.path with
      | hierarchy segs => simpa [setPairs, setQuery, trimRootless, hsegs] using hpath
      | rootless text =>
        rw [hsegs] at hpath
        exact absurd hpath id
    · rw [setPairs_of_ne_nil u hnil]
      exact h.path
  query q hq c hc := by
    rw [query_setPairs] at hq
    split at hq
    · contradiction
    · obtain rfl := Option.some.inj hq
      rw [FormEncoded.write, String.toList_ofList] at hc
      exact isQueryPlain_of_isWritten .web (FormEncoded.isWritten_of_mem_writeChars hc)

theorem scheme_setPairs (u : Url) (ps : List FormEncoded.Pair) :
    (u.setPairs ps).scheme = u.scheme := by
  by_cases hnil : ps = []
  · rw [hnil]
    rfl
  · rw [setPairs_of_ne_nil u hnil]

theorem IsHeld.isSettled (h : u.IsHeld) (hkind : u.kind = .web) : u.IsSettled := by
  induction h with
  | parsed h => exact isSettled_readChars (by simp) h hkind
  | joined hbase h ih =>
    refine isSettled_readChars (fun b hb hweb => ?_) h hkind
    obtain rfl := Option.some.inj hb
    exact ih hweb
  | written h ps ih =>
    rw [kind, scheme_setPairs] at hkind
    exact isSettled_setPairs (ih hkind) ps

end Url

end HistorySearch
