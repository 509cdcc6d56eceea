-- SUMMARY: What a path and a query of a request are resolved to.
import HistorySearch.Proofs.Url.Query
import HistorySearch.Proofs.Url.Readers
import HistorySearch.Web.Target
import Mathlib.Data.List.TakeWhile

/-!
# Resolved requests

A request for a plain path is resolved to the URL of the site with that path, and its query gives
the same pairs as the text that was sent, though some characters of it may have been encoded.
-/

namespace HistorySearch

/-! ## Request targets -/

namespace RequestTarget

/-- Nothing, or a question mark and the characters of a query. -/
def IsQueryPart (cs : List Char) : Prop :=
  cs = [] ∨ ∃ ds, cs = '?' :: ds ∧ ∀ c ∈ ds, isQueryChar c

theorem isQueryPart_of_readQuery {cs query : List Char} (h : readQuery cs = some query) :
    IsQueryPart query := by
  unfold readQuery at h
  split at h
  · split at h
    · rename_i hchars
      obtain rfl := Option.some.inj h
      exact .inr ⟨_, rfl, List.all_eq_true.mp hchars⟩
    · contradiction
  · obtain rfl := Option.some.inj h
    exact .inl rfl

/-- A target has a path, which ends at the query, if it is not a star or an authority. -/
theorem cases_of_readPath {cs : List Char} {t : RequestTarget} (h : readPath cs = some t) :
    ∃ path query, (∀ c ∈ path, isPathChar c) ∧ IsQueryPart query ∧
      t = ⟨orRoot path, orRoot (path ++ query)⟩ := by
  simp only [readPath] at h
  split at h
  · rename_i hchars
    obtain ⟨query, hquery, rfl⟩ := Option.map_eq_some_iff.mp h
    exact ⟨_, query, List.all_eq_true.mp hchars, isQueryPart_of_readQuery hquery, rfl⟩
  · contradiction

theorem cases_of_read {s : String} {t : RequestTarget} (h : read s = some t) :
    t = ⟨"*", "*"⟩ ∨ t = ⟨"", ""⟩ ∨
      ∃ path query, (∀ c ∈ path, isPathChar c) ∧ IsQueryPart query ∧
        t = ⟨orRoot path, orRoot (path ++ query)⟩ := by
  simp only [read] at h
  split at h
  · contradiction
  split at h
  · exact .inl (Option.some.inj h).symm
  split at h
  · exact .inr (.inr (cases_of_readPath h))
  simp only [readFull] at h
  split at h
  · split at h
    · contradiction
    · exact .inr (.inr (cases_of_readPath h))
  · split at h
    · exact .inr (.inl (Option.some.inj h).symm)
    · contradiction

theorem ne_question_of_isPathChar {c : Char} (h : isPathChar c) : c ≠ '?' := by
  rintro rfl
  exact absurd h (by decide)

/-- The characters before a query. -/
theorem takeWhile_queryPart {path query : List Char} (hpath : ∀ c ∈ path, c ≠ '?')
    (hquery : query = [] ∨ query.head? = some '?') :
    (path ++ query).takeWhile (· ≠ '?') = path ∧ (path ++ query).dropWhile (· ≠ '?') = query := by
  refine takeWhile_dropWhile_append (fun c hc => decide_eq_true (hpath c hc)) fun c hc => ?_
  rcases hquery with rfl | hquery
  · contradiction
  · obtain rfl : '?' = c := by simpa [hquery] using hc
    decide

theorem head_of_isQueryPart {query : List Char} (h : IsQueryPart query) :
    query = [] ∨ query.head? = some '?' := by
  rcases h with rfl | ⟨ds, rfl, _⟩
  · exact .inl rfl
  · exact .inr rfl

/-- A target that is resolved as a plain path and a query is routed by that path, and the query
has only characters that may stand in one. -/
theorem of_reference {s : String} {t : RequestTarget} (h : read s = some t) {path : String}
    {rest : List Char} (hpath : Path.IsRooted path rest) {q : String}
    (hq : q = "" ∨ ∃ text, q = "?" ++ text) (href : t.reference = path ++ q) :
    t.path = path ∧ IsQueryPart q.toList := by
  have hhead : q.toList = [] ∨ q.toList.head? = some '?' := by
    rcases hq with rfl | ⟨text, rfl⟩
    · exact .inl rfl
    · exact .inr (by simp)
  have hown : ∀ c ∈ path.toList, c ≠ '?' := by
    intro c hc
    rw [hpath.toList_eq] at hc
    rcases List.mem_cons.mp hc with rfl | hc
    · decide
    · exact (Path.visible_of_isLetterOrSlash (hpath.letters c hc)).2.1
  have hchars : t.reference.toList = path.toList ++ q.toList := by
    rw [href, String.toList_append]
  rcases cases_of_read h with rfl | rfl | ⟨cs, query, hcs, hquery, rfl⟩
  · rw [hpath.toList_eq] at hchars
    simp at hchars
  · rw [hpath.toList_eq] at hchars
    simp at hchars
  · -- Nothing at all is the only target that is resolved as something else than it was sent as.
    by_cases hnil : cs ++ query = []
    · obtain ⟨rfl, rfl⟩ := List.append_eq_nil_iff.mp hnil
      have hroot : ['/'] = '/' :: (rest ++ q.toList) := by
        rw [← List.cons_append, ← hpath.toList_eq, ← hchars]
        rfl
      obtain ⟨rfl, hqnil⟩ := List.append_eq_nil_iff.mp (List.tail_eq_of_cons_eq hroot).symm
      exact ⟨String.toList_injective hpath.toList_eq.symm, hqnil ▸ hquery⟩
    · have hreference : (orRoot (cs ++ query)).toList = cs ++ query := by
        simp [orRoot, hnil]
      rw [hreference] at hchars
      obtain ⟨htake, hdrop⟩ := takeWhile_queryPart
        (fun c hc => ne_question_of_isPathChar (hcs c hc)) (head_of_isQueryPart hquery)
      obtain ⟨hpathTake, hpathDrop⟩ := takeWhile_queryPart hown hhead
      rw [hchars] at htake hdrop
      obtain rfl : cs = path.toList := htake.symm.trans hpathTake
      obtain rfl : query = q.toList := hdrop.symm.trans hpathDrop
      have hne : path.toList.isEmpty = false := by
        rw [hpath.toList_eq]
        rfl
      refine ⟨?_, hquery⟩
      simp [orRoot, hne]

end RequestTarget

/-! ## Queries -/

namespace Url

/-- The pairs of a query with its sign. -/
def queryPairs (q : String) : List FormEncoded.Pair :=
  FormEncoded.read (String.ofList (q.toList.drop 1))

/-- What stands for itself in a query may stand in a target. -/
theorem isQueryChar_of_isQueryPlain {k : SchemeKind} {c : Char} (h : isQueryPlain k c) :
    RequestTarget.isQueryChar c := by
  simp only [isQueryPlain, Bool.and_eq_true, decide_eq_true_eq] at h
  obtain ⟨⟨⟨hlow, hhigh⟩, hnone⟩, _⟩ := h
  simp only [RequestTarget.isQueryChar, Bool.and_eq_true, decide_eq_true_eq]
  exact ⟨⟨hlow, Nat.ne_of_lt hhigh⟩, hnone⟩

/-- What is written of pairs may stand in a target. -/
theorem isQueryChar_of_isWritten {c : Char} (h : FormEncoded.isWritten c) :
    RequestTarget.isQueryChar c :=
  isQueryChar_of_isQueryPlain (isQueryPlain_of_isWritten .web h)

/-- All characters of a query that was sent are read. -/
theorem readQuery_of_isQueryChar (k : SchemeKind) {cs : List Char}
    (h : ∀ c ∈ cs, RequestTarget.isQueryChar c) :
    readQuery k ('?' :: cs) = some (String.ofList (Percent.encode (isQueryPlain k) cs)) := by
  have hfragment : cs.takeWhile (· ≠ '#') = cs := by
    refine List.takeWhile_eq_self_iff.mpr fun c hc => decide_eq_true ?_
    rintro rfl
    exact absurd (h _ hc) (by decide)
  rw [readQuery, hfragment]

/-- The pairs of a query are those of the text that was sent for it. -/
theorem pairs_of_query {u : Url} {q : String} (hq : RequestTarget.IsQueryPart q.toList)
    (h : u.query = readQuery .web q.toList) : u.pairs = queryPairs q := by
  rcases hq with hnil | ⟨cs, hcs, hchars⟩
  · rw [pairs, h, queryPairs, hnil]
    rfl
  · have hwritten := fun c => isQueryPlain_of_isWritten .web (c := c)
    rw [pairs, h, queryPairs, hcs, readQuery_of_isQueryChar .web hchars, Option.getD_some,
      FormEncoded.read, String.toList_ofList, FormEncoded.readOctets_percent_encode hwritten,
      FormEncoded.read]
    simp

/-- Pairs that were written are a query. -/
theorem isQueryPart_write (ps : List FormEncoded.Pair) :
    RequestTarget.IsQueryPart ("?" ++ FormEncoded.write ps).toList := by
  refine .inr ⟨FormEncoded.writeChars ps, ?_, fun c hc => ?_⟩
  · simp [FormEncoded.write]
  · exact isQueryChar_of_isWritten (FormEncoded.isWritten_of_mem_writeChars hc)

theorem queryPairs_write (ps : List FormEncoded.Pair) :
    queryPairs ("?" ++ FormEncoded.write ps) = ps := by
  have hdrop : ("?" ++ FormEncoded.write ps).toList.drop 1 = (FormEncoded.write ps).toList := by
    rw [String.toList_append]
    rfl
  rw [queryPairs, hdrop, String.ofList_toList, FormEncoded.read_write]

theorem visible_of_isQueryPart {cs : List Char} (h : RequestTarget.IsQueryPart cs) :
    ∀ c ∈ cs, 0x20 < c.toNat := by
  intro c hc
  rcases h with rfl | ⟨ds, rfl, hchars⟩
  · contradiction
  · rcases List.mem_cons.mp hc with rfl | hc
    · decide
    · have hquery := hchars c hc
      simp only [RequestTarget.isQueryChar, Bool.and_eq_true, decide_eq_true_eq] at hquery
      exact hquery.1.1

/-! ## Resolution -/

/-- A text of visible characters is not trimmed. -/
theorem trim_eq_self {cs : List Char} (h : ∀ c ∈ cs, 0x20 < c.toNat) : trim cs = cs := by
  have houtside : ∀ c ∈ cs, decide (c.toNat ≤ 0x20) = false := fun c hc =>
    decide_eq_false (Nat.not_le.mpr (h c hc))
  have hreverse : ∀ c ∈ cs.reverse, decide (c.toNat ≤ 0x20) = false := fun c hc =>
    houtside c (List.mem_reverse.mp hc)
  rw [trim, dropWhile_of_forall houtside, dropWhile_of_forall hreverse, List.reverse_reverse]

theorem splitScheme?_slash (cs : List Char) : splitScheme? ('/' :: cs) = none := by
  rw [splitScheme?]
  exact if_neg (by decide)

/-- A path ends where its query starts. -/
theorem takeWhile_endsPath {rest q : List Char} (hrest : ∀ c ∈ rest, endsPath c = false)
    (hq : ∀ c ∈ q.head?, endsPath c) :
    (rest ++ q).takeWhile (!endsPath ·) = rest ∧ (rest ++ q).dropWhile (!endsPath ·) = q :=
  takeWhile_dropWhile_append (by simpa using hrest) (by simpa using hq)

theorem endsPath_of_isQueryPart {q : List Char} (h : RequestTarget.IsQueryPart q) :
    ∀ c ∈ q.head?, endsPath c := by
  intro c hc
  rcases h with rfl | ⟨ds, rfl, _⟩
  · contradiction
  · obtain rfl := Option.some.inj hc
    decide

/-- What starts with a slash is a path, unless a second slash sets it off as an authority. -/
theorem join_slash {u : Url} (hfile : u.kind ≠ .file) (hrooted : u.isRootless = false)
    {text : String} {rest : List Char} (htext : text.toList = '/' :: rest)
    (hvisible : ∀ c ∈ rest, 0x20 < c.toNat) (hsingle : ∀ c ∈ rest.head?, c ≠ '/' ∧ c ≠ '\\') :
    u.join text = .ok (readPathOnto u ⟨[], false⟩ rest) := by
  have hchars : ∀ c ∈ '/' :: rest, 0x20 < c.toNat :=
    List.forall_mem_cons.mpr ⟨by decide, hvisible⟩
  have hslashes : rest.takeWhile (fun c => c = '/' || c = '\\') = [] := by
    cases rest with
    | nil => rfl
    | cons c cs => simp [hsingle c rfl]
  rw [join, htext, trim_eq_self hchars, readChars, Path.visible_eq_self hchars]
  simp only [splitScheme?_slash, hrooted, hfile]
  simp [readRelative, hslashes]

/-- A path and a query are resolved against a URL of the web without looking at its own path. -/
theorem join_rooted {u : Url} (hkind : u.kind = .web) (hrooted : u.isRootless = false)
    {path : String} {rest : List Char} (hpath : Path.IsRooted path rest) {q : String}
    (hq : RequestTarget.IsQueryPart q.toList) :
    u.join (path ++ q) = .ok (readPathOnto u ⟨[], false⟩ (rest ++ q.toList)) := by
  refine join_slash (by simp [hkind]) hrooted ?_ (fun c hc => ?_) (fun c hc => ?_)
  · rw [String.toList_append, hpath.toList_eq]
    rfl
  · rcases List.mem_append.mp hc with hc | hc
    · exact (Path.visible_of_isLetterOrSlash (hpath.letters c hc)).1
    · exact visible_of_isQueryPart hq c hc
  · -- After two slashes a host would follow.
    cases rest with
    | nil =>
      have hsign := endsPath_of_isQueryPart hq c hc
      constructor <;> rintro rfl <;> exact absurd hsign (by decide)
    | cons d ds =>
      obtain rfl := Option.some.inj hc
      have hback := (Path.visible_of_isLetterOrSlash (hpath.letters d List.mem_cons_self)).2.2.2
      exact ⟨fun hslash => hpath.single (congrArg some hslash), hback⟩

/-- A path and a query take the places of those of the URL that they are resolved against. -/
theorem join_rooted_eq_withTail {u : Url} (hkind : u.kind = .web) (hrooted : u.isRootless = false)
    {path : String} {rest : List Char} (hpath : Path.IsRooted path rest) {q : String}
    (hq : RequestTarget.IsQueryPart q.toList) :
    u.join (path ++ q) =
      .ok (withTail { u with path := .hierarchy ((Path.read .web ⟨[], false⟩ rest).toPath .web) }
        q.toList) := by
  have hletters : ∀ c ∈ rest, endsPath c = false := by
    intro c hc
    obtain ⟨_, hquestion, hhash, _⟩ := Path.visible_of_isLetterOrSlash (hpath.letters c hc)
    simp [endsPath, hquestion, hhash]
  obtain ⟨htake, hdrop⟩ := takeWhile_endsPath hletters (endsPath_of_isQueryPart hq)
  rw [join_rooted hkind hrooted hpath hq, readPathOnto, htake, hdrop, hkind,
    Path.visible_eq_self (visible_of_isQueryPart hq)]

/-- A request for a plain path is for the URL with that path and the pairs that were sent. -/
theorem join_plain {u : Url} (hkind : u.kind = .web) (hrooted : u.isRootless = false)
    {path : String} {rest : List Char} (hpath : Path.IsRooted path rest) {q : String}
    (hq : RequestTarget.IsQueryPart q.toList) :
    ∃ v, u.join (path ++ q) = .ok v ∧ v.path.toChars = path.toList ∧ v.pairs = queryPairs q := by
  refine ⟨_, join_rooted_eq_withTail hkind hrooted hpath hq, ?_, pairs_of_query hq ?_⟩
  · rw [hpath.toList_eq]
    exact Path.toChars_read hpath.letters
  · rw [← hkind]
    rfl

/-! ## What was resolved, resolved again -/

theorem ne_hash_of_isQueryPart {cs : List Char} (h : RequestTarget.IsQueryPart cs) :
    ∀ c ∈ cs, c ≠ '#' := by
  rintro c hc rfl
  rcases h with rfl | ⟨ds, rfl, hchars⟩
  · contradiction
  · rcases List.mem_cons.mp hc with hsign | hc
    · exact absurd hsign (by decide)
    · exact absurd (hchars _ hc) (by decide)

/-- A query has no fragment after it. -/
theorem readFragment_of_isQueryPart {cs : List Char} (h : RequestTarget.IsQueryPart cs) :
    readFragment (cs.dropWhile (· ≠ '#')) = none := by
  have hnone : ∀ c ∈ cs, decide (c ≠ '#') = true := fun c hc =>
    decide_eq_true (ne_hash_of_isQueryPart h c hc)
  rw [List.dropWhile_eq_nil_iff.mpr hnone]
  rfl

/-- The query that was read is read again as it is. -/
theorem withTail_queryChars (u : Url) {cs : List Char} (h : RequestTarget.IsQueryPart cs) :
    RequestTarget.IsQueryPart (withTail u cs).queryChars ∧
      withTail u (withTail u cs).queryChars = withTail u cs := by
  rcases h with rfl | ⟨ds, rfl, hchars⟩
  · exact ⟨.inl rfl, rfl⟩
  · have hquery := readQuery_of_isQueryChar u.kind hchars
    have hread : (withTail u ('?' :: ds)).queryChars =
        '?' :: Percent.encode (isQueryPlain u.kind) ds := by
      simp only [queryChars, withTail, hquery, String.toList_ofList]
    have hencoded : ∀ c ∈ Percent.encode (isQueryPlain u.kind) ds, RequestTarget.isQueryChar c :=
      fun c hc => isQueryChar_of_isQueryPlain (isQueryPlain_of_mem_encode hc)
    have hagain : RequestTarget.IsQueryPart ('?' :: Percent.encode (isQueryPlain u.kind) ds) :=
      .inr ⟨_, rfl, hencoded⟩
    have hstable : Percent.encode (isQueryPlain u.kind) (Percent.encode (isQueryPlain u.kind) ds) =
        Percent.encode (isQueryPlain u.kind) ds :=
      Percent.encode_eq_self fun _ => isQueryPlain_of_mem_encode
    rw [hread]
    refine ⟨hagain, ?_⟩
    rw [withTail, withTail, readQuery_of_isQueryChar u.kind hencoded, hstable, hquery,
      readFragment_of_isQueryPart hagain, readFragment_of_isQueryPart (.inr ⟨ds, rfl, hchars⟩)]

/-- The path and the query of what was resolved are resolved to the same URL. -/
theorem join_relative {u v : Url} (hkind : u.kind = .web) (hrooted : u.isRootless = false)
    {path : String} {rest : List Char} (hpath : Path.IsRooted path rest) {q : String}
    (hq : RequestTarget.IsQueryPart q.toList) (h : u.join (path ++ q) = .ok v) :
    ∃ own, RequestTarget.IsQueryPart own.toList ∧ v.relative = path ++ own ∧
      u.join (path ++ own) = .ok v := by
  have hresolved := join_rooted_eq_withTail hkind hrooted hpath hq
  obtain rfl := Except.ok.inj (h.symm.trans hresolved)
  generalize hw : { u with path := _ } = w at hresolved ⊢
  have hchars : w.path.toChars = path.toList := by
    rw [← hw, hpath.toList_eq]
    exact Path.toChars_read hpath.letters
  obtain ⟨hown, hagain⟩ := withTail_queryChars w hq
  refine ⟨String.ofList (withTail w q.toList).queryChars, ?_, ?_, ?_⟩
  · rwa [String.toList_ofList]
  · have hkept : (withTail w q.toList).path.toChars = path.toList := hchars
    rw [relative, hkept, String.ofList_append, String.ofList_toList]
  · rw [join_rooted_eq_withTail hkind hrooted hpath (by rwa [String.toList_ofList]), hw,
      String.toList_ofList, hagain]

/-! ## The URL of a site -/

theorem isRootless_readAfterSlashes {k : SchemeKind} {scheme : String} {cs : List Char} {u : Url}
    (h : readAfterSlashes k scheme cs = .ok u) : u.isRootless = false := by
  obtain ⟨_, _, _, _, _, _, rfl⟩ := of_readAfterSlashes h
  rfl

theorem isRootless_readFile {whole cs : List Char} {u : Url}
    (h : readFile none whole cs = .ok u) : u.isRootless = false := by
  cases of_readFile h with
  | kept hb _ => contradiction
  | besides hb _ _ => contradiction
  | root _ => rfl
  | rootOf _ _ => rfl
  | authority _ _ _ => rfl

theorem isRootless_or_scheme_of_readOther {scheme : String} {cs : List Char} {u : Url}
    (h : readOther scheme cs = .ok u) : u.isRootless = false ∨ u.scheme = scheme := by
  unfold readOther at h
  split at h
  · exact .inl (isRootless_readAfterSlashes h)
  · cases h
    exact .inl rfl
  · cases h
    exact .inr rfl

/-- A URL of the web has segments. -/
theorem isRootless_of_parse {text : String} {u : Url} (h : parse text = .ok u)
    (hkind : u.kind = .web) : u.isRootless = false := by
  simp only [parse, readChars] at h
  split at h
  · rename_i scheme rest _
    split at h
    · exact isRootless_readFile h
    · exact isRootless_readAfterSlashes h
    · rename_i hother
      rcases isRootless_or_scheme_of_readOther h with hrooted | hscheme
      · exact hrooted
      · rw [kind, hscheme, hother] at hkind
        cases hkind
  · cases h

end Url

end HistorySearch
