-- SUMMARY: What a write changes of a store, and what the text is made of that it leaves.
import HistorySearch.Proofs.Search.Mirrored

/-!
# Rewritten queries

A write replaces the query of a URL by the text of its merged pairs and touches no other part. That
text is made of few characters, none of which needs encoding or could be taken for the sign in front
of a query, so that it gives the same pairs wherever it is read.
-/

namespace HistorySearch

namespace FormEncoded

theorem isWritten_iff {c : Char} : isWritten c ↔ c.isAlphanum ∨ c ∈ "*-._+%&=".toList := by
  simp [isWritten, isPlain, or_assoc]

theorem isWritten_of_mem_write {ps : List Pair} {c : Char} (h : c ∈ (write ps).toList) :
    isWritten c := by
  rw [write, String.toList_ofList] at h
  exact isWritten_of_mem_writeChars h

/-- What is written of pairs does not start with the sign of a query, even if a name does. -/
theorem head?_write (ps : List Pair) : (write ps).toList.head? ≠ some '?' := by
  intro h
  have hmem : '?' ∈ (write ps).toList := List.mem_of_head? h
  exact absurd (isWritten_of_mem_write hmem) (by decide)

end FormEncoded

namespace Store

/-- A list of pairs is found again in its text. -/
theorem pairs_ofQuery_write (ps : List FormEncoded.Pair) :
    (ofQuery (FormEncoded.write ps)).pairs = ps := by
  rw [ofQuery_of_head? (FormEncoded.head?_write ps), FormEncoded.read_write]
  rfl

/-- Writing to a URL with a hierarchy changes its query alone. -/
theorem set_url {u : Url} (h : u.isRootless = false) (w : QueryUpdate) :
    (url u).set w = url { u with
      query :=
        if Query.merge u.pairs w = [] then none
        else some (FormEncoded.write (Query.merge u.pairs w)) } := by
  rw [set]
  by_cases hpairs : Query.merge u.pairs w = []
  · obtain ⟨scheme, authority, path, query, fragment⟩ := u
    cases path with
    | rootless text => contradiction
    | hierarchy segments =>
      -- Only a path without hierarchy could lose spaces together with the query.
      rw [hpairs, if_pos rfl]
      cases fragment <;> rfl
  · rw [if_neg hpairs, Url.setPairs_of_ne_nil u hpairs]

/-- Pairs are found again in what is written of them, which has none but ASCII letters and digits
and eight signs. A write to a URL with a hierarchy leaves exactly this text of its merged pairs as
the query, or none without pairs, and leaves the other parts of the URL as they were. A list of
pairs is found again in the text of its store. -/
theorem only_query_rewritten :
    (∀ ps : List FormEncoded.Pair, FormEncoded.read (FormEncoded.write ps) = ps ∧
      ∀ c ∈ (FormEncoded.write ps).toList, c.isAlphanum ∨ c ∈ "*-._+%&=".toList) ∧
    (∀ (u : Url) (w : QueryUpdate), u.isRootless = false →
      (url u).set w = url { u with
        query :=
          if Query.merge u.pairs w = [] then none
          else some (FormEncoded.write (Query.merge u.pairs w)) }) ∧
    ∀ (ps : List FormEncoded.Pair) (writes : Nat),
      (ofQuery (memory ps writes).text).pairs = ps := by
  refine ⟨?_, ?_, ?_⟩
  · intro ps
    refine ⟨FormEncoded.read_write ps, ?_⟩
    intro c hc
    exact FormEncoded.isWritten_iff.mp (FormEncoded.isWritten_of_mem_write hc)
  · intro u w hrooted
    exact set_url hrooted w
  · intro ps writes
    exact pairs_ofQuery_write ps

/-- A name that starts with a question mark, and a URL with every part and a malformed query. -/
theorem only_query_rewritten_marked :
    let ps : List FormEncoded.Pair := [("?é=", "a b&"), ("", "")]
    let u : Url :=
      ⟨"https", some ⟨"user", "p", .name "example.com", some 8443⟩, .hierarchy ["a", ""],
        some "key=%zz&&x&key=", some "top"⟩
    let w := QueryUpdate.ofList [(.key, some "?"), (.ipAddress, none)]
    '%' ∈ (FormEncoded.write ps).toList ∧ ('%'.isAlphanum ∨ '%' ∈ "*-._+%&=".toList) ∧
      u.isRootless = false ∧
      (url u).set w = url { u with
        query :=
          if Query.merge u.pairs w = [] then none
          else some (FormEncoded.write (Query.merge u.pairs w)) } := by
  intro ps u w
  have hmem : '%' ∈ (FormEncoded.write ps).toList := by decide +kernel
  have hrooted : u.isRootless = false := rfl
  exact ⟨hmem, (only_query_rewritten.1 ps).2 '%' hmem, hrooted,
    only_query_rewritten.2.1 u w hrooted⟩

end Store

end HistorySearch
