-- SUMMARY: A store of pairs does what the store of a URL does.
import HistorySearch.Proofs.Search.Merge
import Mathlib.Data.List.Induction

/-!
# URLs and lists of pairs

A list of pairs that was read from the query of a URL can stand for the URL: after the same writes
both give the same parameters. Though a URL keeps nothing but text, which each write reads and
writes anew, that text is from the first write on what the list is written as.
-/

namespace HistorySearch.Store

/-- A text that does not start with a question mark is read as it is. -/
theorem ofQuery_of_head? {q : String} (h : q.toList.head? ≠ some '?') :
    ofQuery q = memory (FormEncoded.read q) 0 := by
  have hkept : q.toList.dropWhile (· = '?') = q.toList := by
    cases hq : q.toList with
    | nil => rfl
    | cons c cs =>
      rw [hq] at h
      have hc : c ≠ '?' := fun hc => h (congrArg some hc)
      exact List.dropWhile_cons_of_neg (by simpa using hc)
  rw [ofQuery, hkept, String.ofList_toList]

/-- A URL and a list with its pairs stay alike when an update is made, and the text of the URL is
then that of the list. -/
theorem set_alike (u : Url) (writes : Nat) (w : QueryUpdate) :
    ∃ v, (url u).set w = url v ∧ (memory u.pairs writes).set w = memory v.pairs (writes + 1) ∧
      v.query = if v.pairs = [] then none else some (FormEncoded.write v.pairs) := by
  refine ⟨u.setPairs (Query.merge u.pairs w), rfl, ?_, ?_⟩
  · rw [Url.pairs_setPairs]
    rfl
  · rw [Url.pairs_setPairs]
    exact Url.query_setPairs u _

/-- The same for any number of updates; the text is alike once there is one. -/
theorem foldl_set_alike (u : Url) (writes : Nat) (updates : List QueryUpdate) :
    ∃ v, updates.foldl set (url u) = url v ∧
      updates.foldl set (memory u.pairs writes) = memory v.pairs (writes + updates.length) ∧
      (updates ≠ [] →
        v.query = if v.pairs = [] then none else some (FormEncoded.write v.pairs)) := by
  -- From the end, since only the last write counts for the text.
  induction updates using List.reverseRecOn with
  | nil => exact ⟨u, rfl, rfl, fun h => absurd rfl h⟩
  | append_singleton ws w ih =>
    obtain ⟨v, hurl, hmemory, _⟩ := ih
    obtain ⟨last, hlast, hpairs, hquery⟩ := set_alike v (writes + ws.length) w
    refine ⟨last, ?_, ?_, fun _ => hquery⟩
    · rw [List.foldl_append, hurl]
      exact hlast
    · rw [List.foldl_append, hmemory, List.length_append]
      exact hpairs

/-- After any updates the store of a URL and a store of pairs that was made of its query give the
same parameters. Once there was an update, the query of the URL is the text of the other store,
and it is absent exactly if no pairs are left. -/
theorem url_mirrors_memory (u : Url) (h : (u.query.getD "").toList.head? ≠ some '?')
    (updates : List QueryUpdate) :
    let pairsStore := updates.foldl set (ofQuery (u.query.getD ""))
    ∃ v, updates.foldl set (url u) = url v ∧ (url v).params = pairsStore.params ∧
      (updates ≠ [] →
        (pairsStore.pairs ≠ [] → v.query = some pairsStore.text) ∧
          (v.query = none ↔ pairsStore.pairs = [])) := by
  intro pairsStore
  obtain ⟨v, hurl, hmemory, hquery⟩ := foldl_set_alike u 0 updates
  have hstore : pairsStore = memory v.pairs (0 + updates.length) := by
    rw [← hmemory, Url.pairs, ← ofQuery_of_head? h]
  rw [hstore]
  refine ⟨v, hurl, rfl, fun hne => ?_⟩
  rw [hquery hne]
  refine ⟨fun hpairs => if_neg hpairs, ?_⟩
  simp [pairs]

/-- A URL with malformed and repeated values, of which nothing is left in the end. -/
theorem url_mirrors_memory_removed :
    let u : Url :=
      ⟨"https", some (Authority.ofHost (.name "example.com")), .hierarchy ["tokens"],
        some "key=%zz&tokenType=a+b&key=", some "top"⟩
    let updates : List QueryUpdate :=
      [.ofList [(.key, some "é&"), (.untilDate, none)], .ofList [(.tokenType, none), (.key, some "")]]
    let pairsStore := updates.foldl set (ofQuery (u.query.getD ""))
    (u.query.getD "").toList.head? ≠ some '?' ∧
      ∃ v, updates.foldl set (url u) = url v ∧ (url v).params = pairsStore.params ∧
        (updates ≠ [] →
          (pairsStore.pairs ≠ [] → v.query = some pairsStore.text) ∧
            (v.query = none ↔ pairsStore.pairs = [])) := by
  intro u updates pairsStore
  have hmark : (u.query.getD "").toList.head? ≠ some '?' := by decide
  exact ⟨hmark, url_mirrors_memory u hmark updates⟩

/-- A question mark at the start belongs to the first name in a URL only. -/
example :
    (url ⟨"https", none, .hierarchy [], some "?key=1", none⟩).params ≠ (ofQuery "?key=1").params := by
  decide +kernel

end HistorySearch.Store
