-- SUMMARY: Pairs that are written as the query of a URL stand in it as they were written.
import HistorySearch.Proofs.Text.FormEncoded
import HistorySearch.Proofs.Url.Path
import HistorySearch.Url.Basic
import Mathlib.Data.List.DropRight

/-!
# Written queries

A text that is set as a query is encoded where a query cannot hold it as it is. What is written of
pairs has nothing to encode, whatever the scheme of the URL, so that the query is that text.
-/

namespace HistorySearch.Url

/-! ## Characters -/

theorem isWritten_lt {c : Char} (h : FormEncoded.isWritten c) : c.toNat < 0x80 := by
  simp only [FormEncoded.isWritten, Bool.or_eq_true, decide_eq_true_eq] at h
  rcases h with (((h | rfl) | rfl) | rfl) | rfl
  · exact FormEncoded.isPlain_lt h
  all_goals decide

/-- What is written of pairs stands for itself in a query of every kind. -/
theorem isQueryPlain_of_isWritten (k : SchemeKind) {c : Char} (h : FormEncoded.isWritten c) :
    isQueryPlain k c := by
  have hlt := isWritten_lt h
  revert h
  cases k
  all_goals exact of_ascii (P := fun c => FormEncoded.isWritten c → isQueryPlain _ c) (by decide) hlt

theorem isQueryPlain_of_mem_encode {k : SchemeKind} {cs : List Char} {c : Char}
    (h : c ∈ Percent.encode (isQueryPlain k) cs) : isQueryPlain k c := by
  cases k
  all_goals exact Percent.keep_of_mem_encode (by decide) h

theorem visible_of_isQueryPlain {k : SchemeKind} {c : Char} (h : isQueryPlain k c) :
    0x20 < c.toNat := by
  simp only [isQueryPlain, Bool.and_eq_true, decide_eq_true_eq] at h
  exact h.1.1.1

/-! ## Pairs -/

/-- Setting the query to what is written of pairs encodes nothing. -/
theorem setQuery_write (u : Url) (ps : List FormEncoded.Pair) :
    u.setQuery (some (FormEncoded.write ps)) = { u with query := some (FormEncoded.write ps) } := by
  have hplain : ∀ c ∈ FormEncoded.writeChars ps, isQueryPlain u.kind c := fun c hc =>
    isQueryPlain_of_isWritten u.kind (FormEncoded.isWritten_of_mem_writeChars hc)
  have hvisible : Path.visible (FormEncoded.writeChars ps) = FormEncoded.writeChars ps :=
    Path.visible_eq_self fun c hc => visible_of_isQueryPlain (hplain c hc)
  rw [setQuery, FormEncoded.write, String.toList_ofList, hvisible, Percent.encode_eq_self hplain]

theorem setPairs_of_ne_nil (u : Url) {ps : List FormEncoded.Pair} (h : ps ≠ []) :
    u.setPairs ps = { u with query := some (FormEncoded.write ps) } := by
  rw [setPairs, List.isEmpty_eq_false_iff.mpr h]
  exact setQuery_write u ps

/-- The query is what is written of the pairs, and absent exactly if there are none. -/
theorem query_setPairs (u : Url) (ps : List FormEncoded.Pair) :
    (u.setPairs ps).query = if ps = [] then none else some (FormEncoded.write ps) := by
  by_cases h : ps = []
  · rw [h]
    rfl
  · rw [setPairs_of_ne_nil u h, if_neg h]

theorem pairs_setPairs (u : Url) (ps : List FormEncoded.Pair) : (u.setPairs ps).pairs = ps := by
  rw [pairs, query_setPairs]
  split
  · rename_i h
    rw [h]
    rfl
  · exact FormEncoded.read_write ps

/-! ## Pairs that are written twice -/

theorem trimRootless_trimRootless (path : UrlPath) :
    trimRootless (trimRootless path) = trimRootless path := by
  cases path with
  | hierarchy segments => rfl
  | rootless text => simp [trimRootless, List.dropWhile_idempotent]

/-- Writing the same pairs again leaves the whole URL as it is. -/
theorem setPairs_setPairs (u : Url) (ps : List FormEncoded.Pair) :
    (u.setPairs ps).setPairs ps = u.setPairs ps := by
  by_cases h : ps = []
  · subst h
    -- Without pairs the end of the path may have been trimmed, which happens once.
    cases hfragment : u.fragment with
    | none => simp [setPairs, setQuery, hfragment, trimRootless_trimRootless]
    | some text => simp [setPairs, setQuery, hfragment]
  · rw [setPairs_of_ne_nil u h, setPairs_of_ne_nil _ h]

end HistorySearch.Url
