-- SUMMARY: What is read from a store after any run of updates.
import HistorySearch.Proofs.Search.Merge
import Mathlib.Data.List.Induction

/-!
# Reading after writes

Reading takes the first value of a name that is not empty, while writing replaces the first pair of
a name, empty or not. Still the last update that mentions a field decides what is read of it, and a
run of updates can be made as one. Pairs whose names no update mentions stay as they are.
-/

namespace HistorySearch

-- ---------------------------------------------------------------------------
-- Runs of updates
-- ---------------------------------------------------------------------------

namespace QueryUpdate

/-- What the last of some updates says for a field that mentions it, if one does. -/
def lastOf? (updates : List QueryUpdate) (field : Field) : Option (Option String) :=
  updates.reverse.findSome? (·.get? field)

/-- All settings of some updates, made in order in a single one. -/
def combined (updates : List QueryUpdate) : QueryUpdate :=
  ofList (updates.flatMap (·.entries))

/-- The fields that some updates mention. -/
def mentioned (updates : List QueryUpdate) : List Field :=
  updates.flatMap fun u => u.entries.map Prod.fst

theorem lastOf?_concat (updates : List QueryUpdate) (u : QueryUpdate) (field : Field) :
    lastOf? (updates ++ [u]) field = (u.get? field).or (lastOf? updates field) := by
  rw [lastOf?, List.reverse_append, List.reverse_singleton, List.singleton_append,
    List.findSome?_cons]
  cases u.get? field <;> rfl

/-- Setting all that a proper update says overwrites just the fields that it mentions. -/
theorem get?_foldl_set {u : QueryUpdate} (h : u.IsProper) (v : QueryUpdate) (field : Field) :
    (u.entries.foldl (fun w e => w.set e.1 e.2) v).get? field =
      (u.get? field).or (v.get? field) := by
  obtain ⟨entries⟩ := u
  unfold get?
  induction entries generalizing v with
  | nil => rfl
  | cons e es ih =>
    have hset : (v.set e.1 e.2).entries.lookup field =
        if field = e.1 then some e.2 else v.entries.lookup field := by
      have hget := get?_set v e.1 field e.2
      rwa [bind_nonEmpty?_eq_self (h.nonempty e List.mem_cons_self)] at hget
    rw [List.foldl_cons, ih (v.set e.1 e.2) h.tail, hset, List.lookup_cons]
    -- No later entry is for the field of the first one.
    by_cases hfield : field = e.1
    · rw [hfield, h.lookup_tail, beq_self_eq_true, if_pos rfl]
      rfl
    · rw [beq_eq_false_iff_ne.mpr hfield, if_neg hfield]

theorem isProper_combined (updates : List QueryUpdate) : (combined updates).IsProper :=
  isProper_ofList _

/-- The single update says for each field what the last update says that mentions it. -/
theorem get?_combined {updates : List QueryUpdate} (h : ∀ u ∈ updates, u.IsProper)
    (field : Field) : (combined updates).get? field = lastOf? updates field := by
  induction updates using List.reverseRecOn with
  | nil => rfl
  | append_singleton us u ih =>
    have hus : ∀ v ∈ us, v.IsProper := fun v hv => h v (List.mem_append_left _ hv)
    have hu : u.IsProper := h u (by simp)
    have hsplit : combined (us ++ [u]) =
        u.entries.foldl (fun w e => w.set e.1 e.2) (combined us) := by
      simp only [combined, ofList, List.flatMap_append, List.flatMap_singleton, List.foldl_append]
    rw [hsplit, get?_foldl_set hu, ih hus, lastOf?_concat]

end QueryUpdate

namespace Query

/-- The pairs whose names are not those of some fields. -/
def apartFrom (fields : List Field) (ps : List FormEncoded.Pair) : List FormEncoded.Pair :=
  ps.filter fun p => fields.all (·.name ≠ p.1)

theorem apartFrom_merge {fields : List Field} {u : QueryUpdate}
    (h : ∀ e ∈ u.entries, e.1 ∈ fields) (ps : List FormEncoded.Pair) :
    apartFrom fields (merge ps u) = apartFrom fields ps := by
  refine filter_merge (fun e he p hp => ?_) ps
  rw [List.all_eq_false]
  exact ⟨e.1, h e he, by simp [hp]⟩

end Query

-- ---------------------------------------------------------------------------
-- Stores
-- ---------------------------------------------------------------------------

/-- What is given for a field that has a value or none: the token type is `any` without one. -/
def QueryParams.orAny (field : Field) (value : Option String) : Option String :=
  if field = .tokenType then some (value.getD "any") else value

/-- The parameters are given by the first value of each name that is not empty. -/
theorem QueryParams.get?_ofPairs (ps : List FormEncoded.Pair) (field : Field) :
    (ofPairs ps).get? field = orAny field (firstValue? ps field.name) := by
  cases field <;> rfl

theorem QueryParams.ofPairs_eq {ps qs : List FormEncoded.Pair}
    (h : ∀ field : Field, firstValue? ps field.name = firstValue? qs field.name) :
    ofPairs ps = ofPairs qs := by
  simp only [ofPairs, h]

namespace Store

/-- After a run of updates a field has the value that was written last, and if none was written the
value that it had. -/
theorem firstValue?_foldl_set {updates : List QueryUpdate} (h : ∀ u ∈ updates, u.IsProper)
    (s : Store) (field : Field) :
    QueryParams.firstValue? (updates.foldl set s).pairs field.name =
      (QueryUpdate.lastOf? updates field).getD (QueryParams.firstValue? s.pairs field.name) := by
  induction updates using List.reverseRecOn with
  | nil => rfl
  | append_singleton us u ih =>
    have hus : ∀ v ∈ us, v.IsProper := fun v hv => h v (List.mem_append_left _ hv)
    have hu : u.IsProper := h u (by simp)
    rw [List.foldl_append, List.foldl_cons, List.foldl_nil, pairs_set, Query.firstValue?_merge hu,
      ih hus, QueryUpdate.lastOf?_concat]
    cases u.get? field <;> rfl

theorem apartFrom_foldl_set {fields : List Field} {updates : List QueryUpdate}
    (h : ∀ u ∈ updates, ∀ e ∈ u.entries, e.1 ∈ fields) (s : Store) :
    Query.apartFrom fields (updates.foldl set s).pairs = Query.apartFrom fields s.pairs := by
  induction updates generalizing s with
  | nil => rfl
  | cons u us ih =>
    rw [List.foldl_cons, ih fun v hv => h v (List.mem_cons_of_mem _ hv), pairs_set]
    exact Query.apartFrom_merge (h u List.mem_cons_self) s.pairs

/-- After any run of updates each field is read as the last of them says that mentions it, or else
as the store had it; the same is read after a single update with all that they say; and the pairs
whose names none of them mentions are what they were. -/
theorem read_after_writes (s : Store) (writes : List (List (Field × Option String))) :
    let updates := writes.map QueryUpdate.ofList
    let after := updates.foldl set s
    (∀ field, after.params.get? field =
        QueryParams.orAny field
          ((QueryUpdate.lastOf? updates field).getD
            (QueryParams.firstValue? s.pairs field.name))) ∧
      after.params = (s.set (QueryUpdate.combined updates)).params ∧
      Query.apartFrom (QueryUpdate.mentioned updates) after.pairs =
        Query.apartFrom (QueryUpdate.mentioned updates) s.pairs := by
  intro updates after
  have hproper : ∀ u ∈ updates, u.IsProper := by
    intro u hu
    obtain ⟨settings, _, rfl⟩ := List.mem_map.mp hu
    exact QueryUpdate.isProper_ofList settings
  have hvalue := firstValue?_foldl_set hproper s
  refine ⟨fun field => ?_, ?_, ?_⟩
  · rw [params, QueryParams.get?_ofPairs, hvalue]
  · refine QueryParams.ofPairs_eq fun field => ?_
    rw [hvalue, pairs_set, Query.firstValue?_merge (QueryUpdate.isProper_combined updates),
      QueryUpdate.get?_combined hproper]
  · refine apartFrom_foldl_set (fun u hu e he => ?_) s
    exact List.mem_flatMap.mpr ⟨u, hu, List.mem_map_of_mem he⟩

-- What is written takes the place of an empty pair, though a later one was read.
example :
    ((memory [("key", ""), ("a", ""), ("key", "x")] 0).set (.ofList [(.key, some "y")])).pairs =
      [("key", "y"), ("a", "")] := by
  decide

end Store

end HistorySearch
