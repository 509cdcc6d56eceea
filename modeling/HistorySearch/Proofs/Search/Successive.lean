-- SUMMARY: What is submitted after an accepted submission.
import HistorySearch.Proofs.Search.RoundTrip
import HistorySearch.Proofs.Search.Session

/-!
# Successive submissions

An accepted submission leaves a store from which the same form is filled again. So nothing is lost
between two submissions: submitting again changes no character of the store, and edits have the
same effect before and after a submission in between.
-/

namespace HistorySearch

/-- A form that was written gives the same parameters, whatever the stores held before. -/
theorem Store.params_set_toUpdate (s t : Store) (state : FormState) :
    (s.set state.toUpdate).params = (t.set state.toUpdate).params := by
  simp only [Store.params, QueryParams.ofPairs, FormState.firstValue?_set]

namespace Form

/-! ## Outcomes -/

theorem outcome_eq_submitted_iff {f : Form} {store : Store} {p : Predicate} :
    (f.submit store).outcome = .submitted p ↔ f.state.validate = .ok p := by
  cases hvalid : f.state.validate with
  | ok q => simp [submit_of_ok hvalid]
  | error e => simp [submit_of_error hvalid]

/-- The outcome depends on the search that the form asks for and on nothing else. -/
theorem outcome_eq_of_validate {f g : Form} (h : f.state.validate = g.state.validate)
    (s t : Store) : (f.submit s).outcome = (g.submit t).outcome := by
  cases hvalid : g.state.validate with
  | ok p => rw [submit_of_ok hvalid, submit_of_ok (h.trans hvalid)]
  | error e => rw [submit_of_error hvalid, submit_of_error (h.trans hvalid)]

/-- An accepted submission writes what the form holds to the store. -/
theorem store_of_submitted {f : Form} {store : Store} {p : Predicate}
    (h : (f.submit store).outcome = .submitted p) :
    (f.submit store).store = store.set f.state.toUpdate := by
  rw [submit_of_ok (outcome_eq_submitted_iff.mp h)]

/-! ## Edited forms -/

/-- The submission of a form that was mounted on a store and edited. -/
def submitEdited (store : Store) (edits : List FieldEdit) : Submission :=
  ((mount store).updateAll edits).submit store

/-- After an accepted submission the store fills a form as it was submitted. -/
theorem ofParams_submitEdited {store : Store} {edits : List FieldEdit}
    (hedits : ∀ e ∈ edits, e.IsReadable) {p : Predicate}
    (h : (submitEdited store edits).outcome = .submitted p) :
    FormState.ofParams (submitEdited store edits).store.params =
      (FormState.ofParams store.params).editAll edits := by
  have hwritable : ((mount store).updateAll edits).state.IsWritable := by
    rw [updateAll_state]
    exact FormState.isWritable_editAll (FormState.isWritable_ofParams store.params) hedits
  rw [submitEdited, store_of_submitted h, FormState.ofParams_set store hwritable, updateAll_state]
  rfl

/-- A URL whose query was edited by hand: with a bare date, a token type and a date that make no
sense, and values that are empty or repeated. -/
def sampleStore : Store :=
  .url
    ⟨"https", some (Authority.ofHost (.name "example.com")), .hierarchy ["tokens"],
      some "sinceDate=2024-01-01&a=%zz&tokenType=superuser&key=&untilDate=yesterday&a=2&key=abc",
      some "top"⟩

/-- Edits after which the form is accepted. -/
def sampleEdits : List FieldEdit :=
  [.key "", .ipAddress "::1/64 & é", .untilDate (some Timestamp.sampleLeap)]

def samplePredicate : Predicate :=
  ⟨none, none, some "::1/64 & é", some 1704067200, some 1483228799⟩

theorem isReadable_sampleEdits : ∀ e ∈ sampleEdits, e.IsReadable := by
  intro e he
  simp only [sampleEdits, List.mem_cons, List.not_mem_nil, or_false] at he
  rcases he with rfl | rfl | rfl
  · exact FieldEdit.isReadable_of_date?_eq_none rfl
  · exact FieldEdit.isReadable_of_date?_eq_none rfl
  · exact FieldEdit.isReadable_sampleLeap rfl

theorem outcome_sampleEdits :
    (submitEdited sampleStore sampleEdits).outcome = .submitted samplePredicate := by
  decide +kernel

/-! ## Submitting again -/

/-- A submission is accepted with a predicate and leaves the text of its store as it was. -/
structure Confirms (r : Submission) (p : Predicate) (store : Store) : Prop where
  outcome : r.outcome = .submitted p
  text : r.store.SameText store

/-- A form is confirmed on every store to which what it holds was written. -/
theorem confirms_of_written {f : Form} {p : Predicate} (h : f.state.validate = .ok p)
    (store : Store) :
    Confirms (f.submit (store.set f.state.toUpdate)) p (store.set f.state.toUpdate) where
  outcome := outcome_eq_submitted_iff.mpr h
  text := by
    rw [store_of_submitted (outcome_eq_submitted_iff.mpr h)]
    exact Store.sameText_set_set f.state.isProper_toUpdate store

/-- After an accepted submission the form can be submitted again, or another one that is mounted
on the store and not edited: the predicate is the same and no character of the store changes. -/
theorem confirmed_after_submission (store : Store) {edits : List FieldEdit}
    (hedits : ∀ e ∈ edits, e.IsReadable) {p : Predicate}
    (h : (submitEdited store edits).outcome = .submitted p) :
    let first := submitEdited store edits
    Confirms (first.form.submit first.store) p first.store ∧
      Confirms ((mount first.store).submit first.store) p first.store := by
  intro first
  have hstate : first.form.state = ((mount store).updateAll edits).state := state_submit _ store
  have hstore : first.store = store.set first.form.state.toUpdate := by
    rw [hstate]
    exact store_of_submitted h
  have hvalid : first.form.state.validate = .ok p := by
    rw [hstate]
    exact outcome_eq_submitted_iff.mp h
  have hmount : (mount first.store).state = first.form.state := by
    rw [hstate, updateAll_state]
    exact ofParams_submitEdited hedits h
  refine ⟨?_, ?_⟩
  · rw [hstore]
    exact confirms_of_written hvalid store
  · have hfresh := confirms_of_written (hmount ▸ hvalid) store
    rwa [hmount, ← hstore] at hfresh

theorem confirmed_after_submission_leap :
    (∀ e ∈ sampleEdits, e.IsReadable) ∧
      (submitEdited sampleStore sampleEdits).outcome = .submitted samplePredicate ∧
      let first := submitEdited sampleStore sampleEdits
      Confirms (first.form.submit first.store) samplePredicate first.store ∧
        Confirms ((mount first.store).submit first.store) samplePredicate first.store :=
  ⟨isReadable_sampleEdits, outcome_sampleEdits,
    confirmed_after_submission sampleStore isReadable_sampleEdits outcome_sampleEdits⟩

/-- The first submission may rewrite much of the query. -/
example :
    (submitEdited sampleStore sampleEdits).store.pairs =
      [("sinceDate", "2024-01-01T00:00:00Z"), ("a", "%zz"), ("tokenType", "any"),
        ("untilDate", "2017-01-01T05:29:60.500+05:30"), ("a", "2"), ("ipAddress", "::1/64 & é")] := by
  rw [submitEdited, store_of_submitted outcome_sampleEdits, Store.pairs_set]
  decide +kernel

/-! ## Submitting in between -/

/-- Edits may be submitted on the way: the outcome of the last submission is the same, and if it is
accepted the store has the same parameters and the same pairs of others. Only the dates that pass
through the store in between have to be readable. -/
theorem edited_in_between (store : Store) {first : List FieldEdit}
    (hfirst : ∀ e ∈ first, e.IsReadable) (second : List FieldEdit) {p : Predicate}
    (h : (submitEdited store first).outcome = .submitted p) :
    let twice := submitEdited (submitEdited store first).store second
    let once := submitEdited store (first ++ second)
    twice.outcome = once.outcome ∧
      ∀ q, once.outcome = .submitted q →
        twice.store.params = once.store.params ∧
          Query.foreign twice.store.pairs = Query.foreign once.store.pairs := by
  intro twice once
  have hstate : ((mount (submitEdited store first).store).updateAll second).state =
      ((mount store).updateAll (first ++ second)).state := by
    rw [updateAll_state, updateAll_state, FormState.editAll_append]
    exact congrArg (FormState.editAll · second) (ofParams_submitEdited hfirst h)
  have houtcome : twice.outcome = once.outcome := outcome_eq_of_validate (congrArg FormState.validate hstate) _ _
  refine ⟨houtcome, fun q hq => ?_⟩
  have hbetween : (submitEdited store first).store = store.set _ := store_of_submitted h
  have htwice : twice.store = Store.set _ _ := store_of_submitted (houtcome.trans hq)
  have honce : once.store = Store.set _ _ := store_of_submitted hq
  rw [htwice, honce, hstate]
  refine ⟨Store.params_set_toUpdate _ _ _, ?_⟩
  rw [Store.pairs_set, Store.pairs_set, Query.foreign_merge, Query.foreign_merge, hbetween,
    Store.pairs_set, Query.foreign_merge]

theorem edited_in_between_leap :
    (∀ e ∈ sampleEdits, e.IsReadable) ∧
      (submitEdited sampleStore sampleEdits).outcome = .submitted samplePredicate ∧
      let second := [.tokenType (.only .user), .sinceDate none]
      let twice := submitEdited (submitEdited sampleStore sampleEdits).store second
      let once := submitEdited sampleStore (sampleEdits ++ second)
      twice.outcome = once.outcome ∧
        ∀ q, once.outcome = .submitted q →
          twice.store.params = once.store.params ∧
            Query.foreign twice.store.pairs = Query.foreign once.store.pairs :=
  ⟨isReadable_sampleEdits, outcome_sampleEdits,
    edited_in_between sampleStore isReadable_sampleEdits _ outcome_sampleEdits⟩

end Form

end HistorySearch
