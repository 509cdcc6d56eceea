-- SUMMARY: The search form as a state machine over a query store.
import HistorySearch.Search.Shown
import HistorySearch.Search.Store

/-!
# The search form

A form is mounted on a store, edited, and submitted. A submission is either rejected with errors
on fields, which leaves the store alone, or handed off and then written to the store. Several
forms may share a store, so every step that needs the store is given it.
-/

namespace HistorySearch

/-- Whether a submission is under way. -/
inductive FormPhase
  | idle
  | submitting
  deriving DecidableEq

def FormPhase.name : FormPhase → String
  | idle => "Idle"
  | submitting => "Submitting"

/-- A search form: what its fields hold and the errors of the last submission. -/
structure Form where
  state : FormState
  errors : FieldErrors
  phase : FormPhase
  deriving DecidableEq

/-- A predicate that was handed off, and the store at that moment. -/
structure Handoff where
  predicate : Predicate
  store : Store
  deriving DecidableEq

/-- How a submission ended. -/
inductive Outcome
  /-- The predicate was handed off and the store written. -/
  | submitted (p : Predicate)
  /-- Nothing was handed off and the store was left alone. -/
  | rejected (errors : FieldErrors)
  deriving DecidableEq

/-- What a submission brought about. -/
structure Submission where
  outcome : Outcome
  form : Form
  store : Store
  calls : List Handoff
  deriving DecidableEq

namespace Form

/-- A form filled from a store. -/
def mount (store : Store) : Form :=
  ⟨FormState.ofParams store.params, .empty, .idle⟩

def mountEvents (store : Store) : List Event :=
  FormState.fillEvents store.params

def update (f : Form) (e : FieldEdit) : Form :=
  { f with state := f.state.edit e }

def updateAll (f : Form) (edits : List FieldEdit) : Form :=
  edits.foldl update f

/-- Drops edits and errors and fills the form from a store again. -/
def reset (f : Form) (store : Store) : Form :=
  { f with state := FormState.ofParams store.params, errors := .empty }

def begin (f : Form) : Form :=
  { f with phase := .submitting }

def finish (f : Form) (errors : FieldErrors) : Form :=
  { f with errors := errors, phase := .idle }

/-- Validates the form. An accepted predicate is handed off before the store is written. -/
def submit (f : Form) (store : Store) : Submission :=
  match f.state.validate with
  | .ok p =>
    { outcome := .submitted p
      form := f.begin.finish .empty
      store := store.set f.state.toUpdate
      calls := [⟨p, store⟩] }
  | .error e =>
    { outcome := .rejected e
      form := f.begin.finish e
      store := store
      calls := [] }

/-- What is noted during a submission; `dispatch` is what the receiver of the predicate notes. -/
def submitEvents (f : Form) (store : Store) (dispatch : Predicate → List Event) : List Event :=
  match f.state.validate with
  | .ok p =>
    Event.info ("Submitting token history search: " ++ p.shown) :: dispatch p ++
      (store.set f.state.toUpdate).writeEvents
  | .error e => [Event.debug ("Token history search rejected: " ++ e.shown)]

@[simp] theorem updateAll_state (f : Form) (edits : List FieldEdit) :
    (f.updateAll edits).state = f.state.editAll edits := by
  induction edits generalizing f with
  | nil => rfl
  | cons e es ih => exact ih (f.update e)

theorem state_begin (f : Form) : f.begin.state = f.state := rfl

theorem state_finish (f : Form) (e : FieldErrors) : (f.finish e).state = f.state := rfl

theorem submit_of_ok {f : Form} {p : Predicate} (h : f.state.validate = .ok p) (store : Store) :
    f.submit store =
      ⟨.submitted p, f.begin.finish .empty, store.set f.state.toUpdate, [⟨p, store⟩]⟩ := by
  rw [submit, h]

theorem submit_of_error {f : Form} {e : FieldErrors} (h : f.state.validate = .error e)
    (store : Store) : f.submit store = ⟨.rejected e, f.begin.finish e, store, []⟩ := by
  rw [submit, h]

/-- A submission leaves what the form holds as it is. -/
@[simp] theorem state_submit (f : Form) (store : Store) : (f.submit store).form.state = f.state := by
  cases hvalid : f.state.validate with
  | ok p => rw [submit_of_ok hvalid, state_finish, state_begin]
  | error e => rw [submit_of_error hvalid, state_finish, state_begin]

end Form

end HistorySearch
