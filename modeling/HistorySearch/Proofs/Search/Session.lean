-- SUMMARY: What a form and its store have become after any operations on them.
import HistorySearch.Proofs.Search.Merge
import HistorySearch.Search.Form
import Mathlib.Data.List.Induction

/-!
# Sessions of a form

A session is a mounted form together with its store, to which others may write as well. After any
operations each part of a session can be told from what was done: the form from the last edits
since it was filled, the errors from the last submission, what was handed off and written from
the submissions that were accepted.
-/

namespace HistorySearch

-- ---------------------------------------------------------------------------
-- Edits
-- ---------------------------------------------------------------------------

theorem getLastD_append_toList {α : Type} (as : List α) (o : Option α) (d : α) :
    (as ++ o.toList).getLastD d = o.getD (as.getLastD d) := by
  cases o with
  | none => simp
  | some a => simp

namespace FieldEdit

/-! What an edit says of a field, if it is about that field. -/

def key? : FieldEdit → Option String
  | key text => some text
  | _ => none

def tokenFilter? : FieldEdit → Option TokenFilter
  | tokenType filter => some filter
  | _ => none

def ipAddress? : FieldEdit → Option String
  | ipAddress text => some text
  | _ => none

/-- The inner option is the date itself, which an edit may remove. -/
def earliest? : FieldEdit → Option (Option Timestamp)
  | sinceDate date => some date
  | _ => none

def latest? : FieldEdit → Option (Option Timestamp)
  | untilDate date => some date
  | _ => none

/-- What the last of the edits that are about a field says of it, or else what it was. -/
def lastSaid {α : Type} (about? : FieldEdit → Option α) (edits : List FieldEdit) (before : α) : α :=
  (edits.filterMap about?).getLastD before

theorem lastSaid_concat {α : Type} (about? : FieldEdit → Option α) (edits : List FieldEdit)
    (e : FieldEdit) (before : α) :
    lastSaid about? (edits ++ [e]) before = (about? e).getD (lastSaid about? edits before) := by
  have hlast : [e].filterMap about? = (about? e).toList := by
    cases h : about? e with
    | none => simp [h]
    | some a => simp [h]
  rw [lastSaid, List.filterMap_append, hlast, getLastD_append_toList, lastSaid]

end FieldEdit

namespace FormState

open FieldEdit

/-- The form in which each field is what was last said of it. -/
def overwritten (s : FormState) (edits : List FieldEdit) : FormState where
  key := lastSaid key? edits s.key
  tokenFilter := lastSaid tokenFilter? edits s.tokenFilter
  ipAddress := lastSaid ipAddress? edits s.ipAddress
  earliest := lastSaid earliest? edits s.earliest
  latest := lastSaid latest? edits s.latest

theorem overwritten_concat (s : FormState) (edits : List FieldEdit) (e : FieldEdit) :
    s.overwritten (edits ++ [e]) = (s.overwritten edits).edit e := by
  simp only [overwritten, lastSaid_concat]
  cases e <;> rfl

theorem editAll_append (s : FormState) (as bs : List FieldEdit) :
    s.editAll (as ++ bs) = (s.editAll as).editAll bs :=
  List.foldl_append

/-- Edits one after the other leave each field with what was last said of it. -/
theorem editAll_eq_overwritten (s : FormState) (edits : List FieldEdit) :
    s.editAll edits = s.overwritten edits := by
  induction edits using List.reverseRecOn with
  | nil => rfl
  | append_singleton es e ih =>
    rw [editAll_append, ih, overwritten_concat]
    rfl

end FormState

-- ---------------------------------------------------------------------------
-- Submissions
-- ---------------------------------------------------------------------------

/-- The predicate that was handed off, if a submission was accepted. -/
def Outcome.predicate? : Outcome → Option Predicate
  | submitted p => some p
  | rejected _ => none

/-- All that a submission can do: an accepted one hands off the predicate with the store as it was
and then writes to the store once, a rejected one leaves its errors and nothing else. -/
theorem Form.submit_cases (f : Form) (store : Store) :
    (∃ p, f.submit store =
      ⟨.submitted p, { f with errors := .empty, phase := .idle }, store.set f.state.toUpdate,
        [⟨p, store⟩]⟩) ∨
    (∃ e, f.submit store = ⟨.rejected e, { f with errors := e, phase := .idle }, store, []⟩) := by
  unfold Form.submit
  cases f.state.validate with
  | ok p => exact .inl ⟨p, rfl⟩
  | error e => exact .inr ⟨e, rfl⟩

-- ---------------------------------------------------------------------------
-- Operations
-- ---------------------------------------------------------------------------

/-- What can be done to a form and its store. -/
inductive Operation
  | update (e : FieldEdit)
  | reset
  | submit
  /-- A write to the store that is not made by the form. -/
  | write (u : QueryUpdate)
  deriving DecidableEq

/-- A form with its store, the outcomes of its submissions and what was handed off. -/
structure Session where
  form : Form
  store : Store
  outcomes : List Outcome
  calls : List Handoff

namespace Session

/-- A session on a store, before anything is done. -/
def mount (store : Store) : Session :=
  ⟨Form.mount store, store, [], []⟩

def submit (s : Session) : Session :=
  let r := s.form.submit s.store
  ⟨r.form, r.store, s.outcomes ++ [r.outcome], s.calls ++ r.calls⟩

def step (s : Session) : Operation → Session
  | .update e => { s with form := s.form.update e }
  | .reset => { s with form := s.form.reset s.store }
  | .submit => s.submit
  | .write u => { s with store := s.store.set u }

def run (store : Store) (ops : List Operation) : Session :=
  ops.foldl step (mount store)

theorem run_concat (store : Store) (ops : List Operation) (op : Operation) :
    run store (ops ++ [op]) = (run store ops).step op :=
  List.foldl_append

-- ---------------------------------------------------------------------------
-- History
-- ---------------------------------------------------------------------------

/-- An operation and the session in which it is made. -/
structure Moment where
  before : Session
  op : Operation

/-- The moments of a run from a session on, in order. -/
def momentsFrom (s : Session) : List Operation → List Moment
  | [] => []
  | op :: ops => ⟨s, op⟩ :: momentsFrom (s.step op) ops

/-- The moments of the operations on a store, in order. -/
def moments (store : Store) (ops : List Operation) : List Moment :=
  momentsFrom (mount store) ops

namespace Moment

/-- The outcome, if a form was submitted. -/
def outcome? (m : Moment) : Option Outcome :=
  match m.op with
  | .submit => some (m.before.form.submit m.before.store).outcome
  | _ => none

/-- The predicate of an accepted submission. -/
def accepted? (m : Moment) : Option Predicate :=
  m.outcome?.bind Outcome.predicate?

/-- What an accepted submission hands off while the store is still what it was. -/
def handoff? (m : Moment) : Option Handoff :=
  m.accepted?.map (⟨·, m.before.store⟩)

/-- What is written to the store: by others, or by an accepted submission what the form holds. -/
def write? (m : Moment) : Option QueryUpdate :=
  match m.op with
  | .write u => some u
  | _ => m.accepted?.map fun _ => m.before.form.state.toUpdate

/-- The errors that are shown from then on: none after a reset or an accepted submission. -/
def errors? (m : Moment) : Option FieldErrors :=
  match m.op, m.outcome? with
  | .reset, _ => some .empty
  | _, some (.submitted _) => some .empty
  | _, some (.rejected e) => some e
  | _, none => none

/-- The store that a form is filled from, if it is reset. -/
def seed? (m : Moment) : Option Store :=
  match m.op with
  | .reset => some m.before.store
  | _ => none

end Moment

/-- The store from which the form was last filled, as it was then. -/
def lastSeed (store : Store) (ops : List Operation) : Store :=
  ((moments store ops).filterMap Moment.seed?).getLastD store

/-- The operations since the form was last filled. -/
def sinceSeed (ops : List Operation) : List Operation :=
  (ops.reverse.takeWhile (· ≠ .reset)).reverse

def editsOf (ops : List Operation) : List FieldEdit :=
  ops.filterMap fun
    | .update e => some e
    | _ => none

theorem momentsFrom_concat (s : Session) (ops : List Operation) (op : Operation) :
    momentsFrom s (ops ++ [op]) = momentsFrom s ops ++ [⟨ops.foldl step s, op⟩] := by
  induction ops generalizing s with
  | nil => rfl
  | cons first ops ih => exact congrArg (⟨s, first⟩ :: ·) (ih (s.step first))

theorem filterMap_moments_concat {α : Type} (f : Moment → Option α) (store : Store)
    (ops : List Operation) (op : Operation) :
    (moments store (ops ++ [op])).filterMap f =
      (moments store ops).filterMap f ++ (f ⟨run store ops, op⟩).toList := by
  rw [moments, momentsFrom_concat, List.filterMap_append]
  congr 1

theorem sinceSeed_concat (ops : List Operation) (op : Operation) :
    sinceSeed (ops ++ [op]) = if op = .reset then [] else sinceSeed ops ++ [op] := by
  simp only [sinceSeed, List.reverse_append, List.reverse_singleton, List.singleton_append,
    List.takeWhile_cons]
  split <;> simp_all

theorem editsOf_append (as bs : List Operation) :
    editsOf (as ++ bs) = editsOf as ++ editsOf bs :=
  List.filterMap_append

-- ---------------------------------------------------------------------------
-- Sessions explained
-- ---------------------------------------------------------------------------

/-- What a session is, told from the operations that led to it. -/
structure IsExplainedBy (s : Session) (store : Store) (ops : List Operation) : Prop where
  /-- No submission is under way. -/
  phase : s.form.phase = .idle
  /-- Each field is what the last edit of it since the form was filled says, or else what it was
  filled with. -/
  state : s.form.state =
    (FormState.ofParams (lastSeed store ops).params).overwritten (editsOf (sinceSeed ops))
  /-- The errors are those that were set last. -/
  errors : s.form.errors = ((moments store ops).filterMap Moment.errors?).getLastD .empty
  /-- Every submission has its outcome. -/
  outcomes : s.outcomes = (moments store ops).filterMap Moment.outcome?
  /-- Each accepted submission hands off once, before it writes. -/
  calls : s.calls = (moments store ops).filterMap Moment.handoff?
  /-- Nothing is handed off but the predicates of the accepted submissions. -/
  predicates : s.calls.map Handoff.predicate = s.outcomes.filterMap Outcome.predicate?
  /-- The store has been written to by others and by accepted submissions, once by each. -/
  store : s.store = ((moments store ops).filterMap Moment.write?).foldl Store.set store

/-- The two steps that a submission can be, each with its outcome. -/
theorem submit_cases (s : Session) :
    (∃ p, Moment.outcome? ⟨s, .submit⟩ = some (.submitted p) ∧
      s.submit =
        { form := { s.form with errors := .empty, phase := .idle }
          store := s.store.set s.form.state.toUpdate
          outcomes := s.outcomes ++ [.submitted p]
          calls := s.calls ++ [⟨p, s.store⟩] }) ∨
    (∃ e, Moment.outcome? ⟨s, .submit⟩ = some (.rejected e) ∧
      s.submit =
        { s with
          form := { s.form with errors := e, phase := .idle }
          outcomes := s.outcomes ++ [.rejected e] }) := by
  rcases s.form.submit_cases s.store with ⟨p, h⟩ | ⟨e, h⟩
  · exact .inl ⟨p, by rw [Moment.outcome?, h], by rw [submit, h]⟩
  · exact .inr ⟨e, by rw [Moment.outcome?, h], by rw [submit, h, List.append_nil]⟩

theorem phase_run (store : Store) (ops : List Operation) : (run store ops).form.phase = .idle := by
  induction ops using List.reverseRecOn with
  | nil => rfl
  | append_singleton ops op ih =>
    rw [run_concat]
    cases op with
    | submit =>
      rcases (run store ops).submit_cases with ⟨p, _, h⟩ | ⟨e, _, h⟩
      · rw [step, h]
      · rw [step, h]
    | _ => exact ih

theorem state_run (store : Store) (ops : List Operation) :
    (run store ops).form.state =
      (FormState.ofParams (lastSeed store ops).params).editAll (editsOf (sinceSeed ops)) := by
  -- All edits are kept here; that only the last one of a field matters is
  -- `FormState.editAll_eq_overwritten`.
  induction ops using List.reverseRecOn with
  | nil => rfl
  | append_singleton ops op ih =>
    rw [run_concat, lastSeed, filterMap_moments_concat, getLastD_append_toList, sinceSeed_concat]
    cases op with
    | update e =>
      rw [if_neg Operation.noConfusion, editsOf_append, FormState.editAll_append]
      exact congrArg (FormState.edit · e) ih
    | reset => rfl
    | submit =>
      rw [if_neg Operation.noConfusion, editsOf_append, FormState.editAll_append]
      exact (Form.state_submit _ _).trans ih
    | write u =>
      rw [if_neg Operation.noConfusion, editsOf_append, FormState.editAll_append]
      exact ih

theorem errors_run (store : Store) (ops : List Operation) :
    (run store ops).form.errors =
      ((moments store ops).filterMap Moment.errors?).getLastD .empty := by
  induction ops using List.reverseRecOn with
  | nil => rfl
  | append_singleton ops op ih =>
    rw [run_concat, filterMap_moments_concat, getLastD_append_toList, ← ih]
    cases op with
    | submit =>
      rcases (run store ops).submit_cases with ⟨p, houtcome, h⟩ | ⟨e, houtcome, h⟩
      · simp [step, Moment.errors?, houtcome, h]
      · simp [step, Moment.errors?, houtcome, h]
    | _ => rfl

theorem outcomes_run (store : Store) (ops : List Operation) :
    (run store ops).outcomes = (moments store ops).filterMap Moment.outcome? := by
  induction ops using List.reverseRecOn with
  | nil => rfl
  | append_singleton ops op ih =>
    rw [run_concat, filterMap_moments_concat, ← ih]
    cases op with
    | submit => rfl
    | _ => exact (List.append_nil _).symm

theorem calls_run (store : Store) (ops : List Operation) :
    (run store ops).calls = (moments store ops).filterMap Moment.handoff? := by
  induction ops using List.reverseRecOn with
  | nil => rfl
  | append_singleton ops op ih =>
    rw [run_concat, filterMap_moments_concat, ← ih]
    cases op with
    | submit =>
      rcases (run store ops).submit_cases with ⟨p, houtcome, h⟩ | ⟨e, houtcome, h⟩
      · simp [step, Moment.handoff?, Moment.accepted?, Outcome.predicate?, houtcome, h]
      · simp [step, Moment.handoff?, Moment.accepted?, Outcome.predicate?, houtcome, h]
    | _ => exact (List.append_nil _).symm

theorem predicates_run (store : Store) (ops : List Operation) :
    (run store ops).calls.map Handoff.predicate =
      (run store ops).outcomes.filterMap Outcome.predicate? := by
  have hmoment : ∀ m : Moment, m.handoff?.map Handoff.predicate = m.accepted? := by
    intro m
    rw [Moment.handoff?, Option.map_map]
    exact congrFun Option.map_id m.accepted?
  rw [calls_run, outcomes_run, List.filterMap_filterMap, List.map_filterMap, funext hmoment]
  rfl

theorem store_run (store : Store) (ops : List Operation) :
    (run store ops).store =
      ((moments store ops).filterMap Moment.write?).foldl Store.set store := by
  induction ops using List.reverseRecOn with
  | nil => rfl
  | append_singleton ops op ih =>
    rw [run_concat, filterMap_moments_concat, List.foldl_append, ← ih]
    cases op with
    | submit =>
      rcases (run store ops).submit_cases with ⟨p, houtcome, h⟩ | ⟨e, houtcome, h⟩
      · simp [step, Moment.write?, Moment.accepted?, Outcome.predicate?, houtcome, h]
      · simp [step, Moment.write?, Moment.accepted?, Outcome.predicate?, houtcome, h]
    | _ => rfl

/-- After any operations a session is what the operations explain. -/
theorem run_isExplained (store : Store) (ops : List Operation) :
    (run store ops).IsExplainedBy store ops where
  phase := phase_run store ops
  state := (state_run store ops).trans (FormState.editAll_eq_overwritten _ _)
  errors := errors_run store ops
  outcomes := outcomes_run store ops
  calls := calls_run store ops
  predicates := predicates_run store ops
  store := store_run store ops

def sampleStore : Store :=
  .memory [("a", "1"), ("tokenType", "user"), ("sinceDate", "2024-01-01")] 0

/-- The operations up to a rejected submission. -/
def sampleRejected : List Operation :=
  [.update (.key "too short"), .update (.sinceDate none),
    .write (.ofList [(.ipAddress, some "::2")]), .submit]

/-- After the rejection the form is filled from what others have written, edited while they write
again, and accepted. -/
def sampleAccepted : List Operation :=
  sampleRejected ++
    [.reset, .update (.tokenType .any), .update (.untilDate (some ⟨1704067201, 0, 0⟩)),
      .update (.tokenType (.only .notebook)),
      .write (.ofList [(.ipAddress, none), (.key, some "others")]), .submit]

theorem run_isExplained_rejected_then_accepted :
    (run sampleStore sampleRejected).form.state = ⟨"too short", .only .user, "", none, none⟩ ∧
      (run sampleStore sampleRejected).form.errors =
        FieldErrors.empty.insert .key "Invalid token" ∧
      (run sampleStore sampleAccepted).form.state =
        ⟨"", .only .notebook, "::2", some ⟨1704067200, 0, 0⟩, some ⟨1704067201, 0, 0⟩⟩ ∧
      (run sampleStore sampleAccepted).form.errors = .empty ∧
      (run sampleStore sampleAccepted).calls =
        [⟨⟨none, some .notebook, some "::2", some 1704067200, some 1704067201⟩,
          .memory [("a", "1"), ("tokenType", "user"), ("sinceDate", "2024-01-01"),
            ("key", "others")] 2⟩] ∧
      (run sampleStore sampleAccepted).store =
        .memory [("a", "1"), ("tokenType", "notebook"), ("sinceDate", "2024-01-01T00:00:00Z"),
          ("ipAddress", "::2"), ("untilDate", "2024-01-01T00:00:01Z")] 3 := by
  have hrejected := run_isExplained sampleStore sampleRejected
  have haccepted := run_isExplained sampleStore sampleAccepted
  refine ⟨hrejected.state.trans ?_, hrejected.errors.trans ?_, haccepted.state.trans ?_,
    haccepted.errors.trans ?_, haccepted.calls.trans ?_, haccepted.store.trans ?_⟩
  all_goals decide +kernel

end Session

end HistorySearch
