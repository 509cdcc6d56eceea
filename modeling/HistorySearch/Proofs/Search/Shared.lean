-- SUMMARY: What a store holds that several forms share.
import HistorySearch.Proofs.Search.RoundTrip
import HistorySearch.Proofs.Search.Session

/-!
# Shared stores

Several forms may be mounted on one store at different times, and each is edited, reset and
submitted whenever it likes. A form may thus be submitted long after the store that filled it has
changed. Still the store holds one form as a whole, the one that was accepted last, since a form
writes all its fields; the pairs of others stay.
-/

namespace HistorySearch

-- ---------------------------------------------------------------------------
-- Actions of a form
-- ---------------------------------------------------------------------------

/-- What is done with a form. -/
inductive FormAction
  | update (e : FieldEdit)
  | reset
  | submit
  deriving DecidableEq

namespace FormAction

/-- Some text is read as the date that an action sets, if it is an edit of a date. -/
def IsReadable : FormAction → Prop
  | update e => e.IsReadable
  | reset => True
  | submit => True

end FormAction

namespace Form

def act (f : Form) (store : Store) : FormAction → Form × Store
  | .update e => (f.update e, store)
  | .reset => (f.reset store, store)
  | .submit => ((f.submit store).form, (f.submit store).store)

/-- What a form holds at the moment at which it is submitted and accepted. -/
def accepted? (f : Form) (store : Store) : FormAction → Option FormState
  | .submit => (f.submit store).outcome.predicate?.map fun _ => f.state
  | _ => none

/-- An action leaves a form one that can be written. -/
theorem isWritable_act {f : Form} (h : f.state.IsWritable) (store : Store) {a : FormAction}
    (ha : a.IsReadable) : (f.act store a).1.state.IsWritable := by
  cases a with
  | update e => exact FormState.isWritable_edit h ha
  | reset => exact FormState.isWritable_ofParams store.params
  | submit =>
    rw [act, state_submit]
    exact h

/-- An action writes all that an accepted form holds to the store, or nothing. -/
theorem store_act (f : Form) (store : Store) (a : FormAction) :
    (f.act store a).2 =
      match f.accepted? store a with
      | some s => store.set s.toUpdate
      | none => store := by
  cases a with
  | update e => rfl
  | reset => rfl
  | submit =>
    rcases f.submit_cases store with ⟨p, hsubmit⟩ | ⟨e, hsubmit⟩
    · rw [act, accepted?, hsubmit]
      rfl
    · rw [act, accepted?, hsubmit]
      rfl

/-- A form is accepted with all that it holds. -/
theorem eq_of_accepted? {f : Form} {store : Store} {a : FormAction} {s : FormState}
    (h : f.accepted? store a = some s) : s = f.state := by
  cases a with
  | update e => cases h
  | reset => cases h
  | submit =>
    obtain ⟨p, _, hs⟩ := Option.map_eq_some_iff.mp h
    exact hs.symm

end Form

-- ---------------------------------------------------------------------------
-- Forms on one store
-- ---------------------------------------------------------------------------

/-- Forms that share a store, in the order in which they were mounted. -/
structure SharedStore where
  forms : List Form
  store : Store

namespace SharedStore

/-- What is done with forms that share a store. -/
inductive Action
  /-- One more form is mounted. -/
  | mount
  /-- Something is done with one of the forms; nothing happens if it is not mounted yet. -/
  | act (form : Nat) (action : FormAction)
  deriving DecidableEq

/-- Some text is read as the date that an action sets, if it is an edit of a date. -/
def Action.IsReadable : Action → Prop
  | mount => True
  | act _ action => action.IsReadable

def start (store : Store) : SharedStore :=
  ⟨[], store⟩

def step (s : SharedStore) : Action → SharedStore
  | .mount => { s with forms := s.forms ++ [Form.mount s.store] }
  | .act n action =>
    match s.forms[n]? with
    | some f => ⟨s.forms.set n (f.act s.store action).1, (f.act s.store action).2⟩
    | none => s

/-- What the form holds that is submitted and accepted by an action. -/
def accepted? (s : SharedStore) : Action → Option FormState
  | .mount => none
  | .act n action => s.forms[n]?.bind fun f => f.accepted? s.store action

def run (store : Store) (actions : List Action) : SharedStore :=
  actions.foldl step (start store)

/-- What the forms held that were accepted in the course of actions, in order. -/
def acceptedFrom (s : SharedStore) : List Action → List FormState
  | [] => []
  | a :: as => (s.accepted? a).toList ++ acceptedFrom (s.step a) as

/-- What the forms held that were accepted since a store was there, in order. -/
def accepted (store : Store) (actions : List Action) : List FormState :=
  acceptedFrom (start store) actions

/-! ## What a store holds -/

/-- A store with its forms, of which one was accepted last, if any was. -/
structure Holds (s : SharedStore) (initial : Store) (last : Option FormState) : Prop where
  /-- Every form can be written, however old it is. -/
  writable : ∀ f ∈ s.forms, f.state.IsWritable
  /-- The store fills a form with all that was accepted last. -/
  filled : ∀ state ∈ last, FormState.ofParams s.store.params = state
  /-- The pairs of others are the first ones. -/
  foreign : Query.foreign s.store.pairs = Query.foreign initial.pairs

theorem holds_start (store : Store) : (start store).Holds store none where
  writable := fun _ hf => absurd hf List.not_mem_nil
  filled := fun _ hstate => absurd hstate (Option.not_mem_none _)
  foreign := rfl

theorem holds_step {s : SharedStore} {initial : Store} {last : Option FormState}
    (h : s.Holds initial last) {a : Action} (ha : a.IsReadable) :
    (s.step a).Holds initial ((s.accepted? a).or last) := by
  cases a with
  | mount =>
    refine ⟨fun f hf => ?_, h.filled, h.foreign⟩
    rcases List.mem_append.mp hf with hf | hf
    · exact h.writable f hf
    · rw [List.mem_singleton.mp hf]
      exact FormState.isWritable_ofParams s.store.params
  | act n action =>
    cases hform : s.forms[n]? with
    | none =>
      simp only [step, accepted?, hform]
      exact h
    | some f =>
      have hf : f.state.IsWritable := h.writable f (List.mem_of_getElem? hform)
      have hstore := f.store_act s.store action
      simp only [step, accepted?, hform, Option.bind_some]
      refine ⟨fun g hg => ?_, ?_, ?_⟩
      · rcases List.mem_or_eq_of_mem_set hg with hg | rfl
        · exact h.writable g hg
        · exact Form.isWritable_act hf s.store ha
      · -- What was accepted now counts, and only otherwise what was accepted before.
        cases haccepted : f.accepted? s.store action with
        | none =>
          rw [haccepted] at hstore
          rw [hstore]
          exact h.filled
        | some state =>
          rw [haccepted] at hstore
          rintro _ ⟨⟩
          rw [hstore]
          exact FormState.ofParams_set s.store (Form.eq_of_accepted? haccepted ▸ hf)
      · rw [hstore]
        split
        · rw [Store.pairs_set, Query.foreign_merge]
          exact h.foreign
        · exact h.foreign

theorem holds_foldl {s : SharedStore} {initial : Store} {last : Option FormState}
    (h : s.Holds initial last) {actions : List Action} (hactions : ∀ a ∈ actions, a.IsReadable) :
    (actions.foldl step s).Holds initial ((s.acceptedFrom actions).getLast?.or last) := by
  induction actions generalizing s last with
  | nil => exact h
  | cons a as ih =>
    have hstep := holds_step h (hactions a List.mem_cons_self)
    have hrest := ih hstep fun b hb => hactions b (List.mem_cons_of_mem _ hb)
    rw [acceptedFrom, List.getLast?_append]
    cases haccepted : s.accepted? a with
    | none =>
      rw [haccepted] at hrest
      simpa using hrest
    | some state =>
      rw [haccepted] at hrest
      simpa [Option.or_assoc] using hrest

/-- Whatever forms share a store, it fills a form with all that the form held that was accepted
last, and keeps the pairs of others as they were at first. -/
theorem last_accepted_wins (store : Store) {actions : List Action}
    (hactions : ∀ a ∈ actions, a.IsReadable) :
    (∀ state ∈ (accepted store actions).getLast?,
        FormState.ofParams (run store actions).store.params = state) ∧
      Query.foreign (run store actions).store.pairs = Query.foreign store.pairs := by
  have hholds := holds_foldl (holds_start store) hactions
  rw [Option.or_none] at hholds
  exact ⟨hholds.filled, hholds.foreign⟩

def sampleStore : Store :=
  .url
    ⟨"https", some (Authority.ofHost (.name "example.com")), .hierarchy ["tokens"],
      some "a=1&tokenType=user&a=2&untilDate=2024-01-01", none⟩

/-- Two forms are filled by the same query; the second one is accepted when the first has written
a date that it does not know of. -/
def sampleActions : List Action :=
  [.mount, .mount, .act 0 (.update (.sinceDate (some Timestamp.sampleLeap))), .act 0 .submit,
    .act 1 (.update (.key "too short")), .act 1 .submit, .act 1 (.update (.key "")),
    .act 1 (.update (.ipAddress "::1")), .mount, .act 1 .submit]

theorem isReadable_sampleActions : ∀ a ∈ sampleActions, a.IsReadable := by
  intro a ha
  simp only [sampleActions, List.mem_cons, List.not_mem_nil, or_false] at ha
  rcases ha with rfl | rfl | rfl | rfl | rfl | rfl | rfl | rfl | rfl | rfl
  · trivial
  · trivial
  · exact FieldEdit.isReadable_sampleLeap rfl
  · trivial
  · exact FieldEdit.isReadable_of_date?_eq_none rfl
  · trivial
  · exact FieldEdit.isReadable_of_date?_eq_none rfl
  · exact FieldEdit.isReadable_of_date?_eq_none rfl
  · trivial
  · trivial

theorem last_accepted_wins_stale :
    (∀ a ∈ sampleActions, a.IsReadable) ∧
      FormState.ofParams (run sampleStore sampleActions).store.params =
        ⟨"", .only .user, "::1", none, some ⟨1704067200, 0, 0⟩⟩ ∧
      Query.foreign (run sampleStore sampleActions).store.pairs = [("a", "1"), ("a", "2")] := by
  obtain ⟨hfilled, hforeign⟩ := last_accepted_wins sampleStore isReadable_sampleActions
  refine ⟨isReadable_sampleActions, hfilled _ (Option.mem_def.mpr ?_), hforeign.trans ?_⟩
  · decide +kernel
  · decide +kernel

end SharedStore

end HistorySearch
