-- SUMMARY: Messages on the fields of a rejected form.
import HistorySearch.Search.Field
import HistorySearch.Text.Decimal

/-!
# Field errors

At most one message on each field, kept in the order of the form.
-/

namespace HistorySearch

/-- The messages on the fields. -/
structure FieldErrors where
  key : Option String
  tokenType : Option String
  ipAddress : Option String
  sinceDate : Option String
  untilDate : Option String
  deriving DecidableEq

namespace FieldErrors

def empty : FieldErrors :=
  ⟨none, none, none, none, none⟩

def get? (e : FieldErrors) : Field → Option String
  | .key => e.key
  | .tokenType => e.tokenType
  | .ipAddress => e.ipAddress
  | .sinceDate => e.sinceDate
  | .untilDate => e.untilDate

/-- Puts a message on a field, in place of one that is there. -/
def insert (e : FieldErrors) (field : Field) (message : String) : FieldErrors :=
  match field with
  | .key => { e with key := some message }
  | .tokenType => { e with tokenType := some message }
  | .ipAddress => { e with ipAddress := some message }
  | .sinceDate => { e with sinceDate := some message }
  | .untilDate => { e with untilDate := some message }

/-- The fields with their messages, in the order of the form. -/
def toList (e : FieldErrors) : List (Field × String) :=
  Field.all.filterMap fun f => (e.get? f).map (f, ·)

/-- Whether a field has a message. -/
def contains (e : FieldErrors) (field : Field) : Bool :=
  (e.get? field).isSome

def size (e : FieldErrors) : Nat :=
  e.toList.length

def isEmpty (e : FieldErrors) : Bool :=
  e.toList.isEmpty

/-- The summary of the errors. -/
def message (e : FieldErrors) : String :=
  "Search filter has " ++ String.ofList (Decimal.digits e.size) ++ " invalid field(s)"

theorem get?_insert (e : FieldErrors) (f g : Field) (m : String) :
    (e.insert f m).get? g = if g = f then some m else e.get? g := by
  cases f <;> cases g <;> rfl

@[simp] theorem get?_empty (f : Field) : empty.get? f = none := by
  cases f <;> rfl

@[simp] theorem isEmpty_empty : empty.isEmpty := rfl

end FieldErrors

end HistorySearch
