-- SUMMARY: The fields of the search form.

/-!
# Search fields

The names of the fields are also the names of the URL parameters.
-/

namespace HistorySearch

inductive Field
  | key
  | tokenType
  | ipAddress
  | sinceDate
  | untilDate
  deriving DecidableEq

/-- A name that belongs to no field. -/
structure UnknownField where
  name : String
  deriving DecidableEq

def UnknownField.message (e : UnknownField) : String :=
  "Unknown search field: " ++ e.name

namespace Field

/-- All fields, in the order of the form. -/
def all : List Field :=
  [key, tokenType, ipAddress, sinceDate, untilDate]

def name : Field → String
  | key => "key"
  | tokenType => "tokenType"
  | ipAddress => "ipAddress"
  | sinceDate => "sinceDate"
  | untilDate => "untilDate"

/-- The name of a field as a constructor, for log events. -/
def label : Field → String
  | key => "Key"
  | tokenType => "TokenType"
  | ipAddress => "IpAddress"
  | sinceDate => "SinceDate"
  | untilDate => "UntilDate"

def ofName? (name : String) : Option Field :=
  all.find? (·.name = name)

/-- The field with a name, or the complaint that there is none. -/
def read (name : String) : Except UnknownField Field :=
  match ofName? name with
  | some f => .ok f
  | none => .error ⟨name⟩

@[simp] theorem ofName?_name (f : Field) : ofName? f.name = some f := by
  cases f <;> decide

theorem name_injective {f g : Field} (h : f.name = g.name) : f = g := by
  have := congrArg ofName? h
  simpa using this

end Field

end HistorySearch
