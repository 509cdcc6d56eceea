-- SUMMARY: The kinds of tokens, and the choice among them in a search.

/-!
# Token types

A search is for tokens of one type or of any. The word `any` is a choice, not a type.
-/

namespace HistorySearch

/-- The kinds of tokens: of a session of a user, made by a user for programs, given to a notebook
server, or made from a user's request for another service. -/
inductive TokenType
  | session
  | user
  | notebook
  | internal
  deriving DecidableEq

/-- A word that names no token type. -/
structure UnknownTokenType where
  word : String
  deriving DecidableEq

def UnknownTokenType.message (e : UnknownTokenType) : String :=
  "Unknown token type: " ++ e.word

namespace TokenType

/-- All types, in the order in which a page offers them. -/
def all : List TokenType :=
  [session, user, notebook, internal]

def name : TokenType → String
  | session => "session"
  | user => "user"
  | notebook => "notebook"
  | internal => "internal"

/-- The name of a type as a constructor, for log events. -/
def label : TokenType → String
  | session => "Session"
  | user => "User"
  | notebook => "Notebook"
  | internal => "Internal"

def ofName? (word : String) : Option TokenType :=
  all.find? (·.name = word)

/-- The type that a word names, or the complaint that there is none. -/
def read (word : String) : Except UnknownTokenType TokenType :=
  match ofName? word with
  | some t => .ok t
  | none => .error ⟨word⟩

@[simp] theorem ofName?_name (t : TokenType) : ofName? t.name = some t := by
  cases t <;> decide

theorem mem_all (t : TokenType) : t ∈ all := by
  cases t <;> decide

end TokenType

/-- The choice of a token type in a search. -/
inductive TokenFilter
  | any
  | only (type : TokenType)
  deriving DecidableEq

namespace TokenFilter

/-- All choices, in the order in which a page offers them. -/
def all : List TokenFilter :=
  any :: TokenType.all.map only

def name : TokenFilter → String
  | any => "any"
  | only t => t.name

/-- The type to search for, if one was chosen. -/
def type? : TokenFilter → Option TokenType
  | any => none
  | only t => some t

def read (word : String) : Except UnknownTokenType TokenFilter :=
  if word = "any" then .ok any else (TokenType.read word).map only

@[simp] theorem read_name (f : TokenFilter) : read f.name = .ok f := by
  cases f with
  | any => rfl
  | only t => cases t <;> rfl

end TokenFilter

end HistorySearch
