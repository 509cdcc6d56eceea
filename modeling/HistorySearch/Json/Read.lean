-- SUMMARY: JSON values from tokens.
import HistorySearch.Json.Token

/-!
# Reading JSON

Tokens are read one by one. Between two of them the reader knows what is open around the place it
has reached, innermost first, and what may come next.
-/

namespace HistorySearch

namespace JsonReader

/-- An array or object that is open, with what was read of it, the last first. -/
inductive Frame
  | items (before : List Json)
  | members (before : List (List JsonChar × Json)) (name : List JsonChar)

/-- What may come next. -/
inductive Mode
  /-- A value. -/
  | value
  /-- A value or the end of the array that was just opened. -/
  | firstItem
  /-- A name or the end of the object that was just opened. -/
  | firstName
  /-- A name, after the members before it. -/
  | nextName (before : List (List JsonChar × Json))
  /-- The colon after a name. -/
  | separator (before : List (List JsonChar × Json)) (name : List JsonChar)
  /-- A comma or an end, after a value. -/
  | after (v : Json)

/-- A place between two tokens. -/
structure State where
  stack : List Frame
  mode : Mode

def start : State :=
  ⟨[], .value⟩

def beginValue (stack : List Frame) : JsonToken → Option State
  | .scalar v => some ⟨stack, .after v⟩
  | .string cs => some ⟨stack, .after (.string cs)⟩
  | .openArray => some ⟨stack, .firstItem⟩
  | .openObject => some ⟨stack, .firstName⟩
  | _ => none

def afterValue (v : Json) : List Frame → JsonToken → Option State
  | .items before :: stack, .comma => some ⟨.items (v :: before) :: stack, .value⟩
  | .items before :: stack, .closeArray => some ⟨stack, .after (.array (v :: before).reverse)⟩
  | .members before name :: stack, .comma => some ⟨stack, .nextName ((name, v) :: before)⟩
  | .members before name :: stack, .closeObject =>
    some ⟨stack, .after (.object ((name, v) :: before).reverse)⟩
  | _, _ => none

def step (s : State) (t : JsonToken) : Option State :=
  match s.mode, t with
  | .value, _ => beginValue s.stack t
  | .firstItem, .closeArray => some ⟨s.stack, .after (.array [])⟩
  | .firstItem, _ => beginValue (.items [] :: s.stack) t
  | .firstName, .closeObject => some ⟨s.stack, .after (.object [])⟩
  | .firstName, .string name => some ⟨s.stack, .separator [] name⟩
  | .nextName before, .string name => some ⟨s.stack, .separator before name⟩
  | .separator before name, .colon => some ⟨.members before name :: s.stack, .value⟩
  | .after v, _ => afterValue v s.stack t
  | _, _ => none

/-- The value that was read once nothing is open. -/
def State.result? : State → Option Json
  | ⟨[], .after v⟩ => some v
  | _ => none

end JsonReader

namespace Json

def ofTokens? (ts : List JsonToken) : Option Json :=
  (ts.foldlM JsonReader.step JsonReader.start).bind JsonReader.State.result?

def read (s : String) : Option Json :=
  (JsonToken.readAll s.toList).bind ofTokens?

/-! ## Parts of values -/

def text? : Json → Option String
  | string cs => JsonChar.text? cs
  | _ => none

/-- Whether an integer fits in 64 bits. -/
def isWord (i : Int) : Bool :=
  -0x8000000000000000 ≤ i && i < 0x8000000000000000

/-- The integer that digits give; a minus sign in front of zero is refused. -/
def integer? : List Char → Option Int
  | '-' :: ds =>
    if ds.all Decimal.isDigit ∧ Decimal.value ds ≠ 0 then some (-(Decimal.value ds : Int)) else none
  | ds => if ds.all Decimal.isDigit then some (Decimal.value ds) else none

/-- The integer of a number that has neither fraction nor exponent and fits in 64 bits. -/
def int? : Json → Option Int
  | number literal => (integer? literal.toList).filter isWord
  | _ => none

end Json

end HistorySearch
