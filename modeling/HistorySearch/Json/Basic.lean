-- SUMMARY: JSON values and their compact and indented texts.
import HistorySearch.Text.Decimal
import HistorySearch.Text.Hex

/-!
# JSON values

A number is kept as it is written. A string is kept by its code points, since an escape may give
half of a surrogate pair: such a string is JSON but no text. Writing comes in two forms, of which
the indented one puts every item and member on a line of its own.
-/

namespace HistorySearch

/-- A code point of a JSON string. -/
inductive JsonChar
  | scalar (c : Char)
  /-- Half of a surrogate pair without its other half. -/
  | surrogate (code : Nat)
  deriving DecidableEq

/-- A JSON value. The members of an object are in the order in which they are written. -/
inductive Json
  | null
  | bool (value : Bool)
  | number (literal : String)
  | string (chars : List JsonChar)
  | array (items : List Json)
  | object (members : List (List JsonChar × Json))

namespace JsonChar

def char? : JsonChar → Option Char
  | scalar c => some c
  | surrogate _ => none

def ofText (s : String) : List JsonChar :=
  s.toList.map scalar

/-- The text of code points; `none` if half of a surrogate pair is among them. -/
def text? (cs : List JsonChar) : Option String :=
  (cs.mapM char?).map String.ofList

/-- One code point between the quotes of a string. -/
def write : JsonChar → List Char
  | scalar c =>
    if c = '"' then ['\\', '"']
    else if c = '\\' then ['\\', '\\']
    else if c = '\x08' then ['\\', 'b']
    else if c = '\x0c' then ['\\', 'f']
    else if c = '\n' then ['\\', 'n']
    else if c = '\r' then ['\\', 'r']
    else if c = '\t' then ['\\', 't']
    else if c.toNat < 0x20 then
      ['\\', 'u', '0', '0', Hex.lower (c.toNat / 16), Hex.lower (c.toNat % 16)]
    else [c]
  | surrogate code => '\\' :: 'u' :: Hex.lowerDigits code

end JsonChar

namespace Json

/-! ## Construction -/

def ofText (s : String) : Json :=
  string (JsonChar.ofText s)

def ofInt (i : Int) : Json :=
  number (String.ofList (Decimal.ofInt i))

/-- An object with members that are named by texts. -/
def ofMembers (members : List (String × Json)) : Json :=
  object (members.map fun m => (JsonChar.ofText m.1, m.2))

/-! ## Writing -/

def writeString (cs : List JsonChar) : List Char :=
  '"' :: cs.flatMap JsonChar.write ++ ['"']

/-- The text of a value that holds no others. -/
def writeBool (b : Bool) : List Char :=
  if b then "true".toList else "false".toList

mutual

def compactChars : Json → List Char
  | null => "null".toList
  | bool b => writeBool b
  | number literal => literal.toList
  | string cs => writeString cs
  | array items => '[' :: compactItems items ++ [']']
  | object members => '\x7b' :: compactMembers members ++ ['\x7d']

def compactItems : List Json → List Char
  | [] => []
  | [v] => compactChars v
  | v :: vs => compactChars v ++ ',' :: compactItems vs

def compactMembers : List (List JsonChar × Json) → List Char
  | [] => []
  | [(name, v)] => writeString name ++ ':' :: compactChars v
  | (name, v) :: ms => writeString name ++ ':' :: compactChars v ++ ',' :: compactMembers ms

end

/-- The text of a value without any white space. -/
def compact (v : Json) : String :=
  String.ofList v.compactChars

/-- The start of a line at a depth. -/
def newline (depth : Nat) : List Char :=
  '\n' :: List.replicate (2 * depth) ' '

mutual

/-- The characters of a value that stands at a depth, one item or member to a line. -/
def prettyChars (depth : Nat) : Json → List Char
  | null => "null".toList
  | bool b => writeBool b
  | number literal => literal.toList
  | string cs => writeString cs
  | array [] => ['[', ']']
  | array (v :: vs) => '[' :: prettyItems (depth + 1) (v :: vs) ++ newline depth ++ [']']
  | object [] => ['\x7b', '\x7d']
  | object (m :: ms) =>
    '\x7b' :: prettyMembers (depth + 1) (m :: ms) ++ newline depth ++ ['\x7d']

def prettyItems (depth : Nat) : List Json → List Char
  | [] => []
  | [v] => newline depth ++ prettyChars depth v
  | v :: vs => newline depth ++ prettyChars depth v ++ ',' :: prettyItems depth vs

def prettyMembers (depth : Nat) : List (List JsonChar × Json) → List Char
  | [] => []
  | [(name, v)] => newline depth ++ writeString name ++ ':' :: ' ' :: prettyChars depth v
  | (name, v) :: ms =>
    newline depth ++ writeString name ++ ':' :: ' ' :: prettyChars depth v ++
      ',' :: prettyMembers depth ms

end

/-- The text of a value with two spaces of indentation for each depth. -/
def pretty (v : Json) : String :=
  String.ofList (v.prettyChars 0)

end Json

end HistorySearch
