-- SUMMARY: TOML values, tables and keys.
import HistorySearch.Toml.Number
import HistorySearch.Toml.Text

/-!
# TOML values

A table remembers how it came about, since that decides who may add to it: a table in braces is
complete, one that only a dotted key mentions can be added to by dotted keys, and one that only
the header of another mentions can still get its own header.
-/

namespace HistorySearch

/-- How a table came about. -/
inductive TomlOrigin
  /-- By a header of its own, or as the whole document. -/
  | header
  /-- By the header of a table in it. -/
  | implied
  /-- By a dotted key. -/
  | dotted
  /-- In braces. -/
  | braces
  deriving DecidableEq

/-- A TOML value. -/
inductive TomlValue
  | text (s : String)
  | integer (i : Int)
  | float
  | bool (b : Bool)
  | moment
  | array (items : List TomlValue)
  | table (origin : TomlOrigin) (entries : List (String × TomlValue))
  /-- Tables that share a header, in order. -/
  | tables (each : List (List (String × TomlValue)))

/-- The keys of a table with their values. -/
abbrev TomlTable := List (String × TomlValue)

namespace Toml

-- ---------------------------------------------------------------------------
-- Entries
-- ---------------------------------------------------------------------------

/-- Changes the value of a key, which may be missing; `none` refuses. -/
def alter (key : String) (f : Option TomlValue → Option TomlValue) :
    TomlTable → Option TomlTable
  | [] => (f none).map fun v => [(key, v)]
  | e :: es =>
    if e.1 = key then (f (some e.2)).map fun v => (key, v) :: es
    else (alter key f es).map (e :: ·)

/-- Adds a key that is not there yet. -/
def insertNew (key : String) (v : TomlValue) (t : TomlTable) : Option TomlTable :=
  alter key (fun old => if old.isNone then some v else none) t

/-- Changes the table at the end of a path; the table is made if it is missing. Of tables that
share a header the last is meant. Along dotted keys a table with a header of its own is refused. -/
def under (isDotted : Bool) (f : TomlOrigin → TomlTable → Option TomlTable) :
    List String → TomlOrigin → TomlTable → Option TomlTable
  | [], origin, t => f origin t
  | key :: path, _, t =>
    alter key
      (fun old =>
        match old with
        | none =>
          let origin := if isDotted then TomlOrigin.dotted else .implied
          (under isDotted f path origin []).map (.table origin)
        | some (.table origin entries) =>
          if origin = .braces ∨ (isDotted ∧ origin = .header) then none
          else (under isDotted f path origin entries).map (.table origin)
        | some (.tables each) =>
          match each.getLast? with
          | some entries =>
            (under isDotted f path .header entries).map fun t => .tables (each.dropLast ++ [t])
          | none => none
        | some _ => none)
      t

/-- Adds a value under a dotted key, whose tables only dotted keys may mention. -/
def insertAt (path : List String) (key : String) (v : TomlValue) (origin : TomlOrigin)
    (t : TomlTable) : Option TomlTable :=
  under true
    (fun origin t => if path = [] ∨ origin = .dotted then insertNew key v t else none) path origin t

-- ---------------------------------------------------------------------------
-- Keys
-- ---------------------------------------------------------------------------

/-- The characters after white space within the line. -/
def skipSpaces (cs : List Char) : List Char :=
  cs.dropWhile isSpace

/-- Whether a character may stand in a key without quotes. -/
def isBareKeyChar (c : Char) : Bool :=
  c.isAlphanum || c = '-' || c = '_'

/-- A part of a key. -/
def readSimpleKey : List Char → Option (String × List Char)
  | '"' :: cs => (readBasic cs).map fun r => (String.ofList r.1, r.2)
  | '\'' :: cs => (readLiteral cs).map fun r => (String.ofList r.1, r.2)
  | cs =>
    match cs.takeWhile isBareKeyChar with
    | [] => none
    | key => some (String.ofList key, cs.drop key.length)

/-- The parts of a key that are separated by dots, and what follows it. -/
def readKeyParts (cs : List Char) : Option (List String × List Char) :=
  match readSimpleKey (skipSpaces cs) with
  | none => none
  | some (key, rest) =>
    match skipSpaces rest with
    | '.' :: more =>
      if more.length < cs.length then (readKeyParts more).map fun r => (key :: r.1, r.2) else none
    | rest => some ([key], rest)
  termination_by cs.length

/-- A key has fewer parts than this. -/
def keyLimit : Nat := 80

/-- A key: the tables that it leads through, its last part, and what follows it. -/
def readKey (cs : List Char) : Option ((List String × String) × List Char) :=
  match readKeyParts cs with
  | some (parts, rest) =>
    match parts.getLast? with
    | some key => if parts.length < keyLimit then some ((parts.dropLast, key), rest) else none
    | none => none
  | none => none

-- ---------------------------------------------------------------------------
-- Values
-- ---------------------------------------------------------------------------

/-- What follows white space, line breaks and comments. -/
def skipLines (isComment : Bool) : List Char → Option (List Char)
  | '\n' :: cs => skipLines false cs
  | '\r' :: '\n' :: cs => skipLines false cs
  | c :: cs =>
    if isComment then if isPrintable c then skipLines true cs else none
    else if isSpace c then skipLines false cs
    else if c = '#' then skipLines true cs
    else some (c :: cs)
  | [] => some []

/-- The items of an array after its opening bracket. The last may have a comma after it. -/
def readItems (read : List Char → Option (TomlValue × List Char)) (cs : List Char) :
    Option (List TomlValue × List Char) :=
  match skipLines false cs with
  | none => none
  | some (']' :: rest) => some ([], rest)
  | some start =>
    match read start with
    | none => none
    | some (v, rest) =>
      match skipLines false rest with
      | some (']' :: rest) => some ([v], rest)
      | some (',' :: rest) =>
        if rest.length < cs.length then (readItems read rest).map fun r => (v :: r.1, r.2) else none
      | _ => none
  termination_by cs.length

/-- The entries of a table in braces, at least one, and what follows the closing brace. -/
def readEntries (read : List Char → Option (TomlValue × List Char)) (t : TomlTable)
    (cs : List Char) : Option (TomlTable × List Char) :=
  match readKey cs with
  | some ((path, key), '=' :: rest) =>
    match read (skipSpaces rest) with
    | none => none
    | some (v, rest) =>
      match insertAt path key v .header t with
      | none => none
      | some t =>
        match skipSpaces rest with
        | '\x7d' :: rest => some (t, rest)
        | ',' :: rest => if rest.length < cs.length then readEntries read t rest else none
        | _ => none
  | _ => none
  termination_by cs.length

/-- A table after its opening brace. -/
def readBraces (read : List Char → Option (TomlValue × List Char)) (cs : List Char) :
    Option (TomlTable × List Char) :=
  match skipSpaces cs with
  | '\x7d' :: rest => some ([], rest)
  | cs => readEntries read [] cs

/-- A value that holds no others and is no text. -/
def readScalar (cs : List Char) : Option (TomlValue × List Char) :=
  ((afterWord? "true" cs).map (TomlValue.bool true, ·)).or
    (((afterWord? "false" cs).map (TomlValue.bool false, ·)).or
      (((readMoment cs).map (TomlValue.moment, ·)).or
        (((readFloat cs).map (TomlValue.float, ·)).or
          ((readInteger cs).map fun r => (TomlValue.integer r.1, r.2)))))

/-- A value that nests arrays and tables up to a number of levels, and what follows it. -/
def readValue : Nat → List Char → Option (TomlValue × List Char)
  | _, '"' :: cs => (readText ('"' :: cs)).map fun r => (.text (String.ofList r.1), r.2)
  | _, '\'' :: cs => (readText ('\'' :: cs)).map fun r => (.text (String.ofList r.1), r.2)
  | levels + 1, '[' :: cs => (readItems (readValue levels) cs).map fun r => (.array r.1, r.2)
  | levels + 1, '\x7b' :: cs =>
    (readBraces (readValue levels) cs).map fun r => (.table .braces r.1, r.2)
  | _, cs => readScalar cs

/-- How many levels of arrays and tables in braces a value may have. -/
def levelLimit : Nat := 79

end Toml

end HistorySearch
