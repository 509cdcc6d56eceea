-- SUMMARY: TOML documents.
import HistorySearch.Toml.Value

/-!
# TOML documents

A document is a list of lines: headers, which open a table, and keys with values, which belong to
the table that was opened last. Building the document from its lines refuses what is defined twice.
-/

namespace HistorySearch.Toml

/-- A line that says something. -/
inductive Line
  | header (path : List String) (key : String)
  /-- A header that opens one more of the tables that share it. -/
  | arrayHeader (path : List String) (key : String)
  | entry (path : List String) (key : String) (value : TomlValue)

/-! ## Lines -/

/-- What follows the rest of a line, on which only a comment may stand. -/
def readLineEnd (cs : List Char) : Option (List Char) :=
  let cs := skipSpaces cs
  let cs := if cs.head? = some '#' then cs.dropWhile isPrintable else cs
  match cs with
  | '\n' :: rest => some rest
  | '\r' :: '\n' :: rest => some rest
  | [] => some []
  | _ => none

/-- A header after its opening brackets, up to its closing ones. -/
def readHeader (closing : List Char) (cs : List Char) :
    Option ((List String × String) × List Char) := do
  let (key, rest) ← readKey cs
  if closing.isPrefixOf rest then some (key, rest.drop closing.length) else none

/-- The line that starts with these characters, without its end; `none` within if it says
nothing. -/
def readContent : List Char → Option (Option Line × List Char)
  | '[' :: '[' :: cs => do
    let ((path, key), rest) ← readHeader [']', ']'] cs
    some (some (.arrayHeader path key), rest)
  | '[' :: cs => do
    let ((path, key), rest) ← readHeader [']'] cs
    some (some (.header path key), rest)
  | [] => some (none, [])
  | c :: cs =>
    if c = '#' ∨ c = '\n' ∨ c = '\r' then some (none, c :: cs)
    else
      match readKey (c :: cs) with
      | some ((path, key), '=' :: rest) => do
        let (v, rest) ← readValue levelLimit (skipSpaces rest)
        some (some (.entry path key v), rest)
      | _ => none

/-- The lines of a document that say something. -/
def readLines (cs : List Char) : Option (List Line) :=
  if cs.isEmpty then some []
  else
    match readContent (skipSpaces cs) with
    | none => none
    | some (line, rest) =>
      match readLineEnd rest with
      | none => none
      | some rest =>
        if rest.length < cs.length then (readLines rest).map (line.toList ++ ·) else none
  termination_by cs.length

/-! ## Building -/

/-- A document and the path of the table that is open. -/
structure Draft where
  root : TomlTable
  opened : List String

/-- Gives a table its header. -/
def openTable : Option TomlValue → Option TomlValue
  | none => some (.table .header [])
  | some (.table .implied entries) => some (.table .header entries)
  | some _ => none

/-- Adds a table to those that share a header. -/
def openNext : Option TomlValue → Option TomlValue
  | none => some (.tables [[]])
  | some (.tables each) => some (.tables (each ++ [[]]))
  | some _ => none

def Draft.add (d : Draft) : Line → Option Draft
  | .header path key =>
    (under false (fun _ t => alter key openTable t) path .header d.root).map
      (⟨·, path ++ [key]⟩)
  | .arrayHeader path key =>
    (under false (fun _ t => alter key openNext t) path .header d.root).map
      (⟨·, path ++ [key]⟩)
  | .entry path key v =>
    (under false (insertAt path key v) d.opened .header d.root).map (⟨·, d.opened⟩)

def build (lines : List Line) : Option TomlTable :=
  (lines.foldlM Draft.add ⟨[], []⟩).map Draft.root

/-- The characters after a byte order mark. -/
def skipMark : List Char → List Char
  | '\uFEFF' :: cs => cs
  | cs => cs

def read (s : String) : Option TomlTable :=
  (readLines (skipMark s.toList)).bind build

end HistorySearch.Toml
