-- SUMMARY: The segments of a hierarchical path, with dot segments resolved.
import HistorySearch.Text.Percent

/-!
# Paths

A hierarchical path is a list of segments. Reading a path resolves `.` and `..` (also when their
dots are percent-encoded) against the segments before them. A segment that looks like a drive
letter is never removed by `..`. Under the `file` scheme a drive letter that is the first segment is
written with a colon. Tabs and line breaks are no part of a segment, but one after the colon of a
drive letter divides it from what follows.
-/

namespace HistorySearch

/-- The schemes that read paths in their own way: `file`, the other web schemes, and the rest. -/
inductive SchemeKind
  | file
  | web
  | other
  deriving DecidableEq

namespace SchemeKind

def ofScheme (scheme : String) : SchemeKind :=
  if scheme = "file" then file
  else if ["http", "https", "ws", "wss", "ftp"].contains scheme then web
  else other

/-- Whether a backslash separates segments as a slash does. -/
def hasBackslash (k : SchemeKind) : Bool :=
  k ≠ other

def isSeparator (k : SchemeKind) (c : Char) : Bool :=
  c = '/' || (k.hasBackslash && c = '\\')

end SchemeKind

namespace Path

/-! ## Kinds of segments -/

/-- Whether a character is left out wherever it stands: tabs and line breaks. -/
def isIgnored (c : Char) : Bool :=
  c = '\t' || c = '\n' || c = '\r'

/-- The characters that count. -/
def visible (cs : List Char) : List Char :=
  cs.filter (!isIgnored ·)

/-- The text after its first visible characters, as many as given. -/
def dropVisible : Nat → List Char → List Char
  | 0, cs => cs
  | _, [] => []
  | n + 1, c :: cs => if isIgnored c then dropVisible (n + 1) cs else dropVisible n cs

/-- Whether a segment stands for the directory above. -/
def isDoubleDot (seg : List Char) : Bool :=
  ["..", "%2e%2e", "%2e.", ".%2e"].any (·.toList = seg.map Char.toLower)

/-- Whether a segment stands for the directory itself. -/
def isSingleDot (seg : List Char) : Bool :=
  [".", "%2e"].any (·.toList = seg.map Char.toLower)

/-- Whether characters start with a letter and a colon or bar, with a delimiter or nothing after. -/
def startsWithDrive : List Char → Bool
  | [a, b] => a.isAlpha && (b = ':' || b = '|')
  | a :: b :: c :: _ =>
    a.isAlpha && (b = ':' || b = '|') && (c = '/' || c = '\\' || c = '?' || c = '#')
  | _ => false

/-- Whether a segment is a letter and a colon or bar. -/
def isDrive (seg : List Char) : Bool :=
  seg.length = 2 && startsWithDrive seg

/-- The drive letter of a segment in which ignored characters follow the colon, and the characters
after them. -/
def dividedDrive? (seg : List Char) : Option (List Char × List Char) :=
  match visible seg, (seg.dropWhile (· ≠ ':')).drop 1 with
  | a :: ':' :: b :: rest, after :: _ =>
    if a.isAlpha && isIgnored after then some ([a, ':'], b :: rest) else none
  | _, _ => none

/-- What a segment says. -/
inductive Segment
  /-- To go to the directory above. -/
  | above
  /-- To stay. -/
  | here
  /-- To go to a drive, and on to what follows its letter, even if that is dots. -/
  | divided (drive rest : List Char)
  | name (seg : List Char)
  deriving DecidableEq

/-- What the text of a segment says; only the first segment of a `file` path can be divided. -/
def Segment.ofText (k : SchemeKind) (isFirst : Bool) (text : List Char) : Segment :=
  match if k = .file && isFirst then dividedDrive? text else none with
  | some (drive, rest) => divided drive rest
  | none =>
    let seg := visible text
    if isDoubleDot seg then above else if isSingleDot seg then here else name seg

/-- The characters that stand for themselves in a segment. -/
def isPlain (c : Char) : Bool :=
  0x20 < c.toNat && c.toNat < 0x7F && !("\"<>`#?\x7b\x7d".toList.contains c)

def encode (seg : List Char) : List Char :=
  Percent.encode isPlain seg

/-! ## Reading -/

/-- The segments read so far, the last one first, and whether a drive letter started the path. -/
structure Stack where
  segments : List (List Char)
  hasDrive : Bool := false
  deriving DecidableEq

namespace Stack

/-- Removes the last segment, unless it looks like a drive letter. -/
def pop (s : Stack) : Stack :=
  match s.segments with
  | [] => s
  | seg :: segs => if startsWithDrive (seg ++ ['/']) then s else { s with segments := segs }

def push (k : SchemeKind) (s : Stack) (seg : List Char) : Stack :=
  if k = .file ∧ s.segments = [] ∧ isDrive seg then ⟨[seg.take 1 ++ [':']], true⟩
  else { s with segments := encode seg :: s.segments }

/-- Adds what the text of a segment says. At the end of a path a place is a directory, whose name
for itself is empty. -/
def add (k : SchemeKind) (isLast : Bool) (s : Stack) (text : List Char) : Stack :=
  let enter := fun s : Stack => if isLast then { s with segments := [] :: s.segments } else s
  match Segment.ofText k s.segments.isEmpty text with
  | .above => enter s.pop
  | .here => enter s
  | .divided drive rest => { s with segments := encode rest :: drive :: s.segments }
  | .name seg => s.push k seg

/-- Adds what the texts of segments say, at least one. -/
def addAll (k : SchemeKind) (s : Stack) : List (List Char) → Stack
  | [] => s
  | [text] => s.add k true text
  | text :: texts => (s.add k false text).addAll k texts

/-- The path in order. A `file` path does not start with empty segments. -/
def toPath (k : SchemeKind) (s : Stack) : List String :=
  let segs := s.segments.reverse
  let segs :=
    if k = .file then
      match segs.dropWhile List.isEmpty with
      | [] => [[]]
      | seg :: rest => seg :: rest
    else segs
  segs.map String.ofList

end Stack

/-- Reads the characters after the slash at which a path starts or goes on after a stack. -/
def read (k : SchemeKind) (s : Stack) (cs : List Char) : Stack :=
  s.addAll k (cs.splitOnP k.isSeparator)

def toChars (segments : List String) : List Char :=
  segments.flatMap fun seg => '/' :: seg.toList

end Path

end HistorySearch
