-- SUMMARY: Reading of the date parameters of a search.
import HistorySearch.Calendar.Rfc3339
import HistorySearch.Journal
import HistorySearch.Text.Quoted

/-!
# Date parameters

A date parameter is a timestamp in RFC 3339, a date-time without an offset, or a bare date; the
latter two are taken to be in UTC. Years run from 0 to 9999, so that everything read can be
written by `Timestamp.encode` and read again. An empty or blank text is no date.
-/

namespace HistorySearch

/-- A text that is no date; it is kept without the white space around it. -/
structure InvalidDate where
  text : String
  deriving DecidableEq

def InvalidDate.message (e : InvalidDate) : String :=
  "Invalid ISO-8601 date-time: " ++ Quoted.quoted e.text

namespace Timestamp

/-- A clock time without an offset is one of UTC. -/
def readNaive (p : Pattern) (cs : List Char) : Option Timestamp :=
  (p.read cs).map (·.withOffset 0)

/-- The forms of a date, in the order in which they are tried. -/
def forms : List (List Char → Option Timestamp) :=
  [Rfc3339.read, readNaive Pattern.toFraction, readNaive Pattern.toSecond,
   readNaive Pattern.toMinute, readNaive Pattern.date]

/-- The first form that fits a text gives its timestamp. -/
def read (cs : List Char) : Option Timestamp :=
  forms.findSome? (· cs)

/-- Whether the local year can be written with four digits. -/
def hasPlainYear (t : Timestamp) : Bool :=
  0 ≤ t.clock.date.year && t.clock.date.year ≤ 9999

def decode (s : String) : Except InvalidDate (Option Timestamp) :=
  match Blank.trim s.toList with
  | [] => .ok none
  | cs =>
    match (read cs).filter hasPlainYear with
    | some t => .ok (some t)
    | none => .error ⟨String.ofList cs⟩

def decode? : Option String → Except InvalidDate (Option Timestamp)
  | none => .ok none
  | some s => decode s

/-- Reads a date parameter; one that cannot be read is none. -/
def decodeLenient (s : Option String) : Option Timestamp :=
  match decode? s with
  | .ok t => t
  | .error _ => none

def decodeEvents (s : Option String) : List Event :=
  match decode? s with
  | .ok _ => []
  | .error e => [Event.warn ("Ignoring malformed date parameter: " ++ e.message)]

end Timestamp

end HistorySearch
