-- SUMMARY: What the search form holds, and its exchange with query parameters.
import HistorySearch.Calendar.Decode
import HistorySearch.Search.Query
import HistorySearch.Search.TokenType

/-!
# State of the form

An empty text or a missing date means that the field is not set. The form is filled from query
parameters, where a value that makes no sense counts as not set, and written back to them.
-/

namespace HistorySearch

/-- What the fields of the form hold. -/
structure FormState where
  key : String
  tokenFilter : TokenFilter
  ipAddress : String
  earliest : Option Timestamp
  latest : Option Timestamp
  deriving DecidableEq

/-- A change of one field. -/
inductive FieldEdit
  | key (text : String)
  | tokenType (filter : TokenFilter)
  | ipAddress (text : String)
  | sinceDate (date : Option Timestamp)
  | untilDate (date : Option Timestamp)
  deriving DecidableEq

def FieldEdit.field : FieldEdit → Field
  | key _ => .key
  | tokenType _ => .tokenType
  | ipAddress _ => .ipAddress
  | sinceDate _ => .sinceDate
  | untilDate _ => .untilDate

namespace FormState

def empty : FormState :=
  ⟨"", .any, "", none, none⟩

/-- Fills the form from query parameters. -/
def ofParams (q : QueryParams) : FormState where
  key := q.key.getD ""
  tokenFilter :=
    match TokenFilter.read q.tokenType with
    | .ok f => f
    | .error _ => .any
  ipAddress := q.ipAddress.getD ""
  earliest := Timestamp.decodeLenient q.sinceDate
  latest := Timestamp.decodeLenient q.untilDate

def fillEvents (q : QueryParams) : List Event :=
  (match TokenFilter.read q.tokenType with
    | .ok _ => []
    | .error e =>
      [Event.warn ("Ignoring " ++ Field.tokenType.name ++ " parameter: " ++ e.message)]) ++
    Timestamp.decodeEvents q.sinceDate ++ Timestamp.decodeEvents q.untilDate

/-- The update that writes the form back. The token type is always written, even as `any`; other
fields are written when set and removed otherwise. -/
def toUpdate (s : FormState) : QueryUpdate :=
  QueryUpdate.ofList
    [(.key, nonEmpty? s.key), (.tokenType, some s.tokenFilter.name),
     (.ipAddress, nonEmpty? s.ipAddress), (.sinceDate, s.earliest.map Timestamp.encode),
     (.untilDate, s.latest.map Timestamp.encode)]

def edit (s : FormState) : FieldEdit → FormState
  | .key text => { s with key := text }
  | .tokenType filter => { s with tokenFilter := filter }
  | .ipAddress text => { s with ipAddress := text }
  | .sinceDate date => { s with earliest := date }
  | .untilDate date => { s with latest := date }

def editAll (s : FormState) (edits : List FieldEdit) : FormState :=
  edits.foldl edit s

end FormState

end HistorySearch
