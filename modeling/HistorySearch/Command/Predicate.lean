-- SUMMARY: The command that edits a search URL, submits it and shows the predicate.
import HistorySearch.Search.Exchange
import HistorySearch.Search.Form

/-!
# The predicate command

A form is mounted on a URL, edited by the options that are given, and submitted. An option that
is given as an empty text clears its field.
-/

namespace HistorySearch

structure PredicateOptions where
  url : String
  key : Option String
  tokenType : Option String
  ipAddress : Option String
  since : Option String
  before : Option String
  deriving DecidableEq

/-- Why the options cannot be used. -/
inductive PredicateProblem
  | badUrl (text : String) (reason : UrlError)
  | unknownTokenType (reason : UnknownTokenType)
  | badSince (reason : InvalidDate)
  | badUntil (reason : InvalidDate)
  deriving DecidableEq

def PredicateProblem.messages : PredicateProblem → List String
  | badUrl text reason => ["Invalid URL: " ++ text, reason.message]
  | unknownTokenType reason => [reason.message]
  | badSince reason => ["Invalid --since", reason.message]
  | badUntil reason => ["Invalid --until", reason.message]

namespace PredicateOptions

def readOption {α β ε : Type} (read : String → Except ε α) (edit : α → FieldEdit)
    (problem : ε → β) : Option String → Except β (List FieldEdit)
  | none => .ok []
  | some s =>
    match read s with
    | .ok a => .ok [edit a]
    | .error e => .error (problem e)

/-- The edits that the options stand for, in the order of the form. -/
def edits (o : PredicateOptions) : Except PredicateProblem (List FieldEdit) := do
  let types ← readOption TokenFilter.read .tokenType .unknownTokenType o.tokenType
  let sinces ← readOption Timestamp.decode .sinceDate .badSince o.since
  let untils ← readOption Timestamp.decode .untilDate .badUntil o.before
  return (o.key.map FieldEdit.key).toList ++ types ++
    (o.ipAddress.map FieldEdit.ipAddress).toList ++ sinces ++ untils

/-- The URL and the edits, or the first problem. -/
def read (o : PredicateOptions) : Except PredicateProblem (Url × List FieldEdit) := do
  let url ← (Url.parse o.url).mapError (.badUrl o.url)
  return (url, ← o.edits)

def form (url : Url) (edits : List FieldEdit) : Form :=
  (Form.mount (.url url)).updateAll edits

def run (o : PredicateOptions) : Except PredicateProblem Submission := do
  let (url, edits) ← o.read
  return (form url edits).submit (.url url)

def runEvents (o : PredicateOptions) : List Event :=
  match o.read with
  | .ok (url, edits) =>
    Form.mountEvents (.url url) ++ (form url edits).submitEvents (.url url) fun _ => []
  | .error _ => []

end PredicateOptions

end HistorySearch
