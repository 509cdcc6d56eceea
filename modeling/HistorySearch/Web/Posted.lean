-- SUMMARY: A posted search form and the edits that it stands for.
import HistorySearch.Search.FormState

/-!
# Posted forms

A posted form has a text for each field. Compared with what the page was filled from, the texts
become edits: a date is edited only if its text is not the one that the page shows for it, since
the page can show neither the offset nor the full precision.
-/

namespace HistorySearch

/-- The texts of a posted form; a field that was not posted is empty. -/
structure PostedForm where
  key : String
  tokenType : String
  ipAddress : String
  sinceDate : String
  untilDate : String
  deriving DecidableEq

namespace PostedForm

/-! ## Reading -/

/-- The first field that is named again after it was seen. -/
def repeated? : List Field → List FormEncoded.Pair → Option Field
  | _, [] => none
  | seen, p :: ps =>
    match Field.ofName? p.1 with
    | some f => if f ∈ seen then some f else repeated? (f :: seen) ps
    | none => repeated? seen ps

def textOf (pairs : List FormEncoded.Pair) (field : Field) : String :=
  (pairs.lookup field.name).getD ""

/-- The form that pairs give, or the first field that is repeated. Other names are ignored. -/
def ofPairs (pairs : List FormEncoded.Pair) : Except Field PostedForm :=
  match repeated? [] pairs with
  | some f => .error f
  | none =>
    .ok
      { key := textOf pairs .key
        tokenType := textOf pairs .tokenType
        ipAddress := textOf pairs .ipAddress
        sinceDate := textOf pairs .sinceDate
        untilDate := textOf pairs .untilDate }

/-! ## Edits -/

/-- The choice that a posted word stands for; a word that names none stands for any type. -/
def filter (word : String) : TokenFilter :=
  match TokenFilter.read word with
  | .ok f => f
  | .error _ => .any

/-- What is noted about a posted word. An empty one is taken for no choice. -/
def filterEvents (word : String) : List Event :=
  match TokenFilter.read word with
  | .ok _ => []
  | .error e =>
    if word = "" then []
    else [Event.warn ("Ignoring posted " ++ Field.tokenType.name ++ ": " ++ e.message)]

/-- A text without the white space around it. -/
def trimmed (s : String) : String :=
  String.ofList (Blank.trim s.toList)

/-- Whether a posted date is still the one that the page showed. -/
def isUntouched (posted : String) (seeded : Option Timestamp) : Bool :=
  trimmed posted = Timestamp.inputText seeded

/-- The new date, if it was edited. -/
def dateEdit? (posted : String) (seeded : Option Timestamp) : Option (Option Timestamp) :=
  if isUntouched posted seeded then none
  else some (Timestamp.decodeLenient (some (trimmed posted)))

def dateEvents (posted : String) (seeded : Option Timestamp) : List Event :=
  if isUntouched posted seeded then [] else Timestamp.decodeEvents (some (trimmed posted))

/-- The edits of a form that was filled with `seeded`, in the order of the form. -/
def edits (f : PostedForm) (seeded : FormState) : List FieldEdit :=
  [.key f.key, .tokenType (filter f.tokenType), .ipAddress f.ipAddress] ++
    ((dateEdit? f.sinceDate seeded.earliest).map FieldEdit.sinceDate).toList ++
    ((dateEdit? f.untilDate seeded.latest).map FieldEdit.untilDate).toList

def editEvents (f : PostedForm) (seeded : FormState) : List Event :=
  filterEvents f.tokenType ++ dateEvents f.sinceDate seeded.earliest ++
    dateEvents f.untilDate seeded.latest

end PostedForm

end HistorySearch
