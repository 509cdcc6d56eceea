-- SUMMARY: The search parameters among the pairs of a query, and updates of them.
import HistorySearch.Search.Field
import HistorySearch.Text.FormEncoded

/-!
# Query parameters

A query is a list of pairs, of which some belong to the search form and the others to somebody
else. Reading takes the first value of a field that is not empty. An update says for some fields
what to write or that the field is to go; pairs of other names stay as they are.
-/

namespace HistorySearch

/-- The values of the search fields in a query. -/
structure QueryParams where
  key : Option String
  tokenType : String
  ipAddress : Option String
  sinceDate : Option String
  untilDate : Option String
  deriving DecidableEq

namespace QueryParams

/-- The first value of a name that is not empty. -/
def firstValue? (pairs : List FormEncoded.Pair) (name : String) : Option String :=
  (pairs.find? fun p => p.1 = name && p.2 ≠ "").map (·.2)

def ofPairs (pairs : List FormEncoded.Pair) : QueryParams where
  key := firstValue? pairs Field.key.name
  tokenType := (firstValue? pairs Field.tokenType.name).getD "any"
  ipAddress := firstValue? pairs Field.ipAddress.name
  sinceDate := firstValue? pairs Field.sinceDate.name
  untilDate := firstValue? pairs Field.untilDate.name

/-- The value of a field; the token type always has one. -/
def get? (q : QueryParams) : Field → Option String
  | .key => q.key
  | .tokenType => some q.tokenType
  | .ipAddress => q.ipAddress
  | .sinceDate => q.sinceDate
  | .untilDate => q.untilDate

end QueryParams

/-! ## Updates -/

/-- A text, unless it is empty. -/
def nonEmpty? (s : String) : Option String :=
  if s = "" then none else some s

/-- What to write for some of the fields; `none` removes a field. -/
structure QueryUpdate where
  entries : List (Field × Option String)
  deriving DecidableEq

namespace QueryUpdate

def empty : QueryUpdate :=
  ⟨[]⟩

/-- Replaces the entry of a field, or adds it at the end. -/
def setEntry (field : Field) (value : Option String) :
    List (Field × Option String) → List (Field × Option String)
  | [] => [(field, value)]
  | e :: es => if e.1 = field then (field, value) :: es else e :: setEntry field value es

/-- Sets what to write for a field. An empty text removes the field. -/
def set (u : QueryUpdate) (field : Field) (value : Option String) : QueryUpdate :=
  ⟨setEntry field (value.bind nonEmpty?) u.entries⟩

/-- The update from a list of settings, made in order. -/
def ofList (settings : List (Field × Option String)) : QueryUpdate :=
  settings.foldl (fun u s => u.set s.1 s.2) empty

end QueryUpdate

/-! ## Merging -/

namespace Query

/-- Drops the pairs of a name. -/
def remove (name : String) (pairs : List FormEncoded.Pair) : List FormEncoded.Pair :=
  pairs.filter (·.1 ≠ name)

/-- Gives a name one value: in place of its first pair while later ones go, or else at the end. -/
def put (name value : String) : List FormEncoded.Pair → List FormEncoded.Pair
  | [] => [(name, value)]
  | p :: ps => if p.1 = name then (name, value) :: remove name ps else p :: put name value ps

/-- Makes one entry of an update. -/
def applyEntry (pairs : List FormEncoded.Pair) (entry : Field × Option String) :
    List FormEncoded.Pair :=
  match entry.2 with
  | some value => put entry.1.name value pairs
  | none => remove entry.1.name pairs

/-- Merges an update into the pairs of a query, entry by entry. -/
def merge (pairs : List FormEncoded.Pair) (u : QueryUpdate) : List FormEncoded.Pair :=
  u.entries.foldl applyEntry pairs

end Query

end HistorySearch
