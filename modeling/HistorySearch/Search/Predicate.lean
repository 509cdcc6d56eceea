-- SUMMARY: The validated search, its query text, and how a form is validated.
import HistorySearch.Search.FieldErrors
import HistorySearch.Search.FormState

/-!
# Search predicates

What is handed to the search: the fields that were set, with dates as seconds since 1970. Only
the length of a key is checked; addresses and the order of the dates are left to the search.
-/

namespace HistorySearch

/-- A search by the fields that are present. -/
structure Predicate where
  key : Option String
  tokenType : Option TokenType
  ipAddress : Option String
  earliest : Option Int
  latest : Option Int
  deriving DecidableEq

namespace Predicate

/-- The search that finds everything. -/
def empty : Predicate :=
  ⟨none, none, none, none, none⟩

def isEmpty (p : Predicate) : Bool :=
  p = empty

/-- The fields that are present, as pairs of a query. -/
def toPairs (p : Predicate) : List FormEncoded.Pair :=
  (p.key.map ("key", ·)).toList ++
    (p.tokenType.map fun t => ("token_type", t.name)).toList ++
    (p.ipAddress.map ("ip_address", ·)).toList ++
    (p.earliest.map fun i => ("since", String.ofList (Decimal.ofInt i))).toList ++
    (p.latest.map fun i => ("until", String.ofList (Decimal.ofInt i))).toList

def toQuery (p : Predicate) : String :=
  FormEncoded.write p.toPairs

end Predicate

/-! ## Validation -/

/-- The number of characters in a token's key. -/
def keyLength : Nat := 22

namespace FormState

/-- Whether the key is missing or has its full length. -/
def hasGoodKey (s : FormState) : Bool :=
  s.key.isEmpty || s.key.length = keyLength

/-- The search that a form asks for, or what is wrong with its fields. -/
def validate (s : FormState) : Except FieldErrors Predicate :=
  if s.hasGoodKey then
    .ok
      { key := nonEmpty? s.key
        tokenType := s.tokenFilter.type?
        ipAddress := nonEmpty? s.ipAddress
        earliest := s.earliest.map Timestamp.epoch
        latest := s.latest.map Timestamp.epoch }
  else
    .error (FieldErrors.empty.insert .key "Invalid token")

end FormState

end HistorySearch
