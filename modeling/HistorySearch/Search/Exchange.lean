-- SUMMARY: Predicates, token types and field errors as JSON.
import HistorySearch.Json.Read
import HistorySearch.Search.Predicate

/-!
# Exchange as JSON

A predicate is an object with a member for each field that is present. Reading takes members in
any order and skips those that it does not know; an array gives the fields in order. A field that
is `null` is not present, and one that is given twice is refused.
-/

namespace HistorySearch

/-! ## Token types -/

namespace TokenType

/-- The type that a string gives, or an object with the type as the name of a `null`. -/
def ofJson? : Json → Option TokenType
  | .string cs => (JsonChar.text? cs).bind ofName?
  | .object [(name, .null)] => (JsonChar.text? name).bind ofName?
  | _ => none

end TokenType

namespace TokenFilter

def ofJson? (v : Json) : Option TokenFilter :=
  match v.text?.map read with
  | some (.ok f) => some f
  | _ => none

end TokenFilter

/-! ## Predicates -/

namespace Predicate

def members (p : Predicate) : List (String × Json) :=
  (p.key.map fun s => ("key", Json.ofText s)).toList ++
    (p.tokenType.map fun t => ("token_type", Json.ofText t.name)).toList ++
    (p.ipAddress.map fun s => ("ip_address", Json.ofText s)).toList ++
    (p.earliest.map fun i => ("since", Json.ofInt i)).toList ++
    (p.latest.map fun i => ("until", Json.ofInt i)).toList

def toJson (p : Predicate) : Json :=
  Json.ofMembers p.members

/-- The names of the members, in the order of an array. -/
def memberNames : List String :=
  ["key", "token_type", "ip_address", "since", "until"]

/-- A field that may be missing or `null`; `none` if its value is of the wrong kind. -/
def field? {α : Type} (read : Json → Option α) (values : List (String × Json)) (name : String) :
    Option (Option α) :=
  match values.lookup name with
  | none => some none
  | some .null => some none
  | some v => (read v).map some

/-- The predicate with the first value of each name. -/
def ofValues? (values : List (String × Json)) : Option Predicate := do
  let key ← field? Json.text? values "key"
  let tokenType ← field? TokenType.ofJson? values "token_type"
  let ipAddress ← field? Json.text? values "ip_address"
  let earliest ← field? Json.int? values "since"
  let latest ← field? Json.int? values "until"
  some ⟨key, tokenType, ipAddress, earliest, latest⟩

/-- Whether a name of a field is given at most once. -/
def hasNoDuplicate (values : List (String × Json)) : Bool :=
  memberNames.all fun name => values.countP (·.1 = name) ≤ 1

def ofJson? : Json → Option Predicate
  | .object members => do
    let values ← members.mapM fun m => (JsonChar.text? m.1).map (·, m.2)
    if hasNoDuplicate values then ofValues? values else none
  | .array items =>
    if items.length ≤ memberNames.length then ofValues? (memberNames.zip items) else none
  | _ => none

end Predicate

/-! ## Field errors -/

/-- The messages as an object, by the names of the fields. -/
def FieldErrors.toJson (e : FieldErrors) : Json :=
  Json.ofMembers (e.toList.map fun m => (m.1.name, Json.ofText m.2))

end HistorySearch
