-- SUMMARY: Predicates and field errors as log events show them.
import HistorySearch.Search.Predicate
import HistorySearch.Text.Quoted

/-!
# Values in log events

A log event shows a value with the names of its constructors and fields, and texts in quotes.
-/

namespace HistorySearch

def showOption {α : Type} (text : α → String) : Option α → String
  | none => "None"
  | some a => "Some(" ++ text a ++ ")"

def showInt (i : Int) : String :=
  String.ofList (Decimal.ofInt i)

def Predicate.shown (p : Predicate) : String :=
  "SearchPredicate \x7b key: " ++ showOption Quoted.quoted p.key ++
    ", token_type: " ++ showOption TokenType.label p.tokenType ++
    ", ip_address: " ++ showOption Quoted.quoted p.ipAddress ++
    ", since: " ++ showOption showInt p.earliest ++
    ", until: " ++ showOption showInt p.latest ++ " \x7d"

def FieldErrors.shown (e : FieldErrors) : String :=
  "FieldErrors(\x7b" ++
    ", ".intercalate (e.toList.map fun m => m.1.label ++ ": " ++ Quoted.quoted m.2) ++ "\x7d)"

end HistorySearch
