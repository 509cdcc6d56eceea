-- SUMMARY: The search page.
import HistorySearch.Search.Predicate
import HistorySearch.Web.Html

/-!
# The search page

One form with five fields, each with its label and, after a rejected submission, its error. Dates
are shown in UTC, no finer than the input can hold.
-/

namespace HistorySearch

namespace Page

/-- The number of characters that the address field takes: enough for an IPv6 network. -/
def addressLength : Nat := 45

/-- What stands next to a field. -/
def label : Field → String
  | .key => "Token"
  | .tokenType => "Token type"
  | .ipAddress => "IP or CIDR block"
  | .sinceDate => "Since (UTC)"
  | .untilDate => "Until (UTC)"

def naming (field : Field) : List (String × Option String) :=
  [("id", some field.name), ("name", some field.name)]

def textInput (field : Field) (value : String) (maxLength : Option Nat) : Html :=
  Html.void "input"
    (("type", some "text") :: naming field ++ [("value", some value)] ++
      (maxLength.map fun n => ("maxlength", some (String.ofList (Decimal.digits n)))).toList)

def dateInput (field : Field) (date : Option Timestamp) : Html :=
  Html.void "input"
    (("type", some "datetime-local") :: naming field ++
      [("step", some "1"), ("value", some (Timestamp.inputText date))])

def option (selected choice : TokenFilter) : Html :=
  Html.element "option"
    (("value", some choice.name) :: if choice = selected then [("selected", none)] else [])
    (Html.text choice.name)

def tokenTypeInput (selected : TokenFilter) : Html :=
  Html.element "select" (naming .tokenType) (TokenFilter.all.flatMap (option selected))

/-- The input of a field, with what the form holds. -/
def input (state : FormState) : Field → Html
  | .key => textInput .key state.key none
  | .tokenType => tokenTypeInput state.tokenFilter
  | .ipAddress => textInput .ipAddress state.ipAddress (some addressLength)
  | .sinceDate => dateInput .sinceDate state.earliest
  | .untilDate => dateInput .untilDate state.latest

def errorText (errors : FieldErrors) (field : Field) : Html :=
  match errors.get? field with
  | some message =>
    Html.element "p" [("class", some "error"), ("id", some (field.name ++ "-error"))]
      (Html.text message)
  | none => []

def fieldBlock (state : FormState) (errors : FieldErrors) (field : Field) : Html :=
  Html.element "div" [("class", some "field")]
    (Html.element "label" [("for", some field.name)] (Html.text (label field)) ++
      input state field ++ errorText errors field)

def title : String := "Token change history"

def head : Html :=
  Html.element "head" []
    (Html.void "meta" [("charset", some "utf-8")] ++ Html.element "title" [] (Html.text title))

/-- The form, which is posted to `action`. -/
def form (state : FormState) (errors : FieldErrors) (action : String) : Html :=
  Html.element "form" [("method", some "post"), ("action", some action)]
    (Field.all.flatMap (fieldBlock state errors) ++
      Html.element "button" [("type", some "submit")] (Html.text "Search"))

def page (state : FormState) (errors : FieldErrors) (action : String) : Html :=
  .doctype :: Html.text "\n" ++
    Html.element "html" [("lang", some "en")]
      (head ++
        Html.element "body" []
          (Html.element "h1" [] (Html.text title) ++ form state errors action)) ++
    Html.text "\n"

def render (state : FormState) (errors : FieldErrors) (action : String) : String :=
  (page state errors action).render

end Page

end HistorySearch
