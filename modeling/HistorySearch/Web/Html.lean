-- SUMMARY: Markup as a list of tags and texts.
import HistorySearch.Text.Markup

/-!
# HTML

Markup is a list of tags and texts. Only rendering makes text of it, and escapes each value on
the way, so that a value can never be read as a tag.
-/

namespace HistorySearch

/-- A tag, a text or the declaration at the start of a page. -/
inductive HtmlPiece
  | doctype
  /-- Attributes without a value are switched on by their name alone. -/
  | openTag (name : String) (attributes : List (String × Option String))
  | closeTag (name : String)
  | text (s : String)
  deriving DecidableEq

abbrev Html := List HtmlPiece

namespace Html

def element (name : String) (attributes : List (String × Option String)) (content : Html) : Html :=
  .openTag name attributes :: content ++ [.closeTag name]

/-- An element that holds nothing. -/
def void (name : String) (attributes : List (String × Option String)) : Html :=
  [.openTag name attributes]

def text (s : String) : Html :=
  [.text s]

/-- The text of an attribute, with a space in front of it. -/
def renderAttribute (a : String × Option String) : String :=
  match a.2 with
  | some value => " " ++ a.1 ++ "=\"" ++ Markup.attributeValue value ++ "\""
  | none => " " ++ a.1

def renderPiece : HtmlPiece → String
  | .doctype => "<!DOCTYPE html>"
  | .openTag name attributes => "<" ++ name ++ String.join (attributes.map renderAttribute) ++ ">"
  | .closeTag name => "</" ++ name ++ ">"
  | .text s => Markup.text s

def render (h : Html) : String :=
  String.join (h.map renderPiece)

end Html

end HistorySearch
