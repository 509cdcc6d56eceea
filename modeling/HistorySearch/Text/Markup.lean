-- SUMMARY: Text inside HTML markup.

/-!
# Text in markup

The references that keep a text from being read as markup.
-/

namespace HistorySearch.Markup

/-- Escapes one character of a text between tags. -/
def textChar (c : Char) : List Char :=
  if c = '&' then "&amp;".toList
  else if c = '<' then "&lt;".toList
  else if c = '>' then "&gt;".toList
  else [c]

/-- Escapes one character of an attribute between double quotes. -/
def attributeChar (c : Char) : List Char :=
  if c = '"' then "&quot;".toList else textChar c

/-- A text as it stands between tags. -/
def text (s : String) : String :=
  String.ofList (s.toList.flatMap textChar)

/-- A text as it stands in an attribute between double quotes. -/
def attributeValue (s : String) : String :=
  String.ofList (s.toList.flatMap attributeChar)

end HistorySearch.Markup
