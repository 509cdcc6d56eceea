-- SUMMARY: The labels of a domain name and when they are valid.
import HistorySearch.DomainName.Direction
import HistorySearch.DomainName.Joining
import HistorySearch.DomainName.Permitted
import HistorySearch.DomainName.Punycode
import HistorySearch.Text.Composed

/-!
# Labels

A label is what stands between the dots of a domain name. One that is not ASCII has an ASCII form
that starts with `xn--`; a label that is given in this form must be the form of a valid text.
-/

namespace HistorySearch.DomainName

/-- A label, as it is meant and as it is written in ASCII. -/
structure Label where
  text : List Char
  ascii : List Char
  deriving DecidableEq

namespace Label

/-- The longest text that is given an ASCII form. -/
def maxText : Nat := 1000

/-- The longest ASCII form that is read, without its start. -/
def maxAscii : Nat := 2000

/-- Whether a text could be what an ASCII form stands for. -/
def isNormal (text : List Char) : Bool :=
  text.any (!Punycode.isPlain ·) && text.all isPermitted && Composed.compose text = text

/-- The label with an ASCII form, given what follows `xn--`. -/
def ofAscii? (code : List Char) : Option Label := do
  if maxAscii < code.length ∨ code.getLast? = some '-' then none
  let text ← Punycode.decode? code
  if isNormal text then some ⟨text, "xn--".toList ++ code⟩ else none

/-- The label of characters that are all in normal form. -/
def ofText? (cs : List Char) : Option Label :=
  match cs with
  | 'x' :: 'n' :: '-' :: '-' :: code => ofAscii? code
  | _ =>
    if cs.all Punycode.isPlain then some ⟨cs, cs⟩
    else if maxText < cs.length then none
    else some ⟨cs, "xn--".toList ++ Punycode.encode cs⟩

/-- Whether the label starts with no mark and joins and parts characters only where it may. -/
def isValid (l : Label) : Bool :=
  !l.text.head?.any Mark.isMark && Joining.allAllowed [] l.text

def directions (l : Label) : List Direction :=
  l.text.map Direction.ofChar

end Label

/-- Whether all labels keep their place: if one is read to the left in part, all are steady. -/
def areSteady (labels : List Label) : Bool :=
  !labels.any (·.directions.any Direction.isLeftward) ||
    labels.all (Direction.isSteady ·.directions)

end HistorySearch.DomainName
