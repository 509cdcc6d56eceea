-- SUMMARY: The ASCII form of a domain name.
import HistorySearch.DomainName.Expanded
import HistorySearch.DomainName.Label
import HistorySearch.DomainName.Replaced

/-!
# Domain names

A domain name is kept in ASCII and in small letters. Its characters are first written in one way,
then put together with their marks; the labels between the dots are then read each for itself.
-/

namespace HistorySearch.DomainName

/-- Whether a character is not allowed in the host of a URL. -/
def isForbidden (c : Char) : Bool :=
  c.toNat ≤ 0x20 || c.toNat = 0x7F || "#%/:<>?@[\\]^|".toList.contains c

/-- What a character is written as; `none` if no domain name may have it. -/
def written? (c : Char) : Option (List Char) :=
  if Punycode.isPlain c then some [c.toLower]
  else
    ((expansion? c).or ((replacement? c).map ([·]))).or (if isPermitted c then some [c] else none)

/-- The ASCII form of a domain name; `none` if the text is not one. -/
def ascii? (cs : List Char) : Option (List Char) := do
  let text := Composed.compose (← cs.mapM written?).flatten
  if text.any isForbidden then none
  let labels ← (text.splitOn '.').mapM Label.ofText?
  if labels.all Label.isValid && areSteady labels then
    some ((labels.map Label.ascii).intersperse ['.']).flatten
  else none

end HistorySearch.DomainName
