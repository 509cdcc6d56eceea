-- SUMMARY: Percent-encoding of octets and texts.
import HistorySearch.Text.Hex
import HistorySearch.Text.Utf8

/-!
# Percent-encoding

An octet is written as `%` and two capital digits. Reading accepts digits of either case and
leaves a `%` that no two digits follow as it is.
-/

namespace HistorySearch.Percent

/-- The three characters of an encoded octet. -/
def octet (b : UInt8) : List Char :=
  ['%', Hex.upper (b.toNat / 16), Hex.upper (b.toNat % 16)]

/-- Encodes the octets of a character. -/
def char (c : Char) : List Char :=
  (String.utf8EncodeChar c).flatMap octet

/-- Encodes the characters of a text that are not to be kept. -/
def encode (keep : Char → Bool) (cs : List Char) : List Char :=
  cs.flatMap fun c => if keep c then [c] else char c

/-- The octet that a `%` and two digits stand for. -/
def octet? (a b c : UInt8) : Option UInt8 :=
  if a = 0x25 then
    match Hex.value? (Char.ofNat b.toNat), Hex.value? (Char.ofNat c.toNat) with
    | some high, some low => some (UInt8.ofNat (16 * high + low))
    | _, _ => none
  else none

def decode : List UInt8 → List UInt8
  | a :: b :: c :: rest =>
    match octet? a b c with
    | some o => o :: decode rest
    | none => a :: decode (b :: c :: rest)
  | few => few

end HistorySearch.Percent
