-- SUMMARY: The octets of a text, and the total reading of octets that replaces what is malformed.

/-!
# UTF-8 octets

`Utf8.encode` writes a text as octets. `Utf8.decode` reads any octets at all: every longest
beginning of a character that cannot be completed is read as one replacement character, and
reading goes on with the octet that did not fit.
-/

namespace HistorySearch.Utf8

/-- The octets of a text, character by character. -/
def encode (cs : List Char) : List UInt8 :=
  cs.flatMap String.utf8EncodeChar

/-- What stands for octets that form no character. -/
def replacement : Char := '\uFFFD'

/-- A character of which some octets were read: its code bits so far, how many octets follow the
next one, and the range in which the next one has to lie. -/
structure Pending where
  bits : Nat
  after : Nat
  low : UInt8
  high : UInt8
  deriving DecidableEq

/-- Reads an octet at a character boundary. The second octet's range excludes overlong forms,
surrogates and code points above U+10FFFF. -/
def start (b : UInt8) : List Char × Option Pending :=
  if b < 0x80 then ([Char.ofNat b.toNat], none)
  else if 0xC2 ≤ b ∧ b ≤ 0xDF then ([], some ⟨b.toNat - 0xC0, 0, 0x80, 0xBF⟩)
  else if b = 0xE0 then ([], some ⟨0, 1, 0xA0, 0xBF⟩)
  else if b = 0xED then ([], some ⟨0xD, 1, 0x80, 0x9F⟩)
  else if 0xE1 ≤ b ∧ b ≤ 0xEF then ([], some ⟨b.toNat - 0xE0, 1, 0x80, 0xBF⟩)
  else if b = 0xF0 then ([], some ⟨0, 2, 0x90, 0xBF⟩)
  else if 0xF1 ≤ b ∧ b ≤ 0xF3 then ([], some ⟨b.toNat - 0xF0, 2, 0x80, 0xBF⟩)
  else if b = 0xF4 then ([], some ⟨4, 2, 0x80, 0x8F⟩)
  else ([replacement], none)

/-- Adds a fitting octet to a character; the character itself once its last octet is there. -/
def Pending.add (p : Pending) (b : UInt8) : List Char × Option Pending :=
  let bits := p.bits * 64 + (b.toNat - 0x80)
  match p.after with
  | 0 => ([Char.ofNat bits], none)
  | n + 1 => ([], some ⟨bits, n, 0x80, 0xBF⟩)

def step : Option Pending → UInt8 → List Char × Option Pending
  | none, b => start b
  | some p, b =>
    if p.low ≤ b ∧ b ≤ p.high then p.add b
    else (replacement :: (start b).1, (start b).2)

/-- Reads octets from inside a character or from a boundary. -/
def decodeFrom : Option Pending → List UInt8 → List Char
  | none, [] => []
  | some _, [] => [replacement]
  | p, b :: bs => (step p b).1 ++ decodeFrom (step p b).2 bs

def decode (bs : List UInt8) : List Char :=
  decodeFrom none bs

end HistorySearch.Utf8
