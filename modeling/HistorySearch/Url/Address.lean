-- SUMMARY: IPv4 and IPv6 addresses in the host of a URL.
import HistorySearch.Text.Decimal
import HistorySearch.Text.Hex

/-!
# IP addresses

An IPv4 address may be written with one to four numbers, each decimal, octal or hexadecimal; the
last of them fills the octets that are left. An IPv6 address is eight pieces, of which one run of
zeros may be left out and the last two may be written as an IPv4 address.
-/

namespace HistorySearch

/-! ## IPv4 -/

namespace Ipv4

/-- A number without its radix mark, read in that radix. -/
def readRadix? (radix : Nat) (cs : List Char) : Option Nat :=
  cs.foldlM (fun n c =>
    match Hex.value? c with
    | some d => if d < radix then some (radix * n + d) else none
    | none => none) 0

/-- One number: hexadecimal after `0x`, octal after `0`, else decimal. A mark alone is zero. -/
def number? : List Char → Option Nat
  | [] => none
  | '0' :: 'x' :: cs => readRadix? 16 cs
  | '0' :: 'X' :: cs => readRadix? 16 cs
  | '0' :: c :: cs => readRadix? 8 (c :: cs)
  | cs => readRadix? 10 cs

/-- The part of a name that decides whether it is meant as an address: the last one, or the one
before a final dot. -/
def decidingPart? (name : List Char) : Option (List Char) :=
  match (name.splitOn '.').reverse with
  | [] :: part :: _ => some part
  | [] :: [] => none
  | part :: _ => some part
  | [] => none

/-- Whether a name ends in a number, so that it has to be an address. -/
def endsInNumber (name : List Char) : Bool :=
  match decidingPart? name with
  | some part => (!part.isEmpty && part.all Decimal.isDigit) || (number? part).isSome
  | none => false

/-- Puts leading octets in front of a last number. -/
def combine (octets : List Nat) (last : Nat) : Option Nat :=
  let bound := Nat.pow 256 (4 - octets.length)
  if last < bound ∧ octets.all (· < 256) then
    some (octets.foldl (fun n o => 256 * n + o) 0 * bound + last)
  else none

def parse? (name : List Char) : Option Nat :=
  let parts := name.splitOn '.'
  let parts := if parts.getLast? = some [] then parts.dropLast else parts
  if 4 < parts.length then none
  else
    match parts.mapM number? with
    | some numbers =>
      match numbers.getLast? with
      | some last => combine numbers.dropLast last
      | none => none
    | none => none

/-- The address as four decimal numbers. -/
def write (address : Nat) : List Char :=
  ['.'].intercalate
    [Decimal.digits (address / 0x1000000 % 256), Decimal.digits (address / 0x10000 % 256),
     Decimal.digits (address / 256 % 256), Decimal.digits (address % 256)]

end Ipv4

/-! ## IPv6 -/

namespace Ipv6

/-- The pieces read so far and how many of them, the stand-in included, come before and at the
place where zeros were left out. -/
structure Found where
  pieces : List Nat
  gap : Option Nat
  deriving DecidableEq

/-- A decimal octet without leading zeros. -/
def octet? (cs : List Char) : Option Nat :=
  match cs with
  | [] => none
  | ['0'] => some 0
  | '0' :: _ => none
  | _ =>
    if cs.all Decimal.isDigit ∧ cs.length ≤ 3 ∧ Decimal.value cs ≤ 255 then
      some (Decimal.value cs)
    else none

/-- The two pieces of an embedded IPv4 address. -/
def embedded? (cs : List Char) : Option (List Nat) :=
  match (cs.splitOn '.').mapM octet? with
  | some [a, b, c, d] => some [256 * a + b, 256 * c + d]
  | _ => none

/-- Reads pieces; `free` is how many more there may be. -/
def readPieces : Nat → List Char → Found → Option Found
  | _, [], found => some found
  | 0, _ :: _, _ => none
  | free + 1, ':' :: cs, found =>
    if found.gap.isSome then none
    else readPieces free cs ⟨found.pieces ++ [0], some (found.pieces.length + 1)⟩
  | free + 1, cs, found =>
    let digits := (cs.take 4).takeWhile fun c => (Hex.value? c).isSome
    match cs.drop digits.length, Hex.number? digits with
    | [], some piece => readPieces free [] { found with pieces := found.pieces ++ [piece] }
    | '.' :: _, some _ =>
      if digits.isEmpty || free = 0 then none
      else (embedded? cs).map fun two => { found with pieces := found.pieces ++ two }
    | ':' :: rest, some piece =>
      if rest.isEmpty then none
      else readPieces free rest { found with pieces := found.pieces ++ [piece] }
    | _, _ => none

/-- Fills in the zeros that were left out. -/
def Found.fill? (f : Found) : Option (List Nat) :=
  match f.gap with
  | some n => some (f.pieces.take n ++ List.replicate (8 - f.pieces.length) 0 ++ f.pieces.drop n)
  | none => if f.pieces.length = 8 then some f.pieces else none

/-- The pieces of the address between the brackets. -/
def parse? (cs : List Char) : Option (List Nat) :=
  match cs with
  | ':' :: ':' :: rest => (readPieces 7 rest ⟨[0], some 1⟩).bind Found.fill?
  | ':' :: _ => none
  | [] => none
  | [_] => none
  | _ => (readPieces 8 cs ⟨[], none⟩).bind Found.fill?

/-- The length of the run of zeros at the start of a list. -/
def zeroRun (pieces : List Nat) : Nat :=
  (pieces.takeWhile (· = 0)).length

/-- Where the longest run of zeros starts and how long it is; the first of equal ones. -/
def longestRun : List Nat → Nat → Nat × Nat
  | [], _ => (0, 0)
  | p :: ps, i =>
    let here := zeroRun (p :: ps)
    let later := longestRun ps (i + 1)
    if later.2 ≤ here then (i, here) else later

def writePieces (pieces : List Nat) : List Char :=
  [':'].intercalate (pieces.map Hex.lowerDigits)

/-- The address with its longest run of two or more zeros left out. -/
def write (pieces : List Nat) : List Char :=
  let run := longestRun pieces 0
  if run.2 < 2 then writePieces pieces
  else writePieces (pieces.take run.1) ++ ':' :: ':' :: writePieces (pieces.drop (run.1 + run.2))

end Ipv6

end HistorySearch
