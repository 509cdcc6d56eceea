-- SUMMARY: The ASCII form of labels that are not ASCII.

/-!
# Punycode

A label of a domain name that is not ASCII is written as its ASCII characters, a hyphen and the
differences between the positions of the others in the order of their codes. A difference is a
number in base 36 whose digits have thresholds: a digit below its threshold is the last one.
-/

namespace HistorySearch.DomainName.Punycode

/-! ## Digits -/

/-- Whether a character is written as itself. -/
def isPlain (c : Char) : Bool :=
  c.toNat < 0x80

/-- The value of a digit of base 36: the letters come first. -/
def digit? (c : Char) : Option Nat :=
  if c.isLower then some (c.toNat - 'a'.toNat)
  else if c.isUpper then some (c.toNat - 'A'.toNat)
  else if c.isDigit then some (c.toNat - '0'.toNat + 26)
  else none

def digitChar (n : Nat) : Char :=
  if n < 26 then Char.ofNat ('a'.toNat + n) else Char.ofNat ('0'.toNat + (n - 26))

/-- The threshold of the digit at a position; positions are multiples of the base. -/
def threshold (bias position : Nat) : Nat :=
  min 26 (max 1 (position - bias))

/-- The bias for a scaled difference: larger differences get more digits of high threshold. -/
def scaledBias (position difference : Nat) : Nat :=
  if 455 < difference then scaledBias (position + 36) (difference / 35)
  else position + 36 * difference / (difference + 38)
termination_by difference

/-- The bias after a difference, at which the label has `size` characters. -/
def nextBias (difference size : Nat) (isFirst : Bool) : Nat :=
  let scaled := difference / (if isFirst then 700 else 2)
  scaledBias 0 (scaled + scaled / size)

/-! ## Reading -/

/-- How far the differences have been read. -/
structure State where
  /-- The characters read so far. -/
  label : List Char
  /-- The code of the last one that was put in. -/
  code : Nat
  /-- The place where the next one goes, as far as its digits have been read. -/
  place : Nat
  /-- The place at which the digits of the next one started. -/
  start : Nat
  /-- What the next digit counts for. -/
  weight : Nat
  /-- The number of the next digit, times the base. -/
  position : Nat
  /-- What the thresholds are measured from. -/
  bias : Nat

def State.initial (label : List Char) : State :=
  ⟨label, 0x80, 0, 0, 1, 36, 72⟩

/-- The bound that no number may reach. -/
def limit : Nat :=
  0x100000000

/-- Puts the character in whose digits have all been read. -/
def put? (s : State) : Option State :=
  let size := s.label.length + 1
  let code := s.code + s.place / size
  let place := s.place % size
  if h : code.isValidChar then
    some
      { label := s.label.insertIdx place (Char.ofNatAux code h)
        code
        place := place + 1
        start := place + 1
        weight := 1
        position := 36
        bias := nextBias (s.place - s.start) size (s.start = 0) }
  else none

def step? (s : State) (c : Char) : Option State := do
  let digit ← digit? c
  let t := threshold s.bias s.position
  let s := { s with place := s.place + digit * s.weight }
  if limit ≤ s.place then none
  else if digit < t then put? s
  else
    let weight := s.weight * (36 - t)
    if limit ≤ weight then none
    else some { s with weight, position := s.position + 36 }

/-- The label in its differences, unless the digits of the last one go on. -/
def finish? (s : State) : Option (List Char) :=
  if s.position = 36 then some s.label else none

/-- The label that is written as ASCII characters, a hyphen and differences. Without ASCII
characters there is no hyphen. -/
def decode? (cs : List Char) : Option (List Char) :=
  let digits := (cs.reverse.takeWhile (· ≠ '-')).reverse
  let plain := cs.take (cs.length - digits.length - 1)
  let digits := if plain.isEmpty then cs else digits
  if plain.any (!isPlain ·) then none
  else (digits.foldlM step? (State.initial plain)).bind finish?

/-! ## Writing -/

/-- The digits of a difference from a position on. -/
def digitsFrom (bias position difference : Nat) : List Char :=
  let t := threshold bias position
  if difference < t then [digitChar difference]
  else
    let more := difference - t
    digitChar (t + more % (36 - t)) :: digitsFrom bias (position + 36) (more / (36 - t))
termination_by difference
decreasing_by
  have : 1 ≤ threshold bias position := by unfold threshold; omega
  exact Nat.lt_of_le_of_lt (Nat.div_le_self _ _) (by omega)

/-- The characters to put in, in order, each with its code and its place among those before it. -/
def insertions (label : List Char) : List (Nat × Nat) :=
  let others := label.zipIdx.filter (!isPlain ·.1)
  (others.mergeSort fun a b => a.1.toNat ≤ b.1.toNat).map fun (c, i) =>
    (c.toNat, ((label.take i).filter (·.toNat ≤ c.toNat)).length)

/-- How far the differences have been written. -/
structure Draft where
  /-- The digits written so far. -/
  digits : List Char
  /-- How many characters the label has so far. -/
  size : Nat
  /-- The code of the last one that was put in. -/
  code : Nat
  /-- The place after it. -/
  start : Nat
  /-- What the thresholds are measured from. -/
  bias : Nat

def Draft.put (d : Draft) (code place : Nat) : Draft :=
  let size := d.size + 1
  let difference := (code - d.code) * size + place - d.start
  { digits := d.digits ++ digitsFrom d.bias 36 difference
    size
    code
    start := place + 1
    bias := nextBias difference size (d.start = 0) }

def encode (label : List Char) : List Char :=
  let plain := label.filter isPlain
  let start : Draft := ⟨[], plain.length, 0x80, 0, 72⟩
  let draft := (insertions label).foldl (fun d i => d.put i.1 i.2) start
  plain ++ (if plain.isEmpty then [] else ['-']) ++ draft.digits

end HistorySearch.DomainName.Punycode
