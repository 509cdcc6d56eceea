-- SUMMARY: The numbers and moments of TOML.
import HistorySearch.Calendar.Rfc3339
import HistorySearch.Text.Hex

/-!
# TOML numbers and moments

Digits may have single underscores between them. An integer has 64 bits; a float has a fraction
or an exponent and must not be too large. Of floats and moments it is only known here how far they
reach, since nothing is set to one.
-/

namespace HistorySearch.Toml

/-! ## Digits -/

/-- The digits that follow one, with the underscores between them taken out. -/
def readMore (isDigit : Char → Bool) : List Char → List Char × List Char
  | '_' :: c :: cs =>
    if isDigit c then (c :: (readMore isDigit cs).1, (readMore isDigit cs).2)
    else ([], '_' :: c :: cs)
  | c :: cs =>
    if isDigit c then (c :: (readMore isDigit cs).1, (readMore isDigit cs).2) else ([], c :: cs)
  | [] => ([], [])

/-- One digit or more. -/
def readDigits (isDigit : Char → Bool) : List Char → Option (List Char × List Char)
  | c :: cs =>
    if isDigit c then some (c :: (readMore isDigit cs).1, (readMore isDigit cs).2) else none
  | [] => none

/-- The digits of a whole number, which has no leading zeros. -/
def readWhole : List Char → Option (List Char × List Char)
  | '0' :: cs => some (['0'], cs)
  | cs => readDigits Decimal.isDigit cs

/-- Whether there is a minus sign, and what follows the sign. -/
def readSign : List Char → Bool × List Char
  | '-' :: cs => (true, cs)
  | '+' :: cs => (false, cs)
  | cs => (false, cs)

/-! ## Integers -/

/-- Whether a character is a digit in a radix up to 16. -/
def isDigitOf (radix : Nat) (c : Char) : Bool :=
  match Hex.value? c with
  | some d => d < radix
  | none => false

/-- The number that digits stand for in a radix. -/
def valueOf (radix : Nat) (ds : List Char) : Nat :=
  ds.foldl (fun n d => radix * n + (Hex.value? d).getD 0) 0

/-- An integer that fits in 64 bits. -/
def checkWord (i : Int) : Option Int :=
  if -0x8000000000000000 ≤ i ∧ i < 0x8000000000000000 then some i else none

/-- Digits in a radix, without a sign. -/
def readRadix (radix : Nat) (cs : List Char) : Option (Int × List Char) := do
  let (ds, rest) ← readDigits (isDigitOf radix) cs
  let i ← checkWord (valueOf radix ds)
  some (i, rest)

def readInteger : List Char → Option (Int × List Char)
  | '0' :: 'x' :: cs => readRadix 16 cs
  | '0' :: 'o' :: cs => readRadix 8 cs
  | '0' :: 'b' :: cs => readRadix 2 cs
  | cs => do
    let (isNegative, cs) := readSign cs
    let (ds, rest) ← readWhole cs
    let n : Int := Decimal.value ds
    let i ← checkWord (if isNegative then -n else n)
    some (i, rest)

/-! ## Floats -/

/-- The digits of a fraction after its point; none if there is no fraction. -/
def readFraction : List Char → Option (List Char × List Char)
  | '.' :: cs => readDigits Decimal.isDigit cs
  | cs => some ([], cs)

/-- An exponent; `none` within if there is none. -/
def readExponent : List Char → Option (Option Int × List Char)
  | c :: cs =>
    if c = 'e' ∨ c = 'E' then do
      let (isNegative, cs) := readSign cs
      let (ds, rest) ← readDigits Decimal.isDigit cs
      let n : Int := Decimal.value ds
      some (some (if isNegative then -n else n), rest)
    else some (none, c :: cs)
  | [] => some (none, [])

/-- Whether `n * 10 ^ exponent` lies so far above the largest number of double precision that it
rounds to infinity. Numbers that are obviously small or large are told by their count of digits. -/
def isTooLarge (n : Nat) (exponent : Int) : Bool :=
  let magnitude := (Nat.toDigits 10 n).length + exponent
  if n = 0 ∨ magnitude < 300 then false
  else if 400 < magnitude then true
  else Nat.pow 2 1024 - Nat.pow 2 970 ≤ n * Nat.pow 10 exponent.toNat / Nat.pow 10 (-exponent).toNat

/-- The characters after a word, if it comes next. -/
def afterWord? (word : String) (cs : List Char) : Option (List Char) :=
  if word.toList.isPrefixOf cs then some (cs.drop word.length) else none

/-- What follows a float that is not a number in digits. -/
def readSpecial (cs : List Char) : Option (List Char) :=
  let cs := (readSign cs).2
  (afterWord? "inf" cs).or (afterWord? "nan" cs)

/-- What follows a float. -/
def readFloat (cs : List Char) : Option (List Char) :=
  (readSpecial cs).or do
    let (isNegative, cs) := readSign cs
    let (whole, cs) ← readWhole cs
    let (fraction, cs) ← readFraction cs
    let (exponent, cs) ← readExponent cs
    let n := Decimal.value (whole ++ fraction)
    if fraction.isEmpty ∧ exponent.isNone then none
    else if !isNegative ∧ isTooLarge n (exponent.getD 0 - fraction.length) then none
    else some cs

/-! ## Moments -/

/-- What follows a time of day on a day. -/
def readTimeOn (f : ClockFields) (cs : List Char) : Option (List Char) := do
  let (f, cs) ← Rfc3339.readTime f cs
  let (f, cs) ← PatternItem.fraction.read f cs
  let _ ← f.toClockTime?
  some cs

/-- What follows an offset, if there is one. -/
def skipOffset (cs : List Char) : List Char :=
  match cs with
  | c :: _ =>
    if c = 'Z' ∨ c = 'z' ∨ c = '+' ∨ c = '-' then ((Rfc3339.readOffset cs).map (·.2)).getD cs
    else cs
  | [] => []

def someDay : ClockFields :=
  { ClockFields.unset with month := 1, day := 1 }

/-- What follows a day, a time of day, or both, which may have an offset. -/
def readMoment (cs : List Char) : Option (List Char) :=
  match Rfc3339.readDate cs with
  | some (f, rest) =>
    if f.toClockTime?.isNone then none
    else
      match (Rfc3339.readDelimiter rest).bind (readTimeOn f) with
      | some rest => some (skipOffset rest)
      | none => some rest
  | none => readTimeOn someDay cs

end HistorySearch.Toml
