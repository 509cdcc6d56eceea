-- SUMMARY: The lexemes of JSON text.
import HistorySearch.Json.Basic

/-!
# JSON tokens

A token ends where the next one starts, so that numbers and words are read as far as their
characters go. `JsonToken.readAll` takes at least one character for each token.
-/

namespace HistorySearch

/-- A lexeme of JSON text. -/
inductive JsonToken
  | openObject
  | closeObject
  | openArray
  | closeArray
  | comma
  | colon
  /-- A value that holds no others and is no string. -/
  | scalar (value : Json)
  | string (chars : List JsonChar)

namespace JsonToken

def isSpace (c : Char) : Bool :=
  c = ' ' || c = '\n' || c = '\t' || c = '\r'

/-! ## Strings -/

/-- The character that a letter after a backslash stands for. -/
def escaped? (c : Char) : Option Char :=
  if c = '"' ∨ c = '\\' ∨ c = '/' then some c
  else if c = 'b' then some '\x08'
  else if c = 'f' then some '\x0c'
  else if c = 'n' then some '\n'
  else if c = 'r' then some '\r'
  else if c = 't' then some '\t'
  else none

/-- Whether a code is the first half of a surrogate pair. -/
def isHighHalf (code : Nat) : Bool :=
  0xD800 ≤ code && code < 0xDC00

/-- Whether a code is the second half of a surrogate pair. -/
def isLowHalf (code : Nat) : Bool :=
  0xDC00 ≤ code && code < 0xE000

/-- Puts the code of an escape in front of code points; two halves of a pair make a character. -/
def consCode (code : Nat) (cs : List JsonChar) : List JsonChar :=
  if isHighHalf code then
    match cs with
    | .surrogate low :: rest =>
      if isLowHalf low then
        .scalar (Char.ofNat (0x10000 + (code - 0xD800) * 0x400 + (low - 0xDC00))) :: rest
      else .surrogate code :: cs
    | _ => .surrogate code :: cs
  else if isLowHalf code then .surrogate code :: cs
  else .scalar (Char.ofNat code) :: cs

/-- The rest of a string after its opening quote, and what follows its closing one. -/
def readString : List Char → Option (List JsonChar × List Char)
  | [] => none
  | '"' :: cs => some ([], cs)
  | '\\' :: 'u' :: a :: b :: c :: d :: cs => do
    let code ← Hex.number? [a, b, c, d]
    let (chars, rest) ← readString cs
    some (consCode code chars, rest)
  | '\\' :: c :: cs => do
    let e ← escaped? c
    let (chars, rest) ← readString cs
    some (.scalar e :: chars, rest)
  | c :: cs =>
    if c.toNat < 0x20 ∨ c = '\\' then none
    else do
      let (chars, rest) ← readString cs
      some (.scalar c :: chars, rest)

/-! ## Numbers -/

def isNumberChar (c : Char) : Bool :=
  Decimal.isDigit c || c = '-' || c = '+' || c = '.' || c = 'e' || c = 'E'

/-- What follows the digits of a number, of which there has to be one. -/
def afterDigits? (cs : List Char) : Option (List Char) :=
  match cs with
  | c :: rest => if Decimal.isDigit c then some (rest.dropWhile Decimal.isDigit) else none
  | [] => none

/-- What follows the whole part of a number, which has no leading zeros. -/
def afterWhole? : List Char → Option (List Char)
  | '0' :: cs => some cs
  | cs => afterDigits? cs

/-- What follows an optional point and its digits. -/
def afterFraction? : List Char → Option (List Char)
  | '.' :: cs => afterDigits? cs
  | cs => some cs

/-- What follows an optional exponent. -/
def afterExponent? : List Char → Option (List Char)
  | [] => some []
  | e :: cs =>
    if e = 'e' ∨ e = 'E' then
      match cs with
      | '+' :: ds => afterDigits? ds
      | '-' :: ds => afterDigits? ds
      | ds => afterDigits? ds
    else some (e :: cs)

def isNumber (cs : List Char) : Bool :=
  let unsigned :=
    match cs with
    | '-' :: rest => rest
    | _ => cs
  ((afterWhole? unsigned).bind afterFraction?).bind afterExponent? = some []

/-! ## Token by token -/

def word? (cs : List Char) : Option JsonToken :=
  if cs = "null".toList then some (scalar .null)
  else if cs = "true".toList then some (scalar (.bool true))
  else if cs = "false".toList then some (scalar (.bool false))
  else none

def sign? (c : Char) : Option JsonToken :=
  if c = '\x7b' then some openObject
  else if c = '\x7d' then some closeObject
  else if c = '[' then some openArray
  else if c = ']' then some closeArray
  else if c = ',' then some comma
  else if c = ':' then some colon
  else none

/-- The token that starts with a character, and what follows it. -/
def read (c : Char) (cs : List Char) : Option (JsonToken × List Char) :=
  match sign? c with
  | some t => some (t, cs)
  | none =>
    if c = '"' then (readString cs).map fun r => (string r.1, r.2)
    else if isNumberChar c then
      if isNumber (c :: cs.takeWhile isNumberChar) then
        some (scalar (.number (String.ofList (c :: cs.takeWhile isNumberChar))),
          cs.dropWhile isNumberChar)
      else none
    else (word? (c :: cs.takeWhile Char.isAlpha)).map (·, cs.dropWhile Char.isAlpha)

theorem length_readString {cs : List Char} {r : List JsonChar × List Char}
    (h : readString cs = some r) : r.2.length ≤ cs.length := by
  fun_induction readString cs generalizing r with
  | case1 => simp at h
  | case2 => cases h; simp
  | case3 a b c d cs ih =>
    simp only [Option.bind_eq_bind, Option.bind_eq_some_iff, Option.some.injEq] at h
    obtain ⟨_, _, s, hs, rfl⟩ := h
    have := ih hs
    simp only [List.length_cons]
    omega
  | case4 c cs _ ih =>
    simp only [Option.bind_eq_bind, Option.bind_eq_some_iff, Option.some.injEq] at h
    obtain ⟨_, _, s, hs, rfl⟩ := h
    have := ih hs
    simp only [List.length_cons]
    omega
  | case5 => simp at h
  | case6 c cs _ _ _ _ ih =>
    simp only [Option.bind_eq_bind, Option.bind_eq_some_iff, Option.some.injEq] at h
    obtain ⟨s, hs, rfl⟩ := h
    have := ih hs
    simp only [List.length_cons]
    omega

theorem length_read {c : Char} {cs : List Char} {r : JsonToken × List Char}
    (h : read c cs = some r) : r.2.length ≤ cs.length := by
  unfold read at h
  split at h
  · cases h; exact Nat.le_refl _
  · split at h
    · obtain ⟨s, hs, rfl⟩ := Option.map_eq_some_iff.1 h
      exact length_readString hs
    · split at h
      · split at h
        · cases h; exact (List.dropWhile_sublist _).length_le
        · simp at h
      · obtain ⟨s, _, rfl⟩ := Option.map_eq_some_iff.1 h
        exact (List.dropWhile_sublist _).length_le

def readAll : List Char → Option (List JsonToken)
  | [] => some []
  | c :: cs =>
    if isSpace c then readAll cs
    else
      match h : read c cs with
      | some (t, rest) =>
        have : rest.length ≤ cs.length := length_read h
        (readAll rest).map (t :: ·)
      | none => none
  termination_by cs => cs.length

end JsonToken

end HistorySearch
