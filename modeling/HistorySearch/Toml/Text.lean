-- SUMMARY: The four ways to write a text in TOML.
import HistorySearch.Text.Hex

/-!
# TOML texts

A text stands between double quotes, where a backslash starts an escape, or between single
quotes, where every character stands for itself. Either kind of quote may be tripled; then the
text may have line breaks and a first line break is dropped. Writing takes the plainest way that
needs no escapes, and escapes only if every way needs some.
-/

namespace HistorySearch.Toml

def isSpace (c : Char) : Bool :=
  c = ' ' || c = '\t'

/-- Whether a character may stand in a comment or a text: no control character but the tab. -/
def isPrintable (c : Char) : Bool :=
  c = '\t' || (0x20 ≤ c.toNat && c.toNat ≠ 0x7F)

/-! ## Escapes -/

/-- The character that a letter after a backslash stands for. -/
def escaped? (c : Char) : Option Char :=
  if c = '"' ∨ c = '\\' then some c
  else if c = 'b' then some '\x08'
  else if c = 'f' then some '\x0c'
  else if c = 'n' then some '\n'
  else if c = 'r' then some '\r'
  else if c = 't' then some '\t'
  else none

/-- The character with a code, unless the code is that of a surrogate or too large. -/
def ofCode? (code : Nat) : Option Char :=
  if h : code.isValidChar then some (Char.ofNatAux code h) else none

def ofDigits? (ds : List Char) : Option Char :=
  (Hex.number? ds).bind ofCode?

/-! ## Reading -/

/-- Puts a character in front of the text that was read. -/
def consRead (c : Char) (r : Option (List Char × List Char)) : Option (List Char × List Char) :=
  r.map fun r => (c :: r.1, r.2)

/-- The rest of a text in double quotes, and what follows it. -/
def readBasic : List Char → Option (List Char × List Char)
  | [] => none
  | '"' :: cs => some ([], cs)
  | '\\' :: 'u' :: a :: b :: c :: d :: cs =>
    (ofDigits? [a, b, c, d]).bind fun e => consRead e (readBasic cs)
  | '\\' :: 'U' :: a :: b :: c :: d :: e :: f :: g :: h :: cs =>
    (ofDigits? [a, b, c, d, e, f, g, h]).bind fun e => consRead e (readBasic cs)
  | '\\' :: c :: cs => (escaped? c).bind fun e => consRead e (readBasic cs)
  | c :: cs => if isPrintable c ∧ c ≠ '\\' then consRead c (readBasic cs) else none

/-- The rest of a text in single quotes, and what follows it. -/
def readLiteral : List Char → Option (List Char × List Char)
  | [] => none
  | '\'' :: cs => some ([], cs)
  | c :: cs => if isPrintable c then consRead c (readLiteral cs) else none

/-- Whether only white space is left on the line. -/
def endsLine (cs : List Char) : Bool :=
  match cs.dropWhile isSpace with
  | '\n' :: _ => true
  | '\r' :: '\n' :: _ => true
  | _ => false

/-- The rest of a text in tripled double quotes, and what follows it. Up to two quotes may stand
in front of the closing ones. A backslash at the end of a line drops the white space up to the next
character; `isSkipping` tells whether this is under way. -/
def readBasicLines (isSkipping : Bool) : List Char → Option (List Char × List Char)
  | [] => none
  | '"' :: '"' :: '"' :: '"' :: '"' :: cs => some (['"', '"'], cs)
  | '"' :: '"' :: '"' :: '"' :: cs => some (['"'], cs)
  | '"' :: '"' :: '"' :: cs => some ([], cs)
  | '\r' :: '\n' :: cs =>
    if isSkipping then readBasicLines true cs else consRead '\n' (readBasicLines false cs)
  | '\\' :: 'u' :: a :: b :: c :: d :: cs =>
    (ofDigits? [a, b, c, d]).bind fun e => consRead e (readBasicLines false cs)
  | '\\' :: 'U' :: a :: b :: c :: d :: e :: f :: g :: h :: cs =>
    (ofDigits? [a, b, c, d, e, f, g, h]).bind fun e => consRead e (readBasicLines false cs)
  | '\\' :: c :: cs =>
    if endsLine (c :: cs) then readBasicLines true (c :: cs)
    else (escaped? c).bind fun e => consRead e (readBasicLines false cs)
  | c :: cs =>
    if isSkipping ∧ (isSpace c ∨ c = '\n') then readBasicLines true cs
    else if c = '\n' ∨ (isPrintable c ∧ c ≠ '\\') then consRead c (readBasicLines false cs)
    else none

/-- The rest of a text in tripled single quotes, and what follows it. -/
def readLiteralLines : List Char → Option (List Char × List Char)
  | [] => none
  | '\'' :: '\'' :: '\'' :: '\'' :: '\'' :: cs => some (['\'', '\''], cs)
  | '\'' :: '\'' :: '\'' :: '\'' :: cs => some (['\''], cs)
  | '\'' :: '\'' :: '\'' :: cs => some ([], cs)
  | '\r' :: '\n' :: cs => consRead '\n' (readLiteralLines cs)
  | c :: cs => if c = '\n' ∨ isPrintable c then consRead c (readLiteralLines cs) else none

def dropFirstBreak : List Char → List Char
  | '\n' :: cs => cs
  | '\r' :: '\n' :: cs => cs
  | cs => cs

/-- A text that may have line breaks, and what follows it. -/
def readText : List Char → Option (List Char × List Char)
  | '"' :: '"' :: '"' :: cs => readBasicLines false (dropFirstBreak cs)
  | '\'' :: '\'' :: '\'' :: cs => readLiteralLines (dropFirstBreak cs)
  | '"' :: cs => readBasic cs
  | '\'' :: cs => readLiteral cs
  | _ => none

/-! ## Writing -/

/-- A way to write a text. -/
inductive TextStyle
  | basic
  | literal
  | basicLines
  | literalLines
  deriving DecidableEq

/-- Whether a quote occurs three times in a row. -/
def hasTriple (quote : Char) : List Char → Bool
  | a :: b :: c :: cs => (a = quote && b = quote && c = quote) || hasTriple quote (b :: c :: cs)
  | _ => false

/-- Whether a character can only be written as an escape. -/
def needsEscape (c : Char) : Bool :=
  !isPrintable c && c ≠ '\n'

/-- The way in which a text is written. -/
def TextStyle.choose (cs : List Char) : TextStyle :=
  if cs.any needsEscape then if cs.contains '\n' then basicLines else basic
  else if !cs.contains '\\' ∧ !cs.contains '"' ∧ !cs.contains '\n' then basic
  else if !cs.contains '\'' ∧ !cs.contains '\n' then literal
  else if !cs.contains '\\' ∧ !hasTriple '"' cs then basicLines
  else if !hasTriple '\'' cs then literalLines
  else if cs.contains '\n' then basicLines
  else basic

/-- One character other than a double quote or a line break between double quotes. -/
def writeChar (c : Char) : List Char :=
  if c = '\x08' then ['\\', 'b']
  else if c = '\t' then ['\\', 't']
  else if c = '\x0c' then ['\\', 'f']
  else if c = '\r' then ['\\', 'r']
  else if c = '\\' then ['\\', '\\']
  else if needsEscape c then '\\' :: 'u' :: Hex.upperPadded 4 c.toNat
  else [c]

/-- The characters of a text between double quotes. -/
def writeBasic (cs : List Char) : List Char :=
  cs.flatMap fun c =>
    if c = '"' then ['\\', '"'] else if c = '\n' then ['\\', 'n'] else writeChar c

/-- The characters of a text between tripled double quotes. A third quote in a row is escaped;
`quotes` tells how many quotes stand in a row just before. -/
def writeBasicLines (quotes : Nat) : List Char → List Char
  | [] => []
  | c :: cs =>
    if c = '"' then
      if quotes < 2 then '"' :: writeBasicLines (quotes + 1) cs
      else '\\' :: '"' :: writeBasicLines 0 cs
    else if c = '\n' then '\n' :: writeBasicLines 0 cs
    else writeChar c ++ writeBasicLines 0 cs

/-- The line break after opening tripled quotes, put there if the text has others. -/
def firstBreak (cs : List Char) : List Char :=
  if cs.contains '\n' then ['\n'] else []

def TextStyle.write (style : TextStyle) (cs : List Char) : List Char :=
  match style with
  | basic => '"' :: writeBasic cs ++ ['"']
  | literal => '\'' :: cs ++ ['\'']
  | basicLines => ['"', '"', '"'] ++ firstBreak cs ++ writeBasicLines 0 cs ++ ['"', '"', '"']
  | literalLines => ['\'', '\'', '\''] ++ firstBreak cs ++ cs ++ ['\'', '\'', '\'']

def writeText (cs : List Char) : List Char :=
  (TextStyle.choose cs).write cs

end HistorySearch.Toml
