-- SUMMARY: Routes with parameters, and the paths that they match.

/-!
# Routes

A route is a path in which a name in braces stands for the rest of a segment, which may be empty
only if the path goes on. Braces that are doubled stand for themselves.
-/

namespace HistorySearch

/-- A part of a route. -/
inductive RouteItem
  | char (c : Char)
  /-- What is left of the segment. At the end of a path it is at least one character. -/
  | parameter
  deriving DecidableEq

abbrev Route := List RouteItem

namespace Route

/-! ## Reading -/

/-- Marks the braces that were doubled. -/
def unescape : List Char → List (Char × Bool)
  | '\x7b' :: '\x7b' :: cs => ('\x7b', true) :: unescape cs
  | '\x7d' :: '\x7d' :: cs => ('\x7d', true) :: unescape cs
  | c :: cs => (c, false) :: unescape cs
  | [] => []

/-- Where reading has come to. -/
inductive Place
  | outside
  /-- After an opening brace. -/
  | opened
  /-- Within a name, after its first character. -/
  | inside

/-- Whether a parameter may end before these characters: it fills its segment up to the end. -/
def mayEndParameter : List (Char × Bool) → Bool
  | [] => true
  | c :: _ => c.1 = '/'

/-- Reads marked characters. A name is not empty, and has neither a star nor, after its first
character, a slash. -/
def readItems : Place → List (Char × Bool) → Option Route
  | .outside, [] => some []
  | .outside, ('\x7b', false) :: cs => readItems .opened cs
  | .outside, ('\x7d', false) :: _ => none
  | .outside, (c, _) :: cs => (readItems .outside cs).map (.char c :: ·)
  | .opened, (c, _) :: cs => if c = '\x7d' ∨ c = '*' then none else readItems .inside cs
  | .inside, ('\x7d', false) :: cs =>
    if mayEndParameter cs then (readItems .outside cs).map (.parameter :: ·) else none
  | .inside, (c, _) :: cs => if c = '*' ∨ c = '/' then none else readItems .inside cs
  | _, [] => none

/-- Whether a segment starts with a sign that routes do not have. -/
def hasRefusedSegment (cs : List Char) : Bool :=
  (cs.splitOn '/').any fun seg => seg.head? = some ':' || seg.head? = some '*'

/-- One more than the largest number of parameters. -/
def parameterLimit : Nat := 26

def parse? (text : String) : Option Route :=
  if hasRefusedSegment text.toList then none
  else
    (readItems .outside (unescape text.toList)).filter fun r =>
      r.count .parameter < parameterLimit

/-! ## Matching -/

/-- The route of a text in which nothing has a special meaning. -/
def literal (cs : List Char) : Route :=
  cs.map .char

/-- The rest of a segment. -/
def segment (cs : List Char) : List Char :=
  cs.takeWhile (· ≠ '/')

def isMatch : Route → List Char → Bool
  | [], cs => cs.isEmpty
  | .char c :: r, d :: cs => c = d && isMatch r cs
  | .char _ :: _, [] => false
  | .parameter :: r, cs =>
    !(r.isEmpty && (segment cs).isEmpty) && isMatch r (cs.drop (segment cs).length)

theorem isMatch_literal (cs ds : List Char) : isMatch (literal cs) ds = decide (cs = ds) := by
  induction cs generalizing ds with
  | nil => cases ds <;> simp [literal, isMatch]
  | cons c cs ih =>
    cases ds with
    | nil => simp [literal, isMatch]
    | cons d ds =>
      have := ih ds
      simp only [literal] at this
      by_cases h : c = d <;> simp [literal, isMatch, this, h]

end Route

end HistorySearch
