-- SUMMARY: The white space of Unicode, and the trimming of it.

/-!
# White space

The blank characters are those with the property `White_Space`.
-/

namespace HistorySearch.Blank

/-- The ranges of the blank characters above the ASCII ones. -/
def wideRanges : List (Nat × Nat) :=
  [(0x85, 0x85), (0xA0, 0xA0), (0x1680, 0x1680), (0x2000, 0x200A), (0x2028, 0x2029),
   (0x202F, 0x202F), (0x205F, 0x205F), (0x3000, 0x3000)]

def isBlank (c : Char) : Bool :=
  c = ' ' || (9 ≤ c.toNat && c.toNat ≤ 13) ||
    wideRanges.any fun r => r.1 ≤ c.toNat && c.toNat ≤ r.2

def trimStart (cs : List Char) : List Char :=
  cs.dropWhile isBlank

/-- The characters between the white space at both ends. -/
def trim (cs : List Char) : List Char :=
  (trimStart (trimStart cs).reverse).reverse

end HistorySearch.Blank
