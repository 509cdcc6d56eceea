-- SUMMARY: Sets of characters as runs of codes.

/-!
# Runs of characters

A large set of characters is written as the runs of codes in it.
-/

namespace HistorySearch

/-- Runs of characters, each by the codes of its first and its last one. -/
abbrev Runs := List (Nat × Nat)

def Runs.has (runs : Runs) (c : Char) : Bool :=
  runs.any fun r => r.1 ≤ c.toNat && c.toNat ≤ r.2

end HistorySearch
