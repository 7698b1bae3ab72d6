/-!
# Ranges of code points

A property of characters is given as a list of closed ranges of code points.  The tables of
`Text.WordChar` and `Text.Printable` are such lists, in increasing order and without overlap.
-/

namespace DatasetCompiler.Text

/-- The code points from `first` to `last`, both included. -/
structure CodeRange where
  first : Nat
  last : Nat
deriving DecidableEq, Repr

def CodeRange.contains (r : CodeRange) (c : Char) : Bool :=
  r.first ≤ c.toNat && c.toNat ≤ r.last

def inRanges (rs : List CodeRange) (c : Char) : Bool :=
  rs.any (·.contains c)

theorem inRanges_iff {rs : List CodeRange} {c : Char} :
    inRanges rs c = true ↔ ∃ r ∈ rs, r.first ≤ c.toNat ∧ c.toNat ≤ r.last := by
  simp [inRanges, CodeRange.contains]

end DatasetCompiler.Text
