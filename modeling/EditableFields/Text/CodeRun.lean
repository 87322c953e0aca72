/-!
# Runs of code points

A table of a character property is a list of runs. A run holds every `step`-th code point from
`first` to `last`, both ends included.
-/

namespace EditableFields.Text

/-- Every `step`-th code point from `first` to `last`. -/
structure CodeRun where
  first : Nat
  last : Nat
  step : Nat
deriving DecidableEq, Repr

/-- Whether the code point `n` is in the run. -/
def CodeRun.contains (r : CodeRun) (n : Nat) : Bool :=
  r.first ≤ n && n ≤ r.last && (n - r.first) % r.step == 0

/-- Whether the code point `n` is in one of the runs. -/
def inRuns (rs : List CodeRun) (n : Nat) : Bool :=
  rs.any (·.contains n)

end EditableFields.Text
