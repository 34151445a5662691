/-!
Sets of code points given as increasing, disjoint intervals, with membership by bisection.
-/

namespace Assay.Text

/-- Increasing, disjoint intervals of code points, both ends included. -/
structure Ranges where
  intervals : Array (Nat × Nat)

namespace Ranges

/-- Whether `n` lies in an interval whose number is at least `low` and less than `high`. -/
def within (ranges : Ranges) (n low high : Nat)
    : Bool :=
  if low < high then
    let middle := (low + high) / 2
    match ranges.intervals[middle]? with
    | none => false
    | some (first, last) =>
        if n < first then ranges.within n low middle
        else if last < n then ranges.within n (middle + 1) high
        else true
  else false
termination_by high - low

/-- Whether a code point belongs to the set. -/
def contains (ranges : Ranges) (n : Nat)
    : Bool :=
  ranges.within n 0 ranges.intervals.size

/-- Whether some code point from `first` to `last` belongs to the set. -/
def meets (ranges : Ranges) (first last : Nat)
    : Bool :=
  ranges.intervals.any fun (low, high) => low ≤ last && first ≤ high && first ≤ last

end Ranges

end Assay.Text
