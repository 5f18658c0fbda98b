/-!
Sets of characters as runs of code points.
-/
namespace Automation.Text

/-- Whether a code point falls into one of the runs, which are searched in ascending order. -/
def inRuns (code : Nat) : List (Nat × Nat) → Bool
  | [] => false
  | (first, last) :: rest =>
    if code < first then false else if code ≤ last then true else inRuns code rest

end Automation.Text
