/-!
# `SqlSelect.Text.CodeRange`: sets of characters given by code points

A character class of the Unicode standard is a list of closed ranges of code points, in ascending
order and without overlap.
-/

set_option autoImplicit false

namespace SqlSelect.Text

/-- Whether a code point lies in one of the closed ranges. -/
def inRanges (ranges : List (Nat × Nat)) (code : Nat) : Bool :=
  ranges.any fun (low, high) => low ≤ code && code ≤ high

end SqlSelect.Text
