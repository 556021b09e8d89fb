/-! Sets of numbers given by inclusive ranges. -/

set_option autoImplicit false

namespace TryOn.Text

def inRanges (ranges : List (Nat × Nat)) (code : Nat) : Bool :=
  ranges.any fun range => range.1 ≤ code && code ≤ range.2

end TryOn.Text
