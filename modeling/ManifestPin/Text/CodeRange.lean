/-! # Ranges of code points -/

namespace ManifestPin.Text

/-- Whether the character's code point lies in one of the ranges, both ends included. -/
def inRanges (ranges : List (Nat × Nat)) (c : Char) : Bool :=
  ranges.any fun range => range.1 ≤ c.toNat && c.toNat ≤ range.2

end ManifestPin.Text
