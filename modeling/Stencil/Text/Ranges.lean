namespace Stencil.Text

/-- Whether a character lies in one of some ranges, each given by its first and its last member. -/
def inRanges (ranges : List (Nat × Nat)) (c : Char) : Bool :=
  ranges.any fun (first, last) => first ≤ c.toNat && c.toNat ≤ last

end Stencil.Text
