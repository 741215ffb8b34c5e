namespace SearchBox.Text

/-- The code points from `first` to `last`, both included. -/
structure CharRange where
  first : Nat
  last : Nat

def CharRange.has (r : CharRange) (c : Char) : Bool :=
  decide (r.first ≤ c.toNat) && decide (c.toNat ≤ r.last)

def inRanges (rs : List CharRange) (c : Char) : Bool :=
  rs.any (·.has c)

theorem inRanges_iff {rs : List CharRange} {c : Char} :
    inRanges rs c = true ↔ ∃ r ∈ rs, r.first ≤ c.toNat ∧ c.toNat ≤ r.last := by
  simp [inRanges, CharRange.has]

end SearchBox.Text
