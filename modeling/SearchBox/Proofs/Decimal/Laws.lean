import Mathlib.Algebra.Order.Field.Rat
import Mathlib.Tactic.Positivity
import SearchBox.Proofs.Decimal.Rounding

/-! The laws of decimals. What reading keeps is `Spelled.read?_eq_some_iff`, what a product keeps is
`mul?_eq_some_iff`, and `exists_mul?_trunc_iff` is its integer part. Here is what printing and
equality do. -/

namespace SearchBox.Decimal

open Text (natural?)

theorem natural?_padLeft (width n : Nat) :
    natural? (padLeft width '0' (Nat.toDigits 10 n)) = some n := by
  have hdigits : ∀ c ∈ Nat.toDigits 10 n, c.isDigit = true := fun c hc =>
    Nat.isDigit_of_mem_toDigits (by decide) (by decide) hc
  refine Text.natural?_eq_some_iff.2 ⟨?_, ?_, ?_⟩
  · exact List.append_ne_nil_of_right_ne_nil _ Nat.toDigits_ne_nil
  · refine List.forall_mem_append.2 ⟨fun c hc => ?_, hdigits⟩
    rw [List.eq_of_mem_replicate hc]
    rfl
  · rw [padLeft, Text.ofDigits_append, Text.ofDigits_eq, Text.ofDigits_eq,
      Nat.ofDigitChars_toDigits (by decide) (by decide)]
    simp

theorem length_padLeft_le (width : Nat) (c : Char) (cs : List Char) :
    width ≤ (padLeft width c cs).length := by
  rw [padLeft, List.length_append, List.length_replicate]
  omega

/-- All places are written, and at least one digit before the point. -/
theorem spelled_toString {d : Decimal} (h : d.negative = false) :
    Spelled d.toString.toList d.coefficient d.scale := by
  have hvalue := natural?_padLeft (d.scale + 1) d.coefficient
  have hlength := length_padLeft_le (d.scale + 1) '0' (Nat.toDigits 10 d.coefficient)
  simp only [toString, h, Bool.false_eq_true, if_false, List.nil_append, String.toList_ofList]
  generalize padLeft (d.scale + 1) '0' (Nat.toDigits 10 d.coefficient) = digits at hvalue hlength
  split_ifs with hscale
  · rw [hscale, Nat.sub_zero, List.take_length, List.append_nil]
    exact .whole hvalue
  · have hplaces : (digits.drop (digits.length - d.scale)).length = d.scale := by
      rw [List.length_drop]
      omega
    have hspelled : Spelled (digits.take (digits.length - d.scale) ++
        '.' :: digits.drop (digits.length - d.scale)) d.coefficient
        (digits.drop (digits.length - d.scale)).length :=
      .point (List.ne_nil_of_length_pos (by rw [List.length_take]; omega))
        (List.ne_nil_of_length_pos (by omega)) (by rwa [List.take_append_drop])
    rwa [hplaces] at hspelled

/-- What is printed of a number that is not negative is read back. -/
theorem read?_toString {d : Decimal} (h : d.negative = false) : read? d.toString = some d :=
  (spelled_toString h).read?_eq_some_iff.2
    ⟨h, .exact (halfUp_one _) d.coefficient_lt d.scale_le⟩

/-- The number that a decimal stands for. -/
def value (d : Decimal) : ℚ := d.mantissa / 10 ^ d.scale

/-- Equality looks at the number and not at the written places. -/
theorem beq_iff_value_eq {a b : Decimal} : (a == b) = true ↔ a.value = b.value := by
  have hcross : (a == b) = true ↔ a.mantissa * 10 ^ b.scale = b.mantissa * 10 ^ a.scale := by
    have htenTo (k : Nat) : ((tenTo k : Nat) : Int) = 10 ^ k := by simp [tenTo]
    rw [← htenTo, ← htenTo]
    exact beq_iff_eq (a := a.mantissa * tenTo b.scale)
  rw [hcross, value, value, div_eq_div_iff (by positivity) (by positivity)]
  exact_mod_cast Iff.rfl

end SearchBox.Decimal
