import SearchBox.Text.Numeral

/-! Decimal numbers of 96 bits with up to 28 places. This is what values and spans of time rely on:
a numeral that fits is read as it is written, and of any other as many places are kept as fit, a
half rounded up; a whole part of more than 96 bits is refused. A product that fits is exact, and any
other is rounded in the same way, a half to the even neighbour. Equality is that of the numbers, the
integer part is cut off toward zero, and all places are printed. -/

namespace SearchBox

/-- Coefficients stay below it: they have at most 96 bits. -/
def Decimal.bound : Nat := 0x1000000000000000000000000

/-- The number `coefficient / 10 ^ scale` with its sign. The written places are kept, so `1.50` is
not `1.5`, and a zero may have a sign. -/
structure Decimal where
  negative : Bool
  coefficient : Nat
  scale : Nat
  coefficient_lt : coefficient < Decimal.bound
  scale_le : scale ≤ 28

namespace Decimal

def tenTo (k : Nat) : Nat := Nat.pow 10 k

def of? (negative : Bool) (coefficient scale : Nat) : Option Decimal :=
  if h : coefficient < bound ∧ scale ≤ 28 then some ⟨negative, coefficient, scale, h.1, h.2⟩
  else none

def ofInt? (n : Int) : Option Decimal := of? (decide (n < 0)) n.natAbs 0

def zero : Decimal := ⟨false, 0, 0, by decide, by decide⟩

def one : Decimal := ⟨false, 1, 0, by decide, by decide⟩

def mantissa (d : Decimal) : Int := if d.negative then -(d.coefficient : Int) else d.coefficient

/-- Equal numbers are equal whatever their written places, and zeros whatever their sign. -/
instance : BEq Decimal where
  beq a b := a.mantissa * tenTo b.scale == b.mantissa * tenTo a.scale

/-- The integer part, toward zero. -/
def trunc (d : Decimal) : Int := d.mantissa.tdiv (tenTo d.scale)

def toInt64? (d : Decimal) : Option Int := some d.trunc |>.filter Text.fitsInt64

/-- `n / 10 ^ k` rounded to the nearest integer, a half to the even one. -/
def roundDigits (n k : Nat) : Nat :=
  let q := n / tenTo k
  let r := n % tenTo k
  if tenTo k < 2 * r ∨ (2 * r = tenTo k ∧ q % 2 = 1) then q + 1 else q

/-- Drops from `n` the fewest of its `scale` places, at least `dropped`, that bring it under the
bound. `spare` is how many more may go. -/
def fit? (negative : Bool) (n scale dropped : Nat) : Nat → Option Decimal
  | 0 => finish
  | spare + 1 =>
    if roundDigits n dropped < bound ∧ scale - dropped ≤ 28 then finish
    else fit? negative n scale (dropped + 1) spare
where
  finish : Option Decimal := of? negative (roundDigits n dropped) (scale - dropped)

/-- The exact product, or the nearest one that 96 bits and 28 places hold. -/
def mul? (a b : Decimal) : Option Decimal :=
  let n := a.coefficient * b.coefficient
  if n = 0 then some zero
  else fit? (a.negative != b.negative) n (a.scale + b.scale) 0 (a.scale + b.scale)

def padLeft (width : Nat) (c : Char) (cs : List Char) : List Char :=
  List.replicate (width - cs.length) c ++ cs

/-- All places are written, with at least one digit before the point. -/
def toString (d : Decimal) : String :=
  let digits := padLeft (d.scale + 1) '0' (Nat.toDigits 10 d.coefficient)
  let whole := digits.take (digits.length - d.scale)
  let places := digits.drop (digits.length - d.scale)
  String.ofList <|
    (if d.negative then ['-'] else []) ++ whole ++ if d.scale = 0 then [] else '.' :: places

instance : ToString Decimal := ⟨toString⟩

theorem of?_eq_some {negative : Bool} {n s : Nat} {d : Decimal} (h : of? negative n s = some d) :
    d.negative = negative ∧ d.coefficient = n ∧ d.scale = s := by
  unfold of? at h
  split at h
  · cases h; exact ⟨rfl, rfl, rfl⟩
  · cases h

theorem mantissa_of_ofInt? {n : Int} {d : Decimal} (h : ofInt? n = some d) : d.mantissa = n := by
  obtain ⟨hs, hc, -⟩ := of?_eq_some h
  simp only [mantissa, hs, hc, decide_eq_true_eq]
  split <;> omega

end Decimal

end SearchBox
