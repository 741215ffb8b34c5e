import SearchBox.Decimal.Basic

namespace SearchBox.Decimal

open Text (digitValue)

/-- How far a numeral has been read. `wide` is set once the coefficient has outgrown 64 bits. -/
structure Reading where
  negative : Bool
  coefficient : Nat := 0
  scale : Nat := 0
  pointed : Bool := false
  started : Bool := false
  wide : Bool := false

namespace Reading

/-- From here on the next digit might no longer fit 64 bits. -/
def wideFrom : Nat := 0xFFFFFFFFFFFFFFFF / 10 - 255

/-- A sign written before a zero is dropped. -/
def finish (r : Reading) : Option Decimal :=
  if r.started then of? (r.negative && r.coefficient != 0) r.coefficient r.scale else none

def full (r : Reading) : Bool := r.pointed && decide (28 ≤ r.scale)

def next (r : Reading) (c : Char) : Nat := 10 * r.coefficient + digitValue c

def push (r : Reading) (c : Char) : Reading :=
  let scale := if r.pointed then r.scale + 1 else 0
  { r with
    coefficient := r.next c
    scale := scale
    started := true
    wide := r.wide || (decide (wideFrom ≤ r.next c) && !(r.pointed && decide (28 ≤ scale))) }

def isDigitOrGap (c : Char) : Bool := c.isDigit || c = '_'

/-- The one character `c` after the last place that is kept decides the rounding: a half goes up,
away from zero, and an underscore stands for a zero. Digits and underscores may follow it. -/
def roundBy (r : Reading) (c : Char) (rest : List Char) : Option Decimal :=
  if !(c :: rest).all isDigitOrGap then none
  else if c = '_' || digitValue c < 5 then r.finish
  else if r.coefficient + 1 < bound then { r with coefficient := r.coefficient + 1 }.finish
  else if r.scale = 0 then none
  else { r with coefficient := (r.coefficient + 5) / 10, scale := r.scale - 1 }.finish

def read (r : Reading) : List Char → Option Decimal
  | [] => r.finish
  | c :: cs =>
    if r.full then if c = '_' && r.wide then r.read cs else r.roundBy c cs
    else if c.isDigit then
      if r.next c < bound then (r.push c).read cs
      else if r.pointed then r.roundBy c cs
      else none
    else if c = '.' && !r.pointed then { r with pointed := true }.read cs
    else if c = '_' && r.started then r.read cs
    else none

end Reading

/-- Reads an optional sign, then digits with at most one point and with underscores after the
first digit. -/
def readPlain? : List Char → Option Decimal
  | '-' :: cs => { negative := true : Reading }.read cs
  | '+' :: cs => { negative := false : Reading }.read cs
  | cs => { negative := false : Reading }.read cs

/-- `d` times `10 ^ e`. No place is added: zeros are, once the point has reached the end. -/
def scaleUp? (d : Decimal) (e : Nat) : Option Decimal :=
  if e ≤ d.scale then of? d.negative d.coefficient (d.scale - e)
  else if 28 < e then none
  else of? d.negative (d.coefficient * tenTo (e - d.scale)) 0

/-- `d` divided by `10 ^ e`. Places past the last are rounded off, a half away from zero, and the
sign stays even where only zeros are left. -/
def scaleDown? (d : Decimal) (e : Nat) : Option Decimal :=
  if 28 < e then none
  else
    let excess := d.scale + e - 28
    of? d.negative ((d.coefficient + tenTo excess / 2) / tenTo excess) (d.scale + e - excess)

def isExponentMark (c : Char) : Bool := c = 'e' || c = 'E'

/-- Moves the point as the exponent says. -/
def shift? (d : Decimal) : List Char → Option Decimal
  | '-' :: cs => (Text.index? cs).bind d.scaleDown?
  | cs => (Text.index? cs).bind d.scaleUp?

/-- A plain numeral, or one with an exponent of ten behind it. -/
def read? (s : String) : Option Decimal :=
  let base := s.toList.takeWhile (!isExponentMark ·)
  match s.toList.dropWhile (!isExponentMark ·) with
  | [] => readPlain? base
  | _ :: exponent => (readPlain? base).bind (·.shift? exponent)

end SearchBox.Decimal
