namespace SearchBox.Text

def digitValue (c : Char) : Nat := c.toNat - '0'.toNat

/-- The number that ASCII digits spell. -/
def ofDigits (cs : List Char) : Nat := cs.foldl (fun n c => 10 * n + digitValue c) 0

def natural? (cs : List Char) : Option Nat :=
  if !cs.isEmpty && cs.all Char.isDigit then some (ofDigits cs) else none

/-- One plus sign may stand in front; a number that needs more than 64 bits is refused. -/
def index? (cs : List Char) : Option Nat :=
  let digits := match cs with
    | '+' :: rest => rest
    | cs => cs
  (natural? digits).filter (· < 0x10000000000000000)

def fitsInt64 (n : Int) : Bool :=
  decide (-0x8000000000000000 ≤ n) && decide (n < 0x8000000000000000)

/-- One sign may stand in front; numbers outside the signed 64-bit range are refused. -/
def integer? (cs : List Char) : Option Int :=
  let n := match cs with
    | '-' :: rest => (natural? rest).map fun n => -(n : Int)
    | '+' :: rest => (natural? rest).map Int.ofNat
    | cs => (natural? cs).map Int.ofNat
  n.filter fitsInt64

theorem fitsInt64_iff {n : Int} :
    fitsInt64 n = true ↔ -0x8000000000000000 ≤ n ∧ n < 0x8000000000000000 := by
  simp [fitsInt64]

end SearchBox.Text
