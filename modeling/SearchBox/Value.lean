import SearchBox.Decimal.Basic

namespace SearchBox

/-- What an argument stands for. The language compares nothing itself: it hands values on. -/
inductive Value where
  | text (s : String)
  | integer (n : Int)
  | decimal (d : Decimal)

namespace Value

/-- Decimals are equal as numbers; values of two kinds never are. -/
instance : BEq Value where
  beq
    | text a, text b => a == b
    | integer a, integer b => a == b
    | decimal a, decimal b => a == b
    | _, _ => false

def kind : Value → String
  | text _ => "text"
  | integer _ => "integer"
  | decimal _ => "decimal"

def toString : Value → String
  | text s => s
  | integer n => ToString.toString n
  | decimal d => d.toString

instance : ToString Value := ⟨toString⟩

/-- A decimal without its places, if 64 bits hold it. -/
def toInt? : Value → Option Int
  | text _ => none
  | integer n => some n
  | decimal d => d.toInt64?

def toDecimal? : Value → Option Decimal
  | text _ => none
  | integer n => Decimal.ofInt? n
  | decimal d => some d

def toText? : Value → Option String
  | text s => some s
  | _ => none

end Value

end SearchBox
