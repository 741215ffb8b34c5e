import SearchBox.Grammar.DataType
import SearchBox.Grammar.Spelling

namespace SearchBox

/-- A comparison for filters of one type and of its subtypes. -/
structure Operator where
  symbol : String
  type : DataType
  aliases : List String := []

namespace Operator

/-- Operators are told apart by symbol. -/
instance : BEq Operator where
  beq o p := o.symbol == p.symbol

def spellings (o : Operator) : List String := o.symbol :: o.aliases

def isSpelled (o : Operator) (word : String) : Bool := o.spellings.contains word

def startsWith (o : Operator) (typed : String) : Bool :=
  o.spellings.any (SearchBox.startsWith typed)

def suits (o : Operator) (t : DataType) : Bool := t.isSubtypeOf o.type

end Operator

end SearchBox
