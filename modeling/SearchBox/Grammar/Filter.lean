import SearchBox.Grammar.DataType
import SearchBox.Grammar.Spelling

namespace SearchBox

/-- A typed field that predicates constrain. -/
structure Filter where
  name : String
  type : DataType
  aliases : List String := []

namespace Filter

/-- Filters are told apart by name. -/
instance : BEq Filter where
  beq f g := f.name == g.name

def spellings (f : Filter) : List String := f.name :: f.aliases

def isSpelled (f : Filter) (word : String) : Bool := f.spellings.contains word

def startsWith (f : Filter) (typed : String) : Bool := f.spellings.any (SearchBox.startsWith typed)

end Filter

end SearchBox
