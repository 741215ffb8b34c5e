import SearchBox.Grammar.Filter
import SearchBox.Grammar.Operator
import SearchBox.Phrase.Basic

namespace SearchBox

/-- Filters and operators in the order of their declaration, phrases by descending precedence. -/
structure Grammar where
  types : TypeRegistry
  filters : List Filter
  operators : List Operator
  phrases : List Phrase

namespace Grammar

def filter? (g : Grammar) (word : String) : Option Filter := g.filters.find? (·.isSpelled word)

def operator? (g : Grammar) (word : String) : Option Operator :=
  g.operators.find? (·.isSpelled word)

def filtersStartingWith (g : Grammar) (typed : String) : List Filter :=
  g.filters.filter (·.startsWith typed)

def operatorsFor (g : Grammar) (t : DataType) : List Operator := g.operators.filter (·.suits t)

/-- The phrases of a type and of its supertypes. -/
def phrasesFor (g : Grammar) (t : DataType) : List Phrase :=
  g.phrases.filter fun p => t.isSubtypeOf p.type

def toString (g : Grammar) : String :=
  "grammar (" ++ ToString.toString g.types.types.length ++ " types, " ++
    ToString.toString g.filters.length ++ " filters, " ++
    ToString.toString g.operators.length ++ " operators, " ++
    ToString.toString g.phrases.length ++ " macros)"

instance : ToString Grammar := ⟨toString⟩

end Grammar

end SearchBox
