import SearchBox.Grammar.ConfigError
import SearchBox.Grammar.DataType
import SearchBox.Ranked

namespace SearchBox

/-- Unless told otherwise a type stands under the root, accepts every word but the empty one, and
reads words as text. -/
structure TypeDecl where
  name : String
  precedence : Int
  supertype : Option String := none
  accepts : String → Bool := fun word => !word.isEmpty
  read : String → Value := .text

/-- The types of a grammar, highest precedence first. -/
structure TypeRegistry where
  types : List DataType

namespace TypeRegistry

def empty : TypeRegistry := ⟨[.root]⟩

def contains (r : TypeRegistry) (name : String) : Bool := r.types.any (·.name == name)

def get (r : TypeRegistry) (name : String) : Except ConfigError DataType :=
  match r.types.find? (·.name == name) with
  | some t => .ok t
  | none => .error (.unknownType name)

def insert (r : TypeRegistry) (t : DataType) : TypeRegistry :=
  ⟨Ranked.insert DataType.precedence t r.types⟩

/-- The type that `d` declares, beside the registry that holds it. -/
def register (r : TypeRegistry) (d : TypeDecl) : Except ConfigError (DataType × TypeRegistry) := do
  if r.contains d.name then throw (.duplicateType d.name)
  let supertype ← r.get (d.supertype.getD DataType.rootName)
  let t := DataType.sub d.name d.precedence d.accepts d.read supertype
  return (t, r.insert t)

/-- The first type in order of precedence that accepts the word. -/
def infer (r : TypeRegistry) (word : String) : DataType :=
  (r.types.find? (·.accepts word)).getD .root

def names (r : TypeRegistry) : List String := r.types.map (·.name)

end TypeRegistry

end SearchBox
