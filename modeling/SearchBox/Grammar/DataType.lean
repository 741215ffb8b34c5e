import SearchBox.Value

namespace SearchBox

/-- A type of words. Only the root has no supertype of its own. -/
inductive DataType where
  | root
  | sub (name : String) (precedence : Int) (accepts : String → Bool) (read : String → Value)
    (supertype : DataType)

namespace DataType

def rootName : String := "*"

def name : DataType → String
  | root => rootName
  | sub name .. => name

def precedence : DataType → Int
  | root => -1
  | sub _ precedence .. => precedence

def isRoot : DataType → Bool
  | root => true
  | sub .. => false

/-- The root is its own supertype. -/
def supertype : DataType → DataType
  | root => root
  | sub _ _ _ _ supertype => supertype

/-- The root accepts every word. -/
def accepts : DataType → String → Bool
  | root, _ => true
  | sub _ _ accepts .., word => accepts word

def read : DataType → String → Value
  | root, word => .text word
  | sub _ _ _ read _, word => read word

/-- The type, its supertype, and so on up to the root. -/
def chain : DataType → List DataType
  | root => [root]
  | sub name precedence accepts read supertype =>
    sub name precedence accepts read supertype :: chain supertype

/-- Types are told apart by name. -/
instance : BEq DataType where
  beq s t := s.name == t.name

def isSubtypeOf (s t : DataType) : Bool := s.chain.any (· == t)

theorem self_mem_chain (t : DataType) : t ∈ t.chain := by
  cases t <;> simp [chain]

theorem root_mem_chain (t : DataType) : root ∈ t.chain := by
  induction t with
  | root => simp [chain]
  | sub _ _ _ _ _ ih => simp [chain, ih]

end DataType

end SearchBox
