import SearchBox.Grammar.Basic

namespace SearchBox

/-- An argument as written, its words joined by single spaces, and what it stands for. -/
structure Argument where
  type : DataType
  literal : String
  value : Value

instance : BEq Argument where
  beq a b := a.type == b.type && a.literal == b.literal && a.value == b.value

structure Predicate where
  filter : Filter
  operator : Operator
  argument : Argument

namespace Predicate

instance : BEq Predicate where
  beq p q := p.filter == q.filter && p.operator == q.operator && p.argument == q.argument

/-- Filter and operator are written by name and symbol, whatever alias was typed. -/
def toString (p : Predicate) : String :=
  p.filter.name ++ " " ++ p.operator.symbol ++ " " ++ p.argument.literal

instance : ToString Predicate := ⟨toString⟩

end Predicate

end SearchBox
