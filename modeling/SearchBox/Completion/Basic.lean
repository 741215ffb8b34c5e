import SearchBox.Predicate.Basic

namespace SearchBox

/-- An argument may be open, suggested for a number of typed characters, or settled. -/
inductive ArgumentPart where
  | unknown (type : DataType)
  | suggested (type : DataType) (shown : Example) (weight : Nat)
  | resolved (argument : Argument)

namespace ArgumentPart

instance : BEq ArgumentPart where
  beq
    | unknown s, unknown t => s == t
    | suggested s e m, suggested t f n => s == t && e == f && m == n
    | resolved a, resolved b => a == b
    | _, _ => false

def type : ArgumentPart → DataType
  | unknown type => type
  | suggested type .. => type
  | resolved argument => argument.type

end ArgumentPart

/-- A predicate of which at least the filter is known. -/
structure Completion where
  filter : Filter
  operator : Option Operator
  argument : ArgumentPart

namespace Completion

instance : BEq Completion where
  beq a b := a.filter == b.filter && a.operator == b.operator && a.argument == b.argument

def ofFilter (filter : Filter) : Completion := ⟨filter, none, .unknown filter.type⟩

def ofOperator (filter : Filter) (operator : Operator) : Completion :=
  ⟨filter, some operator, .unknown filter.type⟩

def ofExample (filter : Filter) (operator : Operator) (weight : Nat) (e : Example) : Completion :=
  ⟨filter, some operator, .suggested filter.type e weight⟩

def ofPredicate (p : Predicate) : Completion := ⟨p.filter, some p.operator, .resolved p.argument⟩

def toPredicate? (c : Completion) : Option Predicate :=
  match c.operator, c.argument with
  | some operator, .resolved argument => some ⟨c.filter, operator, argument⟩
  | _, _ => none

def type (c : Completion) : DataType := c.argument.type

def symbol? (c : Completion) : Option String := c.operator.map Operator.symbol

/-- The text of the argument, if there is one. -/
def argumentText? (c : Completion) : Option String :=
  match c.argument with
  | .unknown _ => none
  | .suggested _ e _ => some e.preview
  | .resolved argument => some argument.literal

def detail? (c : Completion) : Option String :=
  match c.argument with
  | .suggested _ e _ => e.detail
  | _ => none

/-- How many characters of an argument were typed. -/
def weight (c : Completion) : Nat :=
  match c.argument with
  | .suggested _ _ weight => weight
  | _ => 0

/-- The text to go on typing from: it ends in a space where the next part is open. -/
def plain (c : Completion) : String :=
  match c.symbol?, c.argumentText? with
  | none, _ => c.filter.name ++ " "
  | some symbol, none => c.filter.name ++ " " ++ symbol ++ " "
  | some symbol, some argument => c.filter.name ++ " " ++ symbol ++ " " ++ argument

/-- Open parts are shown as placeholders. -/
def toString (c : Completion) : String :=
  match c.symbol?, c.argumentText? with
  | none, _ => c.filter.name ++ " <operator> <" ++ c.type.name ++ ">"
  | some symbol, none => c.filter.name ++ " " ++ symbol ++ " <" ++ c.type.name ++ ">"
  | some symbol, some argument => c.filter.name ++ " " ++ symbol ++ " " ++ argument

instance : ToString Completion := ⟨toString⟩

@[simp] theorem toPredicate?_ofPredicate (p : Predicate) : (ofPredicate p).toPredicate? = some p :=
  rfl

end Completion

end SearchBox
