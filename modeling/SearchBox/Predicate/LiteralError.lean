namespace SearchBox

/-- Why a literal is not a predicate. -/
inductive LiteralFault where
  | empty
  | unknownFilter (word : String)
  | missingOperator
  | unknownOperator (word : String)
  | unsuitedOperator (word type : String)
  | missingArgument
  | incompleteArgument
  | unknownArgument
  | trailingInput (word : String)
  deriving DecidableEq

def LiteralFault.message : LiteralFault → String
  | empty => "predicate is empty"
  | unknownFilter word => "unknown filter: \"" ++ word ++ "\""
  | missingOperator => "missing an operator and argument"
  | unknownOperator word => "unknown operator: \"" ++ word ++ "\""
  | unsuitedOperator word type =>
    "\"" ++ word ++ "\" operator cannot be used on type: \"" ++ type ++ "\""
  | missingArgument => "missing an argument"
  | incompleteArgument => "incomplete argument"
  | unknownArgument => "unknown argument"
  | trailingInput word => "unexpected input after argument: \"" ++ word ++ "\""

/-- A fault and the number of characters before it. -/
structure LiteralError where
  position : Nat
  fault : LiteralFault
  deriving DecidableEq

namespace LiteralError

def message (e : LiteralError) : String := e.fault.message

/-- Columns are shown from 1. -/
def toString (e : LiteralError) : String :=
  "(at " ++ ToString.toString (e.position + 1) ++ ") " ++ e.message

instance : ToString LiteralError := ⟨toString⟩

end LiteralError

end SearchBox
