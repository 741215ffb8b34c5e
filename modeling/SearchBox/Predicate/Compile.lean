import SearchBox.Phrase.Attempt
import SearchBox.Predicate.Basic
import SearchBox.Predicate.LiteralError
import SearchBox.Token.Scan

namespace SearchBox.Grammar

variable (g : Grammar)

def compileFilter (c : Cursor) : Except LiteralError (Filter × Cursor) :=
  match c.next with
  | (none, c) => .error ⟨c.startPosition, .empty⟩
  | (some t, c) =>
    match g.filter? t.lexeme with
    | some filter => .ok (filter, c)
    | none => .error ⟨t.position, .unknownFilter t.lexeme⟩

def compileOperator (filter : Filter) (c : Cursor) : Except LiteralError (Operator × Cursor) :=
  match c.next with
  | (none, c) => .error ⟨c.stopPosition, .missingOperator⟩
  | (some t, c) =>
    match g.operator? t.lexeme with
    | none => .error ⟨t.position, .unknownOperator t.lexeme⟩
    | some operator =>
      if operator.suits filter.type then .ok (operator, c)
      else .error ⟨t.position, .unsuitedOperator t.lexeme filter.type.name⟩

/-- The first phrase that matches in full. Without one, the fault tells whether some phrase was
at least begun. -/
def firstMatch (c : Cursor) (unfinished : Bool) :
    List Phrase → Except LiteralFault (List Token × Value × Cursor)
  | [] => .error (if unfinished then .incompleteArgument else .unknownArgument)
  | p :: ps =>
    match p.attempt c.save with
    | (.success tokens value, reached) => .ok (tokens, value, reached.commit)
    | (.failure _ begun, reached) => firstMatch reached.undo (unfinished || begun) ps

def compileArgument (filter : Filter) (c : Cursor) : Except LiteralError (Argument × Cursor) :=
  match c.peek with
  | none => .error ⟨c.stopPosition, .missingArgument⟩
  | some first =>
    match firstMatch c false (g.phrasesFor filter.type) with
    | .error fault => .error ⟨first.position, fault⟩
    | .ok (tokens, value, c) =>
      .ok (⟨filter.type, " ".intercalate (tokens.map Token.lexeme), value⟩, c)

/-- The predicate that a literal writes: a filter, an operator, an argument and nothing more. -/
def compile (literal : String) : Except LiteralError Predicate := do
  let (filter, c) ← g.compileFilter (.start g literal)
  let (operator, c) ← g.compileOperator filter c
  let (argument, c) ← g.compileArgument filter c
  match c.peek with
  | some extra => throw ⟨extra.position, .trailingInput extra.lexeme⟩
  | none => return ⟨filter, operator, argument⟩

def compile? (literal : String) : Option Predicate := (g.compile literal).toOption

def isValid (literal : String) : Bool := (g.compile? literal).isSome

end SearchBox.Grammar
