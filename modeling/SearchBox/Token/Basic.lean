namespace SearchBox

inductive TokenKind where
  | typeName
  | operator
  | word
  deriving DecidableEq

/-- A word of a literal, with the number of characters before it. -/
structure Token where
  kind : TokenKind
  lexeme : String
  position : Nat
  deriving DecidableEq

namespace Token

/-- In characters. -/
def length (t : Token) : Nat := t.lexeme.toList.length

def stop (t : Token) : Nat := t.position + t.length

end Token

end SearchBox
