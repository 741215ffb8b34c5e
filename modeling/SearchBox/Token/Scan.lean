import SearchBox.Grammar.Basic
import SearchBox.Token.Cursor

namespace SearchBox

/-- A word that names a type counts as such even if an operator is spelled like it. -/
def TokenKind.of (g : Grammar) (word : String) : TokenKind :=
  if g.types.contains word then .typeName
  else if (g.operator? word).isSome then .operator
  else .word

def Token.scan (g : Grammar) (literal : String) : List Token :=
  ((Text.Run.split literal).filter Text.Run.isWord).map fun r =>
    ⟨.of g r.lexeme, r.lexeme, r.position⟩

/-- The cursor at the start of a literal. A blank at its end finishes the last word. -/
def Cursor.start (g : Grammar) (literal : String) : Cursor where
  tokens := Token.scan g literal
  endsBlank := ((Text.Run.split literal).getLast?.map (!·.isWord)).getD false

end SearchBox
