import SearchBox.Grammar.Basic

namespace SearchBox.Overview

/-- One name to a line, its type in the column behind it. -/
def row (name rest : String) : String :=
  "  " ++ name ++ String.ofList (List.replicate (16 - name.toList.length) ' ') ++ rest ++ "\n"

def also (aliases : List String) : String :=
  if aliases.isEmpty then "" else "  (also: " ++ ", ".intercalate aliases ++ ")"

def filterRow (f : Filter) : String := row f.name (f.type.name ++ also f.aliases)

def operatorRow (o : Operator) : String := row o.symbol (o.type.name ++ also o.aliases)

def phraseRow (p : Phrase) : String := row p.type.name p.template

def block (title : String) (rows : List String) : String := title ++ "\n\n" ++ String.join rows

/-- All that can be typed, on one card. -/
def render (g : Grammar) : String :=
  "\n".intercalate
    [block "FILTERS" (g.filters.map filterRow),
      block "OPERATORS" (g.operators.map operatorRow),
      block "ARGUMENTS" (g.phrases.map phraseRow)]

end SearchBox.Overview
