import SearchBox.Grammar.Basic

namespace SearchBox

structure FilterDecl where
  name : String
  type : String
  aliases : List String := []

structure OperatorDecl where
  symbol : String
  type : String
  aliases : List String := []

/-- All that a grammar is built from, in the order of declaration. -/
structure Config where
  types : List TypeDecl := []
  filters : List FilterDecl := []
  operators : List OperatorDecl := []
  phrases : List PhraseDecl := []

instance : Append Config where
  append a b :=
    ⟨a.types ++ b.types, a.filters ++ b.filters, a.operators ++ b.operators, a.phrases ++ b.phrases⟩

namespace Grammar

def empty : Grammar := ⟨.empty, [], [], []⟩

def addType (g : Grammar) (d : TypeDecl) : Except ConfigError Grammar := do
  let (_, types) ← g.types.register d
  return { g with types := types }

def addFilter (g : Grammar) (d : FilterDecl) : Except ConfigError Grammar := do
  let type ← g.types.get d.type
  let filter : Filter := ⟨d.name, type, d.aliases⟩
  match firstTaken? (g.filters.flatMap Filter.spellings) filter.spellings with
  | some spelling => throw (.duplicateFilter spelling)
  | none => return { g with filters := g.filters ++ [filter] }

def addOperator (g : Grammar) (d : OperatorDecl) : Except ConfigError Grammar := do
  let type ← g.types.get d.type
  let operator : Operator := ⟨d.symbol, type, d.aliases⟩
  match firstTaken? (g.operators.flatMap Operator.spellings) operator.spellings with
  | some spelling => throw (.duplicateOperator spelling)
  | none => return { g with operators := g.operators ++ [operator] }

def addPhrase (g : Grammar) (d : PhraseDecl) : Except ConfigError Grammar := do
  let phrase ← Phrase.compile g.types d
  return { g with phrases := Ranked.insert Phrase.precedence phrase g.phrases }

/-- Types first, then filters, operators and phrases. The first defect ends the construction. -/
def build (config : Config) : Except ConfigError Grammar := do
  let g ← config.types.foldlM addType empty
  let g ← config.filters.foldlM addFilter g
  let g ← config.operators.foldlM addOperator g
  config.phrases.foldlM addPhrase g

end Grammar

end SearchBox
