import SearchBox.Phrase.Slot

namespace SearchBox

/-- What a completion shows in place of an argument. -/
structure Example where
  preview : String
  detail : Option String := none
  deriving DecidableEq

structure PhraseDecl where
  template : String
  type : String
  precedence : Int := 0
  resolver : Option (List String → Value) := none
  exampler : Option (List String → List Example) := none

/-- A way to write an argument: a template of slots and what the matched words stand for. -/
structure Phrase where
  template : String
  type : DataType
  precedence : Int
  slots : List Slot
  resolver : Option (List String → Value)
  exampler : Option (List String → List Example)

namespace Phrase

def compile (types : TypeRegistry) (d : PhraseDecl) : Except ConfigError Phrase := do
  let type ← types.get d.type
  let slots ← Slot.readAll types d.template
  return ⟨d.template, type, d.precedence, slots, d.resolver, d.exampler⟩

/-- Without a resolver a lone parameter reads its word, and any other phrase is its text. -/
def resolve (p : Phrase) (words : List String) : Value :=
  match p.resolver with
  | some resolver => resolver words
  | none =>
    match p.slots, words with
    | [.parameter type], [word] => type.read word
    | _, _ => .text (" ".intercalate words)

/-- The template with its first slots replaced by the words matched so far. -/
def fill : List Slot → List String → List String
  | [], _ => []
  | slot :: slots, [] => slot.toString :: fill slots []
  | _ :: slots, word :: words => word :: fill slots words

/-- Never empty: the filled template stands in where the phrase has no examples of its own. -/
def examples (p : Phrase) (matched : List String) : List Example :=
  match (p.exampler.map (· matched)).getD [] with
  | [] => [{ preview := " ".intercalate (fill p.slots matched) }]
  | examples => examples

theorem examples_ne_nil (p : Phrase) (matched : List String) : p.examples matched ≠ [] := by
  unfold examples; split <;> simp_all

end Phrase

end SearchBox
