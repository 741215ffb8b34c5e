import SearchBox.Editor.Basic
import SearchBox.Json

/-! JSON views for inspection. A name stands for a type, and an empty list of aliases is left
out. -/

namespace SearchBox

open Json

def aliasFields (aliases : List String) : List (String × Json) :=
  if aliases.isEmpty then [] else [("aliases", strings aliases)]

def DataType.toJson (t : DataType) : Json := string t.name

def Value.toJson : Value → Json
  | .text s => string s
  | .integer n => number n
  | .decimal d => string d.toString

def Filter.toJson (f : Filter) : Json :=
  object (aliasFields f.aliases ++ [("name", string f.name), ("type", f.type.toJson)])

def Operator.toJson (o : Operator) : Json :=
  object (aliasFields o.aliases ++ [("symbol", string o.symbol), ("type", o.type.toJson)])

def Phrase.toJson (p : Phrase) : Json :=
  object [("precedence", number p.precedence), ("template", string p.template),
    ("type", p.type.toJson)]

def Example.toJson (e : Example) : Json :=
  object ((e.detail.map fun detail => ("detail", string detail)).toList ++
    [("preview", string e.preview)])

def Grammar.toJson (g : Grammar) : Json :=
  object [("filters", array (g.filters.map Filter.toJson)),
    ("macros", array (g.phrases.map Phrase.toJson)),
    ("operators", array (g.operators.map Operator.toJson)),
    ("types", array (g.types.types.map DataType.toJson))]

def Argument.toJson (a : Argument) : Json :=
  object [("literal", string a.literal), ("type", a.type.toJson), ("value", a.value.toJson)]

def Predicate.toJson (p : Predicate) : Json :=
  object [("argument", p.argument.toJson), ("filter", p.filter.toJson),
    ("operator", p.operator.toJson)]

def ArgumentPart.toJson : ArgumentPart → Json
  | .unknown type => object [("placeholder", bool true), ("type", type.toJson)]
  | .suggested type shown weight =>
    object [("example", shown.toJson), ("type", type.toJson), ("weight", number weight)]
  | .resolved argument => argument.toJson

def Completion.toJson (c : Completion) : Json :=
  object [("argument", c.argument.toJson), ("filter", c.filter.toJson),
    ("operator", match c.operator with
      | some operator => operator.toJson
      | none => object [("placeholder", bool true)]),
    ("weight", number c.weight)]

def EditorInput.toJson (i : EditorInput) : Json :=
  object [("committed", array (i.committed.map Predicate.toJson)), ("value", string i.text)]

def Advice.toJson (a : Advice) : Json :=
  object [("completions", array (a.completions.map Completion.toJson)),
    ("pending", match a.pending with
      | some index => number index
      | none => null)]

end SearchBox
