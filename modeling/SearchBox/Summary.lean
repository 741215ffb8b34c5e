import SearchBox.Phrase.Basic
import SearchBox.Text.Quoted

/-! One-line records of types and phrases, for logs. Functions are left out, which the two dots
say. -/

namespace SearchBox

namespace Summary

def braces (title : String) (fields : List (String × String)) (complete : Bool) : String :=
  let shown := fields.map fun (name, value) => name ++ ": " ++ value
  title ++ " \x7b " ++ ", ".intercalate (if complete then shown else shown ++ [".."]) ++ " \x7d"

def list (items : List String) : String := "[" ++ ", ".intercalate items ++ "]"

end Summary

open Summary Text

def DataType.summary (t : DataType) : String :=
  braces "Type" [("name", quote t.name), ("precedence", toString t.precedence),
    ("supertype", quote t.supertype.name)] true

def TypeDecl.summary (d : TypeDecl) : String :=
  braces "TypeDef" [("name", quote d.name), ("precedence", toString d.precedence),
    ("supertype", match d.supertype with
      | some name => "Some(" ++ quote name ++ ")"
      | none => "None")] false

def Slot.summary : Slot → String
  | .parameter type =>
    braces "Parameter" [("name", quote type.name), ("ty", type.summary)] true
  | .keyword aliases => braces "Keyword" [("aliases", list (aliases.map quote))] true

def PhraseDecl.summary (d : PhraseDecl) : String :=
  braces "MacroDef" [("template", quote d.template), ("ty", quote d.type),
    ("precedence", toString d.precedence)] false

def Phrase.summary (p : Phrase) : String :=
  braces "Macro" [("template", quote p.template), ("ty", quote p.type.name),
    ("precedence", toString p.precedence), ("syntax", list (p.slots.map Slot.summary))] false

end SearchBox
