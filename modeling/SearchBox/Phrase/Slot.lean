import SearchBox.Grammar.Spelling
import SearchBox.Grammar.TypeRegistry
import SearchBox.Text.Run

namespace SearchBox

/-- One place of a template: a word that a type accepts, or one of a few fixed words. -/
inductive Slot where
  | parameter (type : DataType)
  | keyword (aliases : List String)

namespace Slot

def accepts : Slot → String → Bool
  | parameter type, word => type.accepts word
  | keyword aliases, word => aliases.contains word

/-- Whether `typed` is the beginning of a word that a keyword slot accepts. -/
def mayBecome : Slot → String → Bool
  | parameter _, _ => false
  | keyword aliases, typed => aliases.any (startsWith typed)

def toString : Slot → String
  | parameter type => "<" ++ type.name ++ ">"
  | keyword aliases => aliases.headD ""

instance : ToString Slot := ⟨toString⟩

/-- The pieces of a text between separators. -/
def pieces (separator : Char) : List Char → List (List Char)
  | [] => [[]]
  | c :: cs =>
    match pieces separator cs with
    | [] => []
    | p :: ps => if c = separator then [] :: p :: ps else (c :: p) :: ps

/-- What stands before the closing bracket that ends `cs`, if anything does. -/
def inside? (closing : Char) (cs : List Char) : Option (List Char) :=
  if cs.getLast? = some closing && !cs.dropLast.isEmpty then some cs.dropLast else none

def alternatives? (cs : List Char) : Option (List (List Char)) := do
  let inner ← inside? ']' cs
  if inner.contains ']' || (pieces '|' inner).any List.isEmpty then none
  else some (pieces '|' inner)

/-- `<name>` is a parameter, `[a|b]` a choice of keywords, and any other word itself a keyword. -/
def read (types : TypeRegistry) (template word : String) : Except ConfigError Slot :=
  match word.toList with
  | '<' :: rest =>
    match inside? '>' rest with
    | some name => (types.get (String.ofList name)).map parameter
    | none => .error (.malformedSlot template word)
  | '[' :: rest =>
    match alternatives? rest with
    | some words => .ok (keyword (words.map String.ofList))
    | none => .error (.malformedSlot template word)
  | _ => .ok (keyword [word])

/-- The slots of a template, word by word; the leftmost bad word is reported. -/
def readAll (types : TypeRegistry) (template : String) : Except ConfigError (List Slot) := do
  let slots ← (Text.words template).mapM (read types template)
  if slots.isEmpty then throw (.emptyTemplate template)
  return slots

end Slot

end SearchBox
