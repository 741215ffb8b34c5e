import SearchBox.Editor.Basic
import SearchBox.Grammar.Spelling
import SearchBox.Text.Numeral

namespace SearchBox

inductive ScriptFault where
  | missingIndex (line : String)
  | unknownKey (error : UnknownKey)
  deriving DecidableEq

def ScriptFault.message : ScriptFault → String
  | missingIndex line => "expected an index after pick: \"" ++ line ++ "\""
  | unknownKey error => error.message

/-- A fault and its line, counted from 1. -/
structure ScriptError where
  line : Nat
  fault : ScriptFault
  deriving DecidableEq

def ScriptError.message (e : ScriptError) : String :=
  "script line " ++ toString e.line ++ ": " ++ e.fault.message

namespace Script

/-- A line ends before a line feed, together with one carriage return in front of it. An end of
text that follows a line feed begins no line. -/
def lines : List Char → List (List Char)
  | [] => []
  | '\n' :: cs => [] :: lines cs
  | '\r' :: '\n' :: cs => [] :: lines cs
  | c :: cs =>
    match lines cs with
    | [] => [[c]]
    | line :: rest => (c :: line) :: rest

def pickWord : List Char := ['p', 'i', 'c', 'k']

/-- The event that a line stands for; a blank line or a comment stands for none. -/
def readLine (line : List Char) : Except ScriptFault (Option EditorEvent) :=
  match line with
  | '>' :: ' ' :: text => .ok (some (.change (String.ofList text)))
  | '>' :: text => .ok (some (.change (String.ofList text)))
  | _ =>
    let line := Text.trim line
    if line.isEmpty || line.head? = some '#' then .ok none
    else if pickWord.isPrefixOf line then
      match Text.index? (Text.trim (line.drop pickWord.length)) with
      | some index => .ok (some (.pick index))
      | none => .error (.missingIndex (String.ofList line))
    else
      match Key.ofName (String.ofList line) with
      | .ok key => .ok (some (.key key))
      | .error error => .error (.unknownKey error)

/-- Lines are numbered from `line` on. -/
def readFrom (line : Nat) : List (List Char) → Except ScriptError (List EditorEvent)
  | [] => .ok []
  | text :: rest =>
    match readLine text with
    | .error fault => .error ⟨line, fault⟩
    | .ok event => (readFrom (line + 1) rest).map (event.toList ++ ·)

/-- The events of a script, one to a line. The first bad line is reported. -/
def read (script : String) : Except ScriptError (List EditorEvent) :=
  readFrom 1 (lines script.toList)

end Script

end SearchBox
