import SearchBox.Script
import SearchBox.Text.Quoted

namespace SearchBox

/-- What the editor shows once a script has run. -/
structure Replay where
  input : String
  committed : List String
  pending : Option String
  ghost : String
  error : Option String

namespace Replay

def ofEditor (e : Editor) : Replay where
  input := e.input.text
  committed := e.input.committed.map Predicate.toString
  pending := e.advice.selected?.map Completion.toString
  ghost := e.ghost
  error := e.error.map LiteralError.toString

def run (g : Grammar) (script : String) : Except ScriptError Replay := do
  return ofEditor (Editor.run g (← Script.read script))

def line (label text : String) : String := label ++ ": " ++ text ++ "\n"

def toString (r : Replay) : String :=
  line "input" (Text.quote r.input) ++
    String.join (r.committed.map (line "committed")) ++
    (match r.pending with
      | some pending => line "pending" (pending ++ " (ghost: " ++ Text.quote r.ghost ++ ")")
      | none => line "pending" "none") ++
    match r.error with
    | some error => line "error" error
    | none => ""

instance : ToString Replay := ⟨toString⟩

end Replay

end SearchBox
