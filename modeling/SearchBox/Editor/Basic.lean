import SearchBox.Completion.Ghost
import SearchBox.Completion.Suggest
import SearchBox.Editor.Advice
import SearchBox.Editor.Input
import SearchBox.Editor.Key
import SearchBox.Predicate.Compile

namespace SearchBox

inductive EditorEvent where
  | change (text : String)
  | key (k : Key)
  | pick (index : Nat)
  deriving DecidableEq

/-- `past` and `future` hold inputs to return to, nearest first. The error tells why the last
entry was refused. -/
structure Editor where
  input : EditorInput
  advice : Advice
  past : List EditorInput := []
  future : List EditorInput := []
  error : Option LiteralError := none

namespace Editor

variable (g : Grammar)

/-- The first completion is selected until a key moves the selection. -/
def advise (input : EditorInput) : Advice := .of (some 0) (g.suggest input.text)

def visit (past future : List EditorInput) (input : EditorInput) : Editor where
  input := input
  advice := advise g input
  past := past
  future := future

def start : Editor := visit g [] [] {}

/-- The inputs from the oldest to the last undone one. -/
def timeline (e : Editor) : List EditorInput := e.past.reverse ++ e.input :: e.future

/-- What Tab would add to the text. -/
def ghost (e : Editor) : String :=
  match e.advice.selected? with
  | some completion => completion.ghost e.input.text
  | none => ""

/-- Moves on to a new input; what was undone is forgotten. -/
def record (e : Editor) (input : EditorInput) : Editor := visit g (e.input :: e.past) [] input

def undo (e : Editor) : Editor :=
  match e.past with
  | [] => e
  | input :: past => visit g past (e.input :: e.future) input

def redo (e : Editor) : Editor :=
  match e.future with
  | [] => e
  | input :: future => visit g (e.input :: e.past) future input

def select (e : Editor) (m : Move) : Editor := { e with advice := e.advice.move m }

def enter (e : Editor) : Editor :=
  match g.compile e.input.text with
  | .ok predicate => e.record g (e.input.commit predicate)
  | .error error => { e with error := some error }

def press (e : Editor) : Key → Editor
  | .tab => if e.ghost.isEmpty then e else e.record g (e.input.setText (e.input.text ++ e.ghost))
  | .enter => e.enter g
  | .backspace => if e.input.text.isEmpty then e.record g e.input.reopen else e
  | .esc => e.select .clear
  | .up => e.select .up
  | .down => e.select .down
  | .undo => e.undo g
  | .redo => e.redo g

def apply (e : Editor) : EditorEvent → Editor
  | .change text => e.record g (e.input.setText text)
  | .key k => e.press g k
  | .pick index =>
    match e.advice.completions[index]? with
    | some completion => e.record g (e.input.setText completion.plain)
    | none => e

def run (events : List EditorEvent) : Editor := events.foldl (apply g) (start g)

end Editor

end SearchBox
