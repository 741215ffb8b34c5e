import SearchBox.Text.LowerCase

namespace SearchBox

inductive Key where
  | tab
  | enter
  | up
  | down
  | esc
  | undo
  | redo
  | backspace
  deriving DecidableEq

/-- A name, in lower case, that no key has. -/
structure UnknownKey where
  name : String
  deriving DecidableEq

def UnknownKey.message (e : UnknownKey) : String := "unknown key: \"" ++ e.name ++ "\""

namespace Key

def name : Key → String
  | tab => "tab"
  | enter => "enter"
  | up => "up"
  | down => "down"
  | esc => "esc"
  | undo => "undo"
  | redo => "redo"
  | backspace => "backspace"

/-- Every key under its name, and two of them under a second one. -/
def named : List (String × Key) :=
  [("tab", tab), ("enter", enter), ("return", enter), ("up", up), ("down", down), ("esc", esc),
    ("escape", esc), ("undo", undo), ("redo", redo), ("backspace", backspace)]

/-- Case does not matter. -/
def ofName (name : String) : Except UnknownKey Key :=
  let name := Text.lowerCase name
  match named.lookup name with
  | some key => .ok key
  | none => .error ⟨name⟩

end Key

end SearchBox
