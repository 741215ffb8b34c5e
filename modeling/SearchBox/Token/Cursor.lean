import SearchBox.Token.Basic

namespace SearchBox

/-- A place in a list of tokens. Places saved for a return are kept newest first. -/
structure Cursor where
  tokens : List Token
  pointer : Nat := 0
  saved : List Nat := []
  endsBlank : Bool := false

namespace Cursor

def peek (c : Cursor) : Option Token := c.tokens[c.pointer]?

/-- At the end nothing is taken and the place stays. -/
def next (c : Cursor) : Option Token × Cursor :=
  match c.peek with
  | some t => (some t, { c with pointer := c.pointer + 1 })
  | none => (none, c)

def isDone (c : Cursor) : Bool := decide (c.tokens.length ≤ c.pointer)

def remaining (c : Cursor) : List Token := c.tokens.drop c.pointer

def startPosition (c : Cursor) : Nat := (c.tokens.head?.map Token.position).getD 0

/-- Just past the last token, or 0 without tokens. -/
def stopPosition (c : Cursor) : Nat := (c.tokens.getLast?.map Token.stop).getD 0

def save (c : Cursor) : Cursor := { c with saved := c.pointer :: c.saved }

/-- Returns to the newest saved place; without one nothing happens. -/
def undo (c : Cursor) : Cursor :=
  match c.saved with
  | [] => c
  | pointer :: saved => { c with pointer := pointer, saved := saved }

/-- Forgets the newest saved place and stays where it is. -/
def commit (c : Cursor) : Cursor := { c with saved := c.saved.tail }

def depth (c : Cursor) : Nat := c.saved.length

@[simp] theorem undo_save (c : Cursor) : c.save.undo = c := rfl

@[simp] theorem commit_save (c : Cursor) : c.save.commit = c := rfl

@[simp] theorem tokens_next (c : Cursor) : c.next.2.tokens = c.tokens := by
  unfold next; split <;> rfl

@[simp] theorem saved_next (c : Cursor) : c.next.2.saved = c.saved := by
  unfold next; split <;> rfl

end Cursor

end SearchBox
