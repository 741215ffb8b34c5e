import SearchBox.Token.Cursor

namespace SearchBox

/-- One operation of a cursor. A checkpoint saves the place, runs its body, and then either keeps
the place reached or returns. -/
inductive CursorStep where
  | next
  | peek
  | save
  | undo
  | commit
  | remaining
  | tokens
  | checkpoint (body : List CursorStep) (keep : Bool)
  deriving Inhabited

namespace CursorStep

/-- What can be seen of a cursor after a step. -/
structure View where
  position : Option Nat
  depth : Nat
  isDone : Bool

def View.of (c : Cursor) : View := ⟨c.peek.map Token.position, c.depth, c.isDone⟩

inductive Reply where
  | nothing
  | token (t : Option Token)
  | tokens (ts : List Token)
  | block (replies : List (Reply × View))

mutual

def run : CursorStep → Cursor → Reply × Cursor
  | next, c => (.token c.next.1, c.next.2)
  | peek, c => (.token c.peek, c)
  | save, c => (.nothing, c.save)
  | undo, c => (.nothing, c.undo)
  | commit, c => (.nothing, c.commit)
  | remaining, c => (.tokens c.remaining, c)
  | tokens, c => (.tokens c.tokens, c)
  | checkpoint body keep, c =>
    let (replies, reached) := runAll body c.save
    (.block replies, if keep then reached.commit else reached.undo)

def runAll : List CursorStep → Cursor → List (Reply × View) × Cursor
  | [], c => ([], c)
  | step :: steps, c =>
    let (reply, reached) := run step c
    let (replies, last) := runAll steps reached
    ((reply, .of reached) :: replies, last)

end

end CursorStep

end SearchBox
