import SearchBox.Text.Blank

namespace SearchBox.Text

inductive RunKind where
  | word
  | blank
  deriving DecidableEq

def RunKind.of (c : Char) : RunKind := if isBlank c then .blank else .word

/-- A longest stretch of characters of one kind, and how many characters stand before it. -/
structure Run where
  kind : RunKind
  chars : List Char
  position : Nat
  deriving DecidableEq

namespace Run

def lexeme (r : Run) : String := String.ofList r.chars

/-- Puts `c`, which stands at `position`, in front of the runs that follow it. -/
def cons (position : Nat) (c : Char) : List Run → List Run
  | [] => [⟨.of c, [c], position⟩]
  | r :: rs =>
    if r.kind = .of c then ⟨r.kind, c :: r.chars, position⟩ :: rs
    else ⟨.of c, [c], position⟩ :: r :: rs

def runsFrom (position : Nat) : List Char → List Run
  | [] => []
  | c :: cs => cons position c (runsFrom (position + 1) cs)

def split (text : String) : List Run := runsFrom 0 text.toList

def isWord (r : Run) : Bool := r.kind == .word

theorem flatMap_chars_cons (n : Nat) (c : Char) (rs : List Run) :
    (cons n c rs).flatMap chars = c :: rs.flatMap chars := by
  cases rs with
  | nil => rfl
  | cons r rs => simp only [cons]; split <;> simp

/-- Splitting loses nothing. -/
theorem flatMap_chars_runsFrom (n : Nat) (cs : List Char) :
    (runsFrom n cs).flatMap chars = cs := by
  induction cs generalizing n with
  | nil => rfl
  | cons c cs ih => rw [runsFrom, flatMap_chars_cons, ih]

end Run

/-- The words of a text, without their places. -/
def words (text : String) : List String :=
  ((Run.split text).filter Run.isWord).map Run.lexeme

end SearchBox.Text
