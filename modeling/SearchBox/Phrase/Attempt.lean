import SearchBox.Phrase.Basic
import SearchBox.Token.Cursor

namespace SearchBox

/-- How far a phrase matched. A failure is `unfinished` when the words read so far may still grow
into the phrase. -/
inductive Attempt where
  | success (tokens : List Token) (value : Value)
  | failure (tokens : List Token) (unfinished : Bool)

namespace Attempt

def tokens : Attempt → List Token
  | success tokens _ => tokens
  | failure tokens _ => tokens

def isSuccess : Attempt → Bool
  | success .. => true
  | failure .. => false

def isUnfinished : Attempt → Bool
  | success .. => false
  | failure _ unfinished => unfinished

def value? : Attempt → Option Value
  | success _ value => some value
  | failure .. => none

def lexemes (a : Attempt) : List String := a.tokens.map Token.lexeme

/-- How many characters matched. -/
def weight (a : Attempt) : Nat := a.tokens.foldr (fun t n => t.length + n) 0

end Attempt

namespace Phrase

/-- Reads one token for each slot. A rejected token is consumed too: the caller returns to where it
was if it needs to. -/
def attemptFrom (p : Phrase) (matched : List Token) : List Slot → Cursor → Attempt × Cursor
  | [], c => (.success matched (p.resolve (matched.map Token.lexeme)), c)
  | slot :: slots, c =>
    match c.next with
    | (none, c) => (.failure matched !matched.isEmpty, c)
    | (some t, c) =>
      if slot.accepts t.lexeme then p.attemptFrom (matched ++ [t]) slots c
      else if slot.mayBecome t.lexeme then (.failure (matched ++ [t]) true, c)
      else (.failure matched !matched.isEmpty, c)

def attempt (p : Phrase) (c : Cursor) : Attempt × Cursor := p.attemptFrom [] p.slots c

end Phrase

end SearchBox
