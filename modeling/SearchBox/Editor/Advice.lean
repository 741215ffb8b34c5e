import SearchBox.Completion.Basic

namespace SearchBox

inductive Move where
  | clear
  | up
  | down
  deriving DecidableEq

/-- The completions on offer and the one that is selected. -/
structure Advice where
  completions : List Completion
  pending : Option Nat

namespace Advice

/-- A selection past the end falls on the last completion; of nothing, nothing is selected. -/
def of (pending : Option Nat) (completions : List Completion) : Advice where
  completions := completions
  pending := if completions.isEmpty then none else pending.map (min · (completions.length - 1))

def selected? (a : Advice) : Option Completion := a.pending.bind (a.completions[·]?)

/-- The first step up or down selects the first completion; at an end the selection stays. -/
def move (a : Advice) (m : Move) : Advice :=
  let pending := match m, a.pending with
    | .clear, _ => none
    | _, none => some 0
    | .up, some i => some (i - 1)
    | .down, some i => some (i + 1)
  of pending a.completions

end Advice

end SearchBox
