import SearchBox.Predicate.Basic

namespace SearchBox

/-- The text being edited and the predicates entered before it. -/
structure EditorInput where
  text : String := ""
  committed : List Predicate := []

namespace EditorInput

instance : BEq EditorInput where
  beq a b := a.text == b.text && a.committed == b.committed

def setText (i : EditorInput) (text : String) : EditorInput := { i with text := text }

def commit (i : EditorInput) (p : Predicate) : EditorInput := ⟨"", i.committed ++ [p]⟩

/-- The last predicate becomes text again; without one the text is cleared. -/
def reopen (i : EditorInput) : EditorInput :=
  match i.committed.getLast? with
  | some p => ⟨p.toString, i.committed.dropLast⟩
  | none => ⟨"", []⟩

theorem reopen_commit (i : EditorInput) (p : Predicate) :
    (i.commit p).reopen = ⟨p.toString, i.committed⟩ := by
  simp [commit, reopen]

end EditorInput

end SearchBox
