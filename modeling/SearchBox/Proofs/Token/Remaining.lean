import SearchBox.Proofs.Text.Words
import SearchBox.Token.Scan

namespace SearchBox

namespace Cursor

def skip (c : Cursor) (n : Nat) : Cursor := { c with pointer := c.pointer + n }

@[simp] theorem skip_zero (c : Cursor) : c.skip 0 = c := rfl

@[simp] theorem skip_skip (c : Cursor) (m n : Nat) : (c.skip m).skip n = c.skip (m + n) := by
  simp [skip, Nat.add_assoc]

@[simp] theorem tokens_skip (c : Cursor) (n : Nat) : (c.skip n).tokens = c.tokens := rfl

@[simp] theorem endsBlank_skip (c : Cursor) (n : Nat) : (c.skip n).endsBlank = c.endsBlank := rfl

@[simp] theorem remaining_skip (c : Cursor) (n : Nat) :
    (c.skip n).remaining = c.remaining.drop n := by
  simp [skip, remaining]

@[simp] theorem remaining_save (c : Cursor) : c.save.remaining = c.remaining := rfl

@[simp] theorem endsBlank_save (c : Cursor) : c.save.endsBlank = c.endsBlank := rfl

/-- However far it went, a cursor returns to where it saved its place. -/
@[simp] theorem undo_skip_save (c : Cursor) (n : Nat) : (c.save.skip n).undo = c := rfl

@[simp] theorem commit_skip_save (c : Cursor) (n : Nat) : (c.save.skip n).commit = c.skip n := rfl

theorem peek_eq_head? (c : Cursor) : c.peek = c.remaining.head? := by
  simp [peek, remaining]

theorem isDone_eq (c : Cursor) : c.isDone = c.remaining.isEmpty := by
  rw [isDone, remaining, Bool.eq_iff_iff, decide_eq_true_iff, List.isEmpty_iff,
    List.drop_eq_nil_iff]

/-- The next token is the first one that remains. -/
theorem next_of_remaining_cons {c : Cursor} {t : Token} {ts : List Token}
    (h : c.remaining = t :: ts) : c.next = (some t, c.skip 1) := by
  have hpeek : c.peek = some t := by rw [peek_eq_head?, h, List.head?_cons]
  simp only [next, hpeek]
  rfl

theorem next_of_remaining_nil {c : Cursor} (h : c.remaining = []) : c.next = (none, c) := by
  have hpeek : c.peek = none := by rw [peek_eq_head?, h, List.head?_nil]
  simp only [next, hpeek]

end Cursor

variable (g : Grammar) (literal : String)

@[simp] theorem Token.map_lexeme_scan :
    (Token.scan g literal).map Token.lexeme = Text.words literal := by
  simp only [Token.scan, Text.words, List.map_map]
  rfl

namespace Cursor

@[simp] theorem tokens_start : (Cursor.start g literal).tokens = Token.scan g literal := rfl

@[simp] theorem remaining_start : (Cursor.start g literal).remaining = Token.scan g literal := rfl

@[simp] theorem endsBlank_start :
    (Cursor.start g literal).endsBlank = Text.endsBlank literal := by
  have h := Text.getLast?_runsFrom 0 literal.toList
  simp only [start, Text.endsBlank, Text.Run.split]
  cases hlast : (Text.Run.runsFrom 0 literal.toList).getLast? with
  | none =>
    rw [hlast] at h
    simp [Option.map_eq_none_iff.1 h.symm]
  | some r =>
    rw [hlast] at h
    obtain ⟨c, hc, hkind⟩ := Option.map_eq_some_iff.1 h.symm
    by_cases hb : Text.isBlank c = true
    · simp [hc, hb, Text.Run.isWord, ← hkind, Text.RunKind.of]
    · simp [hc, hb, Text.Run.isWord, ← hkind, Text.RunKind.of]

end Cursor

end SearchBox
