import Mathlib.Data.List.Forall2
import SearchBox.Phrase.Attempt
import SearchBox.Proofs.Token.Remaining

namespace SearchBox

namespace Slot

/-- Every slot accepts the word in its place, whatever follows those words. -/
def fits : List Slot → List String → Bool
  | [], _ => true
  | _ :: _, [] => false
  | slot :: slots, word :: words => slot.accepts word && fits slots words

/-- The word is the beginning of one of the slot's keywords. -/
def Begins (slot : Slot) (word : String) : Prop :=
  ∃ aliases, slot = keyword aliases ∧ ∃ a ∈ aliases, word.toList <+: a.toList

theorem mayBecome_iff {slot : Slot} {word : String} :
    slot.mayBecome word = true ↔ slot.Begins word := by
  cases slot with
  | parameter t => simp [mayBecome, Begins]
  | keyword aliases => simp [mayBecome, Begins, startsWith, List.isPrefixOf_iff_prefix]

instance (slot : Slot) (word : String) : Decidable (slot.Begins word) :=
  decidable_of_iff _ mayBecome_iff

theorem not_begins_parameter (t : DataType) (word : String) : ¬ (parameter t).Begins word := by
  rintro ⟨aliases, hslot, -⟩
  cases hslot

/-- The words that slots take: those accepted in order, and behind them one that may still become
acceptable. -/
def begun : List Slot → List String → List String
  | slot :: slots, word :: words =>
    if slot.accepts word then word :: begun slots words
    else if slot.Begins word then [word] else []
  | _, _ => []

/-- How many words are read before the slots are settled, a rejected one included. -/
def reach : List Slot → List String → Nat
  | slot :: slots, word :: words => if slot.accepts word then reach slots words + 1 else 1
  | _, _ => 0

@[simp] theorem begun_nil (slots : List Slot) : begun slots [] = [] := by
  cases slots <;> rfl

theorem fits_iff_forall₂ (slots : List Slot) (words : List String) :
    fits slots words = true ↔
      List.Forall₂ (fun slot word => slot.accepts word = true) slots
        (words.take slots.length) := by
  induction slots generalizing words with
  | nil => simp [fits]
  | cons slot slots ih =>
    cases words with
    | nil => simp [fits]
    | cons word words => simp [fits, ih]

theorem length_le_of_fits {slots : List Slot} {words : List String}
    (h : fits slots words = true) : slots.length ≤ words.length := by
  have hlen := ((fits_iff_forall₂ slots words).1 h).length_eq
  rw [List.length_take] at hlen
  omega

theorem begun_isPrefix (slots : List Slot) (words : List String) :
    begun slots words <+: words := by
  induction slots generalizing words with
  | nil => exact List.nil_prefix
  | cons slot slots ih =>
    cases words with
    | nil => exact List.nil_prefix
    | cons word words =>
      rw [begun]
      split
      · exact (List.prefix_cons_inj word).2 (ih words)
      · split
        · exact ⟨words, rfl⟩
        · exact List.nil_prefix

theorem begun_of_fits {slots : List Slot} {words : List String} (h : fits slots words = true) :
    begun slots words = words.take slots.length := by
  induction slots generalizing words with
  | nil => simp [begun]
  | cons slot slots ih =>
    cases words with
    | nil => simp [fits] at h
    | cons word words =>
      obtain ⟨hword, hwords⟩ := Bool.and_eq_true_iff.1 h
      rw [begun, if_pos hword, ih hwords, List.length_cons, List.take_succ_cons]

theorem reach_of_fits {slots : List Slot} {words : List String} (h : fits slots words = true) :
    reach slots words = slots.length := by
  induction slots generalizing words with
  | nil => rfl
  | cons slot slots ih =>
    cases words with
    | nil => simp [fits] at h
    | cons word words =>
      obtain ⟨hword, hwords⟩ := Bool.and_eq_true_iff.1 h
      rw [reach, if_pos hword, ih hwords, List.length_cons]

theorem begun_ne_nil_of_fits {slots : List Slot} {words : List String} (hslots : slots ≠ [])
    (h : fits slots words = true) : begun slots words ≠ [] := by
  have hlen := length_le_of_fits h
  have hpos := List.length_pos_of_ne_nil hslots
  intro hnil
  have hcount := congrArg List.length hnil
  rw [begun_of_fits h, List.length_take, List.length_nil] at hcount
  omega

/-- Whether anything is taken at all hangs on the first slot and the first word. -/
theorem begun_cons_ne_nil_iff (slot : Slot) (slots : List Slot) (word : String)
    (words : List String) :
    begun (slot :: slots) (word :: words) ≠ [] ↔
      slot.accepts word = true ∨ slot.Begins word := by
  rw [begun]
  by_cases haccepts : slot.accepts word = true
  · simp [haccepts]
  · by_cases hbegins : slot.Begins word
    · simp [haccepts, hbegins]
    · simp [haccepts, hbegins]

theorem begun_parameter (t : DataType) (slots : List Slot) (words : List String) :
    begun (.parameter t :: slots) words = [] ∨
      ∃ word rest, words = word :: rest ∧ t.accepts word = true ∧
        begun (.parameter t :: slots) words = word :: begun slots rest := by
  cases words with
  | nil => exact .inl rfl
  | cons word rest =>
    by_cases haccepts : t.accepts word = true
    · exact .inr ⟨word, rest, rfl, haccepts, by simp [begun, accepts, haccepts]⟩
    · exact .inl (by simp [begun, accepts, not_begins_parameter, haccepts])

/-- Only an accepted word has another one behind it. -/
theorem accepts_of_begun_cons_cons {slot : Slot} {slots : List Slot} {words rest : List String}
    {word next : String} (h : begun (slot :: slots) words = word :: next :: rest) :
    slot.accepts word = true := by
  cases words with
  | nil => simp [begun] at h
  | cons w ws =>
    rw [begun] at h
    split at h
    · rename_i haccepts
      rwa [← (List.cons.inj h).1]
    · split at h <;> simp at h

end Slot

namespace Phrase

variable (p : Phrase)

/-- What an attempt finds, told from the tokens ahead. -/
def outcome (ts : List Token) : Attempt :=
  let words := ts.map Token.lexeme
  let taken := ts.take (Slot.begun p.slots words).length
  if Slot.fits p.slots words then .success taken (p.resolve (Slot.begun p.slots words))
  else .failure taken (!taken.isEmpty)

theorem map_lexeme_take_begun (slots : List Slot) (ts : List Token) :
    (ts.take (Slot.begun slots (ts.map Token.lexeme)).length).map Token.lexeme =
      Slot.begun slots (ts.map Token.lexeme) := by
  rw [List.map_take]
  exact (List.prefix_iff_eq_take.1 (Slot.begun_isPrefix _ _)).symm

/-- The induction keeps what has been matched so far apart from the tokens ahead. -/
theorem attemptFrom_eq (matched : List Token) (slots : List Slot) (c : Cursor) :
    p.attemptFrom matched slots c =
      let words := c.remaining.map Token.lexeme
      let taken := matched ++ c.remaining.take (Slot.begun slots words).length
      (if Slot.fits slots words then .success taken (p.resolve (taken.map Token.lexeme))
        else .failure taken (!taken.isEmpty),
        c.skip (Slot.reach slots words)) := by
  induction slots generalizing matched c with
  | nil => simp [attemptFrom, Slot.fits, Slot.begun, Slot.reach]
  | cons slot slots ih =>
    cases hc : c.remaining with
    | nil =>
      simp [attemptFrom, Cursor.next_of_remaining_nil hc, Slot.fits, Slot.reach]
    | cons t ts =>
      have hrest : (c.skip 1).remaining = ts := by simp [hc]
      rw [attemptFrom, Cursor.next_of_remaining_cons hc]
      by_cases haccepts : slot.accepts t.lexeme = true
      · simp [haccepts, ih, hrest, Slot.fits, Slot.begun, Slot.reach, Nat.add_comm 1]
      · by_cases hbegins : slot.Begins t.lexeme
        · simp [haccepts, Slot.mayBecome_iff, hbegins, Slot.fits, Slot.begun, Slot.reach]
        · simp [haccepts, Slot.mayBecome_iff, hbegins, Slot.fits, Slot.begun, Slot.reach]

/-- An attempt sees only what remains, and moves the cursor by the words it read. -/
theorem attempt_eq (c : Cursor) :
    p.attempt c = (p.outcome c.remaining,
      c.skip (Slot.reach p.slots (c.remaining.map Token.lexeme))) := by
  rw [attempt, attemptFrom_eq]
  simp only [List.nil_append, outcome, map_lexeme_take_begun]

theorem undo_attempt_save (c : Cursor) : (p.attempt c.save).2.undo = c := by
  rw [attempt_eq, Cursor.undo_skip_save]

theorem tokens_outcome (ts : List Token) :
    (p.outcome ts).tokens = ts.take (Slot.begun p.slots (ts.map Token.lexeme)).length := by
  rw [outcome]
  by_cases hfits : Slot.fits p.slots (ts.map Token.lexeme) = true
  · rw [if_pos hfits, Attempt.tokens]
  · rw [if_neg hfits, Attempt.tokens]

theorem lexemes_outcome (ts : List Token) :
    (p.outcome ts).lexemes = Slot.begun p.slots (ts.map Token.lexeme) := by
  rw [Attempt.lexemes, tokens_outcome, map_lexeme_take_begun]

theorem isEmpty_take_begun (slots : List Slot) (ts : List Token) :
    (ts.take (Slot.begun slots (ts.map Token.lexeme)).length).isEmpty =
      (Slot.begun slots (ts.map Token.lexeme)).isEmpty := by
  rw [← List.isEmpty_map (f := Token.lexeme), map_lexeme_take_begun]

/-- A phrase is ruled out if it takes no word and asks for one. -/
theorem outcome_eq_failure_false_iff (ts : List Token) :
    (∃ matched, p.outcome ts = .failure matched false) ↔
      Slot.begun p.slots (ts.map Token.lexeme) = [] ∧
        Slot.fits p.slots (ts.map Token.lexeme) = false := by
  rw [outcome, isEmpty_take_begun]
  by_cases hfits : Slot.fits p.slots (ts.map Token.lexeme) = true
  · simp [hfits]
  · simp [hfits]

end Phrase

namespace Text

/-- How many characters words have together. -/
def letters (words : List String) : Nat := words.foldr (fun w n => w.length + n) 0

@[simp] theorem letters_nil : letters [] = 0 := rfl

@[simp] theorem letters_cons (word : String) (words : List String) :
    letters (word :: words) = word.length + letters words := rfl

theorem letters_pos {words : List String} (hwords : words ≠ []) (h : ∀ w ∈ words, w ≠ "") :
    0 < letters words := by
  obtain ⟨word, words, rfl⟩ := List.exists_cons_of_ne_nil hwords
  have hne : word.length ≠ 0 := mt String.length_eq_zero_iff.1 (h word List.mem_cons_self)
  rw [letters_cons]
  omega

end Text

theorem Attempt.weight_eq_letters (a : Attempt) : a.weight = Text.letters a.lexemes := by
  rw [weight, lexemes]
  induction a.tokens with
  | nil => rfl
  | cons t ts ih =>
    rw [List.foldr_cons, ih, List.map_cons, Text.letters_cons]
    rfl

end SearchBox
