import SearchBox.Proofs.Grammar.WellFormed
import SearchBox.Proofs.Predicate.Interpretation
import SearchBox.Proofs.Text.Runs
import SearchBox.Proofs.Token.Places

namespace SearchBox

namespace Text

variable {text word : String} {index n : Nat}

theorem WordAt.standsAt (h : WordAt text index n) (hword : (words text)[index]? = some word) :
    StandsAt text word index n := by
  obtain ⟨front, r, back, hsplit, hr, rfl, rfl⟩ := h
  have hlexeme : r.lexeme = word := by
    simpa [words, hsplit, hr, List.getElem?_append_right] using hword
  exact hlexeme ▸ standsAt_of_split_eq hsplit hr

theorem WordsStop.lastLetterAt (h : WordsStop text n) : LastLetterAt text n := by
  obtain ⟨front, r, back, hsplit, hr, hback, rfl⟩ := h
  exact lastLetterAt_of_split_eq hsplit hr hback

theorem StandsAt.lt_length (h : StandsAt text word index n) : n < text.length := by
  have hle := h.isPrefix_drop.length_le
  have hpos : word.length ≠ 0 := mt String.length_eq_zero_iff.1 h.ne_empty
  simp only [List.length_drop, String.length_toList] at hle
  omega

theorem LastLetterAt.le_length (h : LastLetterAt text n) : n ≤ text.length := by
  obtain ⟨before, c, after, htext, rfl, -, -⟩ := h
  rw [← String.length_toList, htext]
  simp

end Text

theorem Text.isBlank_of_words_eq_nil {text : String} (h : Text.words text = []) :
    ∀ c ∈ text.toList, Text.isBlank c = true := by
  rw [Text.words_eq_charWords, List.map_eq_nil_iff] at h
  exact Text.isBlank_of_charWords_eq_nil h

theorem Place.position_of_words_eq_nil (g : Grammar) {text : String} (h : Text.words text = [])
    (index : Nat) : (Place.word index).position (Token.scan g text) = 0 := by
  rw [← Token.map_lexeme_scan g text, List.map_eq_nil_iff] at h
  rw [position, h]
  rfl

theorem Place.standsAt_position (g : Grammar) {text word : String} {index : Nat}
    (h : (Text.words text)[index]? = some word) :
    Text.StandsAt text word index ((Place.word index).position (Token.scan g text)) := by
  have hmap := h
  rw [← Token.map_lexeme_scan g text, List.getElem?_map, Option.map_eq_some_iff] at hmap
  obtain ⟨t, ht, -⟩ := hmap
  rw [position, ht]
  exact (Token.wordAt_of_getElem? g ht).standsAt h

theorem Place.lastLetterAt_position (g : Grammar) {text : String} (h : Text.words text ≠ []) :
    Text.LastLetterAt text (Place.afterLast.position (Token.scan g text)) := by
  have hne : Token.scan g text ≠ [] := by
    rintro hnil
    exact h (by rw [← Token.map_lexeme_scan g text, hnil, List.map_nil])
  have hlast := List.getLast?_eq_getLast_of_ne_nil hne
  rw [position, hlast]
  exact (Token.wordsStop_of_getLast? g hlast).lastLetterAt

namespace Grammar

/-- What a position and a message say together about a literal: the message quotes the word that
stands at the position, or a word is missing behind all others. -/
inductive PointsAt (g : Grammar) (text : String) : Nat → String → Prop
  | empty (h : ∀ c ∈ text.toList, Text.isBlank c = true) :
      PointsAt g text 0 "predicate is empty"
  | unknownFilter {word : String} {n : Nat} (h : Text.StandsAt text word 0 n) :
      PointsAt g text n ("unknown filter: \"" ++ word ++ "\"")
  | missingOperator {n : Nat} (h : Text.LastLetterAt text n) :
      PointsAt g text n "missing an operator and argument"
  | unknownOperator {word : String} {n : Nat} (h : Text.StandsAt text word 1 n) :
      PointsAt g text n ("unknown operator: \"" ++ word ++ "\"")
  | unsuitedOperator {word type : String} {n : Nat} (h : Text.StandsAt text word 1 n) :
      PointsAt g text n
        ("\"" ++ word ++ "\" operator cannot be used on type: \"" ++ type ++ "\"")
  | missingArgument {n : Nat} (h : Text.LastLetterAt text n) :
      PointsAt g text n "missing an argument"
  | incompleteArgument {word : String} {n : Nat} (h : Text.StandsAt text word 2 n) :
      PointsAt g text n "incomplete argument"
  | unknownArgument {word : String} {n : Nat} (h : Text.StandsAt text word 2 n) :
      PointsAt g text n "unknown argument"
  | trailingInput {name symbol extra : String} {words : List String} {f : Filter} {p : Phrase}
      {n : Nat} (hwords : Text.words text = name :: symbol :: words)
      (hf : g.filter? name = some f) (hp : g.chosen? f.type words = some p)
      (h : Text.StandsAt text extra (2 + p.slots.length) n) :
      PointsAt g text n ("unexpected input after argument: \"" ++ extra ++ "\"")

variable {g : Grammar} {text : String}

theorem PointsAt.le_length {n : Nat} {message : String} (h : g.PointsAt text n message) :
    n ≤ text.length := by
  cases h with
  | empty => exact Nat.zero_le _
  | unknownFilter h => exact h.lt_length.le
  | missingOperator h => exact h.le_length
  | unknownOperator h => exact h.lt_length.le
  | unsuitedOperator h => exact h.lt_length.le
  | missingArgument h => exact h.le_length
  | incompleteArgument h => exact h.lt_length.le
  | unknownArgument h => exact h.lt_length.le
  | trailingInput hwords hf hp h => exact h.lt_length.le

theorem pointsAt_of_interpretArgument {name symbol word : String} {words : List String}
    {f : Filter} {o : Operator} {e : Place × LiteralFault}
    (hwords : Text.words text = name :: symbol :: word :: words) (hf : g.filter? name = some f)
    (h : g.interpretArgument f o (word :: words) = .error e) :
    g.PointsAt text (e.1.position (Token.scan g text)) e.2.message := by
  unfold interpretArgument at h
  cases hp : g.chosen? f.type (word :: words) with
  | none =>
    simp only [hp] at h
    cases h
    have hthird : (Text.words text)[2]? = some word := by rw [hwords]; rfl
    rcases g.argumentFault_cases f.type (word :: words) with hfault | hfault
    · rw [hfault]
      exact .incompleteArgument (Place.standsAt_position g hthird)
    · rw [hfault]
      exact .unknownArgument (Place.standsAt_position g hthird)
  | some p =>
    simp only [hp] at h
    cases hrest : (word :: words).drop p.slots.length with
    | nil => simp [hrest] at h
    | cons extra rest =>
      simp only [hrest] at h
      cases h
      have hextra : (Text.words text)[2 + p.slots.length]? = some extra := by
        rw [hwords, Nat.add_comm]
        have hhead := congrArg List.head? hrest
        simpa [List.head?_drop] using hhead
      exact .trailingInput hwords hf hp (Place.standsAt_position g hextra)

theorem pointsAt_of_interpret {e : Place × LiteralFault}
    (h : g.interpret (Text.words text) = .error e) :
    g.PointsAt text (e.1.position (Token.scan g text)) e.2.message := by
  generalize hwords : Text.words text = words at h
  unfold interpret at h
  split at h
  · cases h
    rw [Place.position_of_words_eq_nil g hwords]
    exact .empty (Text.isBlank_of_words_eq_nil hwords)
  · rename_i name words
    split at h
    · cases h
      exact .unknownFilter (Place.standsAt_position g (by rw [hwords]; rfl))
    · rename_i f hf
      split at h
      · cases h
        exact .missingOperator (Place.lastLetterAt_position g (by simp [hwords]))
      · rename_i symbol words
        split at h
        · cases h
          exact .unknownOperator (Place.standsAt_position g (by rw [hwords]; rfl))
        · split at h
          · split at h
            · cases h
              exact .missingArgument (Place.lastLetterAt_position g (by simp [hwords]))
            · exact pointsAt_of_interpretArgument hwords hf h
          · cases h
            exact .unsuitedOperator (Place.standsAt_position g (by rw [hwords]; rfl))

/-- The error of a literal points at the word that its message quotes, or at where a word is
missing. It never points past the end. -/
theorem pointsAt_of_compile_eq_error (g : Grammar) {literal : String} {e : LiteralError}
    (h : g.compile literal = .error e) :
    g.PointsAt literal e.position e.message ∧ e.position ≤ literal.length := by
  rw [compile_eq_interpret] at h
  cases hfault : g.interpret (Text.words literal) with
  | ok p => simp [hfault, Except.mapError] at h
  | error fault =>
    rw [hfault] at h
    cases h
    have hpoints := pointsAt_of_interpret hfault
    exact ⟨hpoints, hpoints.le_length⟩

theorem pointsAt_of_reminder_trailing :
    reminderGrammar.compile "\u00A0at =\t now 12:30" = .error ⟨11, .trailingInput "12:30"⟩ ∧
      reminderGrammar.PointsAt "\u00A0at =\t now 12:30" 11
        "unexpected input after argument: \"12:30\"" ∧
      11 ≤ "\u00A0at =\t now 12:30".length := by
  have h : reminderGrammar.compile "\u00A0at =\t now 12:30" =
      .error ⟨11, .trailingInput "12:30"⟩ := rfl
  exact ⟨h, pointsAt_of_compile_eq_error reminderGrammar h⟩

end Grammar

end SearchBox
