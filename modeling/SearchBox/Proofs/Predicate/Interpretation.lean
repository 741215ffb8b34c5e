import SearchBox.Predicate.Compile
import SearchBox.Proofs.Phrase.Matching

namespace SearchBox

/-- Where a fault lies, told without the blanks between the words. -/
inductive Place where
  | word (index : Nat)
  | afterLast

def Place.position (ts : List Token) : Place → Nat
  | word index => (ts[index]?.map Token.position).getD 0
  | afterLast => (ts.getLast?.map Token.stop).getD 0

/-- A place among the words that there are; without words only the start is one. -/
def Place.Within (words : List String) : Place → Prop
  | .word index => index < words.length ∨ words = [] ∧ index = 0
  | .afterLast => words ≠ []

namespace Grammar

variable (g : Grammar)

/-- The phrase that reads an argument: the first in order of precedence that fits. -/
def chosen? (t : DataType) (words : List String) : Option Phrase :=
  (g.phrasesFor t).find? fun p => Slot.fits p.slots words

def argumentFault (t : DataType) (words : List String) : LiteralFault :=
  if (g.phrasesFor t).any fun p => !(Slot.begun p.slots words).isEmpty then .incompleteArgument
  else .unknownArgument

def interpretArgument (filter : Filter) (operator : Operator) (words : List String) :
    Except (Place × LiteralFault) Predicate :=
  match g.chosen? filter.type words with
  | none => .error (.word 2, g.argumentFault filter.type words)
  | some p =>
    match words.drop p.slots.length with
    | extra :: _ => .error (.word (2 + p.slots.length), .trailingInput extra)
    | [] => .ok ⟨filter, operator, ⟨filter.type, " ".intercalate words, p.resolve words⟩⟩

/-- What a literal means, told from its words alone. -/
def interpret : List String → Except (Place × LiteralFault) Predicate
  | [] => .error (.word 0, .empty)
  | name :: words =>
    match g.filter? name with
    | none => .error (.word 0, .unknownFilter name)
    | some filter =>
      match words with
      | [] => .error (.afterLast, .missingOperator)
      | symbol :: words =>
        match g.operator? symbol with
        | none => .error (.word 1, .unknownOperator symbol)
        | some operator =>
          if operator.suits filter.type then
            match words with
            | [] => .error (.afterLast, .missingArgument)
            | _ :: _ => g.interpretArgument filter operator words
          else .error (.word 1, .unsuitedOperator symbol filter.type.name)

theorem argumentFault_cases (t : DataType) (words : List String) :
    g.argumentFault t words = .incompleteArgument ∨ g.argumentFault t words = .unknownArgument := by
  rw [argumentFault]
  split
  · exact .inl rfl
  · exact .inr rfl

theorem fits_of_chosen? {t : DataType} {words : List String} {p : Phrase}
    (h : g.chosen? t words = some p) : Slot.fits p.slots words = true := by
  rw [chosen?, List.find?_eq_some_iff_append] at h
  exact h.1

/-- No phrase that fails moves the cursor for the next one. -/
theorem firstMatch_eq (c : Cursor) (unfinished : Bool) (ps : List Phrase) :
    firstMatch c unfinished ps =
      let words := c.remaining.map Token.lexeme
      match ps.find? fun p => Slot.fits p.slots words with
      | some p => .ok (c.remaining.take p.slots.length, p.resolve (words.take p.slots.length),
          c.skip p.slots.length)
      | none =>
        .error (if unfinished || ps.any fun p => !(Slot.begun p.slots words).isEmpty then
          .incompleteArgument else .unknownArgument) := by
  induction ps generalizing unfinished with
  | nil => simp [firstMatch]
  | cons p ps ih =>
    rw [firstMatch, p.attempt_eq, Cursor.remaining_save]
    by_cases hfits : Slot.fits p.slots (c.remaining.map Token.lexeme) = true
    · have hlen := Slot.length_le_of_fits hfits
      rw [List.length_map] at hlen
      simp [Phrase.outcome, hfits, Slot.begun_of_fits hfits, Slot.reach_of_fits hfits, hlen]
    · simp [Phrase.outcome, hfits, ih, Phrase.isEmpty_take_begun, Bool.or_assoc]

theorem compileFilter_of_nil {c : Cursor} (h : c.remaining = []) :
    g.compileFilter c = .error ⟨c.startPosition, .empty⟩ := by
  rw [compileFilter, Cursor.next_of_remaining_nil h]

theorem compileFilter_of_cons {c : Cursor} {t : Token} {ts : List Token}
    (h : c.remaining = t :: ts) :
    g.compileFilter c =
      match g.filter? t.lexeme with
      | some filter => .ok (filter, c.skip 1)
      | none => .error ⟨t.position, .unknownFilter t.lexeme⟩ := by
  cases hf : g.filter? t.lexeme <;>
    simp only [compileFilter, Cursor.next_of_remaining_cons h, hf]

theorem compileOperator_of_nil {filter : Filter} {c : Cursor} (h : c.remaining = []) :
    g.compileOperator filter c = .error ⟨c.stopPosition, .missingOperator⟩ := by
  rw [compileOperator, Cursor.next_of_remaining_nil h]

theorem compileOperator_of_cons {filter : Filter} {c : Cursor} {t : Token} {ts : List Token}
    (h : c.remaining = t :: ts) :
    g.compileOperator filter c =
      match g.operator? t.lexeme with
      | none => .error ⟨t.position, .unknownOperator t.lexeme⟩
      | some operator =>
        if operator.suits filter.type then .ok (operator, c.skip 1)
        else .error ⟨t.position, .unsuitedOperator t.lexeme filter.type.name⟩ := by
  cases ho : g.operator? t.lexeme <;>
    simp only [compileOperator, Cursor.next_of_remaining_cons h, ho]

theorem compileArgument_of_nil {filter : Filter} {c : Cursor} (h : c.remaining = []) :
    g.compileArgument filter c = .error ⟨c.stopPosition, .missingArgument⟩ := by
  rw [compileArgument, Cursor.peek_eq_head?, h, List.head?_nil]

theorem compileArgument_of_cons {filter : Filter} {c : Cursor} {t : Token} {ts : List Token}
    (h : c.remaining = t :: ts) :
    g.compileArgument filter c =
      match g.chosen? filter.type ((t :: ts).map Token.lexeme) with
      | none => .error ⟨t.position, g.argumentFault filter.type ((t :: ts).map Token.lexeme)⟩
      | some p => .ok (⟨filter.type,
          " ".intercalate (((t :: ts).map Token.lexeme).take p.slots.length),
          p.resolve (((t :: ts).map Token.lexeme).take p.slots.length)⟩,
          c.skip p.slots.length) := by
  rw [compileArgument, Cursor.peek_eq_head?, h, List.head?_cons, firstMatch_eq, h]
  simp only [chosen?, argumentFault, Bool.false_or]
  cases (g.phrasesFor filter.type).find? fun p =>
      Slot.fits p.slots ((t :: ts).map Token.lexeme) with
  | none => rfl
  | some p => simp only [List.map_take]

/-- The last two stages: the argument, and nothing after it. -/
theorem compileArgument_bind_end (filter : Filter) (operator : Operator) {c : Cursor} {t : Token}
    {ts : List Token} (h : c.remaining = t :: ts) (htokens : c.tokens.drop 2 = c.remaining) :
    (do
      let (argument, c) ← g.compileArgument filter c
      match c.peek with
      | some extra => throw ⟨extra.position, .trailingInput extra.lexeme⟩
      | none => return ⟨filter, operator, argument⟩) =
      (g.interpretArgument filter operator ((t :: ts).map Token.lexeme)).mapError
        fun e => ⟨e.1.position c.tokens, e.2⟩ := by
  have hword (n : Nat) : c.tokens[2 + n]? = (t :: ts)[n]? := by
    rw [← h, ← htokens, List.getElem?_drop]
  rw [compileArgument_of_cons g h, interpretArgument]
  cases g.chosen? filter.type ((t :: ts).map Token.lexeme) with
  | none => simp [bind, Except.bind, Except.mapError, Place.position, hword 0]
  | some p =>
    have hpeek : (c.skip p.slots.length).peek = (t :: ts)[p.slots.length]? := by
      rw [Cursor.peek_eq_head?, Cursor.remaining_skip, h, List.head?_drop]
    simp only [bind, Except.bind, hpeek, ← List.map_drop]
    cases hdrop : (t :: ts).drop p.slots.length with
    | nil =>
      have hlen : (t :: ts).length ≤ p.slots.length := List.drop_eq_nil_iff.1 hdrop
      rw [List.getElem?_eq_none hlen, List.take_of_length_le (by simpa using hlen)]
      rfl
    | cons extra rest =>
      have hextra : (t :: ts)[p.slots.length]? = some extra := by
        rw [← List.head?_drop, hdrop, List.head?_cons]
      simp [hextra, hword, Except.mapError, Place.position, throw, throwThe, MonadExceptOf.throw]

/-- The compiler reads nothing of a literal but its words; their places only locate a fault. -/
theorem compile_eq_interpret (literal : String) :
    g.compile literal = (g.interpret (Text.words literal)).mapError
      fun e => ⟨e.1.position (Token.scan g literal), e.2⟩ := by
  rw [compile, ← Token.map_lexeme_scan g literal]
  -- From here on the cursor is any that stands before its first token.
  generalize hc : Cursor.start g literal = c
  have htokens : Token.scan g literal = c.tokens := by rw [← hc, Cursor.tokens_start]
  have hrest : c.remaining = c.tokens := by rw [← hc, Cursor.remaining_start, Cursor.tokens_start]
  rw [htokens]
  cases hts : c.tokens with
  | nil =>
    rw [compileFilter_of_nil g (hrest.trans hts)]
    simp [Cursor.startPosition, hts, interpret, Except.mapError, Place.position, bind, Except.bind]
  | cons t ts =>
    have hrest₁ : (c.skip 1).remaining = ts := by simp [hrest, hts]
    rw [compileFilter_of_cons g (hrest.trans hts), List.map_cons, interpret]
    cases g.filter? t.lexeme with
    | none => rfl
    | some filter =>
      simp only [bind, Except.bind]
      cases hts₁ : ts with
      | nil =>
        rw [compileOperator_of_nil g (hrest₁.trans hts₁)]
        simp [Cursor.stopPosition, hts, hts₁, Except.mapError, Place.position]
      | cons u us =>
        have hrest₂ : (c.skip 2).remaining = us := by simp [hrest, hts, hts₁]
        rw [compileOperator_of_cons g (hrest₁.trans hts₁), List.map_cons, Cursor.skip_skip]
        dsimp only
        cases g.operator? u.lexeme with
        | none => rfl
        | some operator =>
          by_cases hsuits : operator.suits filter.type = true
          · simp only [hsuits, if_true]
            cases hts₂ : us with
            | nil =>
              rw [compileArgument_of_nil g (hrest₂.trans hts₂)]
              simp [Cursor.stopPosition, hts, hts₁, hts₂, Except.mapError, Place.position]
            | cons v vs =>
              have hend := compileArgument_bind_end g filter operator (hrest₂.trans hts₂)
                (by simp [hrest])
              rw [Cursor.tokens_skip, hts, hts₁, hts₂] at hend
              exact hend
          · simp only [hsuits]
            rfl

variable {g}

theorem within_of_interpretArgument {filter : Filter} {operator : Operator}
    {name symbol word : String} {words : List String} {e : Place × LiteralFault}
    (h : g.interpretArgument filter operator (word :: words) = .error e) :
    e.1.Within (name :: symbol :: word :: words) := by
  unfold interpretArgument at h
  split at h
  · cases h
    exact .inl (by simp)
  · rename_i p _
    split at h
    · rename_i extra rest hrest
      cases h
      have hlength := congrArg List.length hrest
      simp only [List.length_drop, List.length_cons] at hlength
      exact .inl (by simp only [List.length_cons]; omega)
    · cases h

/-- A fault lies where a word stands, or behind the last one if a word is missing. -/
theorem within_of_interpret {words : List String} {e : Place × LiteralFault}
    (h : g.interpret words = .error e) : e.1.Within words := by
  unfold interpret at h
  split at h
  · cases h
    exact .inr ⟨rfl, rfl⟩
  · split at h
    · cases h
      exact .inl (by simp)
    · split at h
      · cases h
        exact List.cons_ne_nil _ _
      · split at h
        · cases h
          exact .inl (by simp)
        · split at h
          · split at h
            · cases h
              exact List.cons_ne_nil _ _
            · exact within_of_interpretArgument h
          · cases h
            exact .inl (by simp)

variable (g)

/-- A fault that is told without its place is the same for the same words. -/
theorem mapError_message_compile_of_words_eq {s t : String} (h : Text.words s = Text.words t) :
    (g.compile s).mapError LiteralError.message = (g.compile t).mapError LiteralError.message := by
  rw [compile_eq_interpret, compile_eq_interpret, h]
  cases g.interpret (Text.words t) with
  | error e => rfl
  | ok p => rfl

end Grammar

end SearchBox
