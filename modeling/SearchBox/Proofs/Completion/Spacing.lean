import SearchBox.Proofs.Completion.Stages
import SearchBox.Proofs.Predicate.Interpretation
import SearchBox.Proofs.Token.Places

namespace SearchBox

theorem Place.Within.samePlace {g : Grammar} {s t : String} {place : Place}
    (hs : place.Within (Text.words s)) (h : Text.words s = Text.words t) :
    Text.SamePlace s t (place.position (Token.scan g s)) (place.position (Token.scan g t)) := by
  have hlength (text : String) : (Token.scan g text).length = (Text.words text).length := by
    rw [← Token.map_lexeme_scan g text, List.length_map]
  have hlengths : (Token.scan g t).length = (Token.scan g s).length := by
    rw [hlength, hlength, h]
  cases place with
  | word index =>
    rcases hs with hindex | ⟨hnil, rfl⟩
    · rw [← hlength] at hindex
      have hsome := List.getElem?_eq_getElem hindex
      have hsome' := List.getElem?_eq_getElem (hlengths ▸ hindex)
      simp only [position, hsome, hsome', Option.map_some, Option.getD_some]
      exact .word (Token.wordAt_of_getElem? g hsome) (Token.wordAt_of_getElem? g hsome')
    · have hscan : Token.scan g s = [] := List.length_eq_zero_iff.1 (by rw [hlength, hnil]; rfl)
      have hscan' : Token.scan g t = [] := List.length_eq_zero_iff.1 (by rw [hlengths, hscan]; rfl)
      simp only [position, hscan, hscan']
      exact .zero hnil (h ▸ hnil)
  | afterLast =>
    have hne : Token.scan g s ≠ [] := by
      intro hnil
      exact hs (List.length_eq_zero_iff.1 (by rw [← hlength, hnil]; rfl))
    have hne' : Token.scan g t ≠ [] := by
      intro hnil
      exact hne (List.length_eq_zero_iff.1 (by rw [← hlengths, hnil]; rfl))
    have hlast := List.getLast?_eq_getLast_of_ne_nil hne
    have hlast' := List.getLast?_eq_getLast_of_ne_nil hne'
    simp only [position, hlast, hlast', Option.map_some, Option.getD_some]
    exact .stop (Token.wordsStop_of_getLast? g hlast) (Token.wordsStop_of_getLast? g hlast')

/-- Two cursors before the same words, both with a finished last word or neither. -/
structure Cursor.Alike (c c' : Cursor) : Prop where
  words_eq : c.remaining.map Token.lexeme = c'.remaining.map Token.lexeme
  endsBlank_eq : c.endsBlank = c'.endsBlank

namespace Cursor.Alike

variable {c c' : Cursor} (h : c.Alike c')

include h

theorem save : c.save.Alike c'.save := ⟨h.words_eq, h.endsBlank_eq⟩

theorem isDone_eq : c.isDone = c'.isDone := by
  rw [Cursor.isDone_eq, Cursor.isDone_eq, ← List.isEmpty_map (f := Token.lexeme), h.words_eq,
    List.isEmpty_map]

/-- Both are at their end, or both step over the same word. -/
theorem next : (c.next = (none, c) ∧ c'.next = (none, c')) ∨
    ∃ t t', c.next = (some t, c.skip 1) ∧ c'.next = (some t', c'.skip 1) ∧
      t.lexeme = t'.lexeme ∧ (c.skip 1).Alike (c'.skip 1) := by
  have hwords := h.words_eq
  cases hc : c.remaining with
  | nil =>
    rw [hc] at hwords
    have hc' : c'.remaining = [] := List.map_eq_nil_iff.1 hwords.symm
    exact .inl ⟨next_of_remaining_nil hc, next_of_remaining_nil hc'⟩
  | cons t ts =>
    rw [hc] at hwords
    obtain ⟨t', ts', hc', hlexeme, hrest⟩ := List.map_eq_cons_iff.1 hwords.symm
    refine .inr ⟨t, t', next_of_remaining_cons hc, next_of_remaining_cons hc', hlexeme.symm, ?_,
      h.endsBlank_eq⟩
    rw [remaining_skip, remaining_skip, hc, hc']
    exact hrest.symm

end Cursor.Alike

namespace Grammar

variable {g : Grammar} {c c' : Cursor}

theorem suggestPhrase_of_alike (h : c.Alike c') (f : Filter) (o : Operator) (p : Phrase) :
    (suggestPhrase f o p c).1 = (suggestPhrase f o p c').1 := by
  rw [suggestPhrase_fst, suggestPhrase_fst, h.words_eq]

theorem suggestArguments_of_alike (h : c.Alike c') (f : Filter) (o : Operator) :
    (g.suggestArguments f o c).1 = (g.suggestArguments f o c').1 := by
  rw [suggestArguments_eq, suggestArguments_eq]
  exact List.flatMap_congr fun p _ => suggestPhrase_of_alike h f o p

theorem suggestAfterFilter_of_alike (h : c.Alike c') (f : Filter) :
    (g.suggestAfterFilter f c).1 = (g.suggestAfterFilter f c').1 := by
  rcases h.next with ⟨hc, hc'⟩ | ⟨t, t', hc, hc', hlexeme, hrest⟩
  · simp only [suggestAfterFilter, hc, hc']
  · simp only [suggestAfterFilter, hc, hc', hlexeme, hrest.isDone_eq, hrest.endsBlank_eq]
    split
    · split
      · split
        · exact suggestArguments_of_alike hrest f _
        · rfl
      · rfl
    · simp only [visitEach_branch_eq (branch_suggestArguments f),
        suggestArguments_of_alike hrest.save]

theorem suggestUnranked_of_alike (h : c.Alike c') :
    (g.suggestUnranked c).1 = (g.suggestUnranked c').1 := by
  rcases h.next with ⟨hc, hc'⟩ | ⟨t, t', hc, hc', hlexeme, hrest⟩
  · simp only [suggestUnranked, hc, hc']
  · simp only [suggestUnranked, hc, hc', hlexeme, hrest.isDone_eq, hrest.endsBlank_eq]
    split
    · split <;> rfl
    · simp only [visitEach_branch_eq branch_suggestAfterFilter,
        suggestAfterFilter_of_alike hrest.save]

theorem suggest_of_words_eq_nil {s : String} (h : Text.words s = []) :
    g.suggest s = Ranked.sort (fun c => c.weight) (g.filters.map .ofFilter) := by
  have hc : (Cursor.start g s).remaining = [] := by
    rw [Cursor.remaining_start]
    exact List.map_eq_nil_iff.1 ((Token.map_lexeme_scan g s).trans h)
  simp only [suggest, suggestUnranked, Cursor.next_of_remaining_nil hc]

theorem alike_start {s t : String} (h : Text.words s = Text.words t)
    (hblank : Text.endsBlank s = Text.endsBlank t) : (Cursor.start g s).Alike (.start g t) where
  words_eq := by simpa using h
  endsBlank_eq := by simpa using hblank

/-- How a literal is spaced makes no difference, but for a blank at the end: that one finishes the
last word for the suggestions. Faults of the same words lie at the same place. -/
theorem compile_and_suggest_of_words_eq (g : Grammar) {s t : String}
    (h : Text.words s = Text.words t) :
    ((∃ p, g.compile s = .ok p ∧ g.compile t = .ok p) ∨
      ∃ e e', g.compile s = .error e ∧ g.compile t = .error e' ∧ e.message = e'.message ∧
        Text.SamePlace s t e.position e'.position) ∧
    (Text.endsBlank s = Text.endsBlank t ∨ Text.words s = [] → g.suggest s = g.suggest t) := by
  constructor
  · rw [compile_eq_interpret g s, compile_eq_interpret g t, ← h]
    cases hr : g.interpret (Text.words s) with
    | ok p => exact .inl ⟨p, rfl, rfl⟩
    | error e => exact .inr ⟨_, _, rfl, rfl, rfl, (within_of_interpret hr).samePlace h⟩
  · rintro (hblank | hnil)
    · rw [suggest, suggest, suggestUnranked_of_alike (alike_start h hblank)]
    · rw [suggest_of_words_eq_nil hnil, suggest_of_words_eq_nil (h ▸ hnil)]

theorem compile_and_suggest_of_spaced_reminder :
    Text.words "due   ??? \t12:30" = Text.words "\ndue ??? 12:30" ∧
      reminderGrammar.compile "due   ??? \t12:30" = .error ⟨6, .unknownOperator "???"⟩ ∧
      reminderGrammar.compile "\ndue ??? 12:30" = .error ⟨5, .unknownOperator "???"⟩ ∧
      Text.SamePlace "due   ??? \t12:30" "\ndue ??? 12:30" 6 5 ∧
      reminderGrammar.suggest "due   ??? \t12:30" = reminderGrammar.suggest "\ndue ??? 12:30" := by
  have hwords : Text.words "due   ??? \t12:30" = Text.words "\ndue ??? 12:30" := rfl
  obtain ⟨⟨p, hp, -⟩ | ⟨e, e', he, he', -, hplace⟩, hsuggest⟩ :=
    compile_and_suggest_of_words_eq reminderGrammar hwords
  · cases hp
  · cases he
    cases he'
    exact ⟨hwords, rfl, rfl, hplace, hsuggest (.inl rfl)⟩

end Grammar

end SearchBox
