import SearchBox.Completion.Suggest
import SearchBox.Proofs.Grammar.Lookup
import SearchBox.Proofs.Phrase.Matching

namespace SearchBox

namespace Grammar

variable (g : Grammar)

/-- The examples of all phrases for an argument of which no word is typed. -/
def openCompletions (f : Filter) (o : Operator) : List Completion :=
  (g.phrasesFor f.type).flatMap fun p => (p.examples []).map (.ofExample f o 0)

/-- The examples of the phrases that take some of the words, each for the words it takes. -/
def begunCompletions (f : Filter) (o : Operator) (words : List String) : List Completion :=
  (g.phrasesFor f.type).flatMap fun p =>
    let typed := Slot.begun p.slots words
    if typed.isEmpty then [] else (p.examples typed).map (.ofExample f o (Text.letters typed))

/-- The completions of a list of words in the order of declaration. The last word may still be
growing unless it is `finished`. -/
def completions (finished : Bool) : List String → List Completion
  | [] => g.filters.map .ofFilter
  | [name] =>
    match g.filtersStartingWith name with
    | [f] => if finished then g.suggestOperators f else [.ofFilter f]
    | filters => filters.map .ofFilter
  | [name, symbol] =>
    match g.filter? name with
    | none => []
    | some f =>
      match (g.operatorsFor f.type).filter (·.startsWith symbol) with
      | [o] => if finished then g.openCompletions f o else [.ofOperator f o]
      | operators => operators.map (.ofOperator f)
  | name :: symbol :: words =>
    match g.filter? name, g.operator? symbol with
    | some f, some o => if o.suits f.type then g.begunCompletions f o words else []
    | _, _ => []

variable {g}

theorem of_mem_suggestOperators {f : Filter} {c : Completion} (h : c ∈ g.suggestOperators f) :
    c = .ofFilter f ∨ ∃ o ∈ g.operatorsFor f.type, c = .ofOperator f o := by
  unfold suggestOperators at h
  split at h
  · exact .inl (List.mem_singleton.1 h)
  · obtain ⟨o, ho, rfl⟩ := List.mem_map.1 h
    exact .inr ⟨o, ho, rfl⟩

/-- The filter stage offers filters that start like the word, and the operators of a lone one. -/
theorem of_mem_completions_singleton {finished : Bool} {typed : String} {c : Completion}
    (h : c ∈ g.completions finished [typed]) :
    ∃ f ∈ g.filtersStartingWith typed, c = .ofFilter f ∨ c ∈ g.suggestOperators f := by
  rw [completions] at h
  generalize g.filtersStartingWith typed = filters at h ⊢
  split at h
  · rename_i f
    refine ⟨f, List.mem_singleton_self f, ?_⟩
    split at h
    · exact .inr h
    · exact .inl (List.mem_singleton.1 h)
  · obtain ⟨f, hf, rfl⟩ := List.mem_map.1 h
    exact ⟨f, hf, .inl rfl⟩

/-- The operator stage offers operators that start like the second word, and the examples of a lone
one. -/
theorem of_mem_completions_pair {finished : Bool} {name typed : String} {c : Completion}
    (h : c ∈ g.completions finished [name, typed]) :
    ∃ f o, g.filter? name = some f ∧ o ∈ g.operatorsFor f.type ∧ o.startsWith typed = true ∧
      (c = .ofOperator f o ∨ c ∈ g.openCompletions f o) := by
  cases hf : g.filter? name with
  | none => simp [completions, hf] at h
  | some f =>
    simp only [completions, hf] at h
    have hstarts : ∀ o ∈ (g.operatorsFor f.type).filter (·.startsWith typed),
        o ∈ g.operatorsFor f.type ∧ o.startsWith typed = true := fun o => List.mem_filter.1
    generalize (g.operatorsFor f.type).filter (·.startsWith typed) = operators at h hstarts
    split at h
    · rename_i o
      obtain ⟨ho, hstart⟩ := hstarts o (List.mem_singleton_self o)
      refine ⟨f, o, rfl, ho, hstart, ?_⟩
      split at h
      · exact .inr h
      · exact .inl (List.mem_singleton.1 h)
    · obtain ⟨o, hmem, rfl⟩ := List.mem_map.1 h
      obtain ⟨ho, hstart⟩ := hstarts o hmem
      exact ⟨f, o, rfl, ho, hstart, .inl rfl⟩

/-- What a phrase offers depends on the words ahead and on nothing else of the cursor. -/
theorem suggestPhrase_fst (f : Filter) (o : Operator) (p : Phrase) (c : Cursor) :
    (suggestPhrase f o p c).1 =
      let words := c.remaining.map Token.lexeme
      let typed := Slot.begun p.slots words
      if words.isEmpty then (p.examples []).map (.ofExample f o 0)
      else if typed.isEmpty && !Slot.fits p.slots words then []
      else (p.examples typed).map (.ofExample f o (Text.letters typed)) := by
  have hattempt : (p.attempt c.save).1 = p.outcome c.remaining := by
    rw [p.attempt_eq, Cursor.remaining_save]
  have hlexemes := p.lexemes_outcome c.remaining
  have hweight := (p.outcome c.remaining).weight_eq_letters
  have houtcome := p.outcome_eq_failure_false_iff c.remaining
  rw [suggestPhrase, Cursor.isDone_eq]
  dsimp only
  rw [List.isEmpty_map, ← hlexemes, ← hweight, hlexemes]
  split
  · rfl
  · generalize p.attempt c.save = result at hattempt
    obtain ⟨attempt, reached⟩ := result
    obtain rfl : attempt = p.outcome c.remaining := hattempt
    by_cases hruled : Slot.begun p.slots (c.remaining.map Token.lexeme) = [] ∧
        Slot.fits p.slots (c.remaining.map Token.lexeme) = false
    · obtain ⟨ts, hfailure⟩ := houtcome.2 hruled
      simp [hfailure, hruled]
    · split
      · rename_i ts _ hfailure
        exact absurd (houtcome.1 ⟨ts, (Prod.mk.inj hfailure).1⟩) hruled
      · rename_i heq
        obtain ⟨rfl, rfl⟩ := Prod.mk.inj heq
        rw [if_neg (by simpa using hruled), hlexemes]

/-- The attempt returns to the place saved for it, so the next phrase starts where this one did. -/
theorem suggestPhrase_snd (f : Filter) (o : Operator) (p : Phrase) (c : Cursor) :
    (suggestPhrase f o p c).2 = c := by
  have hundo := p.undo_attempt_save c
  rw [suggestPhrase]
  split
  · rfl
  · split
    · rename_i heq
      rwa [heq] at hundo
    · rename_i heq
      rwa [heq] at hundo

/-- Where no visit leaves the cursor elsewhere, each of them starts from the same place. -/
theorem visitEach_eq {α : Type} {visit : α → Cursor → List Completion × Cursor} {xs : List α}
    {c : Cursor} (h : ∀ x ∈ xs, (visit x c).2 = c) :
    visitEach visit xs c = (xs.flatMap fun x => (visit x c).1, c) := by
  induction xs with
  | nil => rfl
  | cons x xs ih =>
    obtain ⟨hx, hxs⟩ := List.forall_mem_cons.1 h
    rw [visitEach]
    dsimp only
    rw [hx, ih hxs, List.flatMap_cons]

/-- A branch that only steps forward leaves the cursor where it was. -/
theorem branch_eq {visit : Cursor → List Completion × Cursor} {c : Cursor} {n : Nat}
    (h : (visit c.save).2 = c.save.skip n) : branch visit c = ((visit c.save).1, c) := by
  rw [branch]
  dsimp only
  rw [h, Cursor.undo_skip_save]

theorem visitEach_branch_eq {α : Type} {visit : α → Cursor → List Completion × Cursor}
    (h : ∀ x c, branch (visit x) c = ((visit x c.save).1, c)) (xs : List α) (c : Cursor) :
    visitEach (fun x => branch (visit x)) xs c = (xs.flatMap fun x => (visit x c.save).1, c) := by
  rw [visitEach_eq fun x _ => by rw [h]]
  simp only [h]

theorem suggestArguments_eq (f : Filter) (o : Operator) (c : Cursor) :
    g.suggestArguments f o c =
      ((g.phrasesFor f.type).flatMap fun p => (suggestPhrase f o p c).1, c) :=
  visitEach_eq fun p _ => suggestPhrase_snd f o p c

theorem branch_suggestArguments (f : Filter) (o : Operator) (c : Cursor) :
    branch (g.suggestArguments f o) c = ((g.suggestArguments f o c.save).1, c) :=
  branch_eq (n := 0) (by rw [suggestArguments_eq, Cursor.skip_zero])

/-- Behind a filter the cursor steps over the operator at most. -/
theorem exists_suggestAfterFilter_snd (f : Filter) (c : Cursor) :
    ∃ n, (g.suggestAfterFilter f c).2 = c.skip n := by
  cases hc : c.remaining with
  | nil =>
    rw [suggestAfterFilter, Cursor.next_of_remaining_nil hc]
    exact ⟨0, rfl⟩
  | cons t ts =>
    refine ⟨1, ?_⟩
    simp only [suggestAfterFilter, Cursor.next_of_remaining_cons hc]
    split
    · split
      · split
        · rw [suggestArguments_eq]
        · rfl
      · rfl
    · rw [visitEach_branch_eq (branch_suggestArguments f)]

theorem branch_suggestAfterFilter (f : Filter) (c : Cursor) :
    branch (g.suggestAfterFilter f) c = ((g.suggestAfterFilter f c.save).1, c) :=
  have ⟨_, hreached⟩ := g.exists_suggestAfterFilter_snd f c.save
  branch_eq hreached

theorem suggestPhrase_of_nil {f : Filter} {o : Operator} {c : Cursor} (h : c.remaining = [])
    (p : Phrase) : (suggestPhrase f o p c).1 = (p.examples []).map (.ofExample f o 0) := by
  rw [suggestPhrase_fst, h]
  rfl

/-- A phrase with slots is ruled out exactly when it takes none of the words. -/
theorem suggestPhrase_of_cons {f : Filter} {o : Operator} {c : Cursor} {t : Token}
    {ts : List Token} (h : c.remaining = t :: ts) {p : Phrase} (hslots : p.slots ≠ []) :
    (suggestPhrase f o p c).1 =
      let typed := Slot.begun p.slots (c.remaining.map Token.lexeme)
      if typed.isEmpty then []
      else (p.examples typed).map (.ofExample f o (Text.letters typed)) := by
  rw [suggestPhrase_fst]
  dsimp only
  rw [h, List.map_cons, List.isEmpty_cons, if_neg Bool.false_ne_true]
  by_cases hnil : Slot.begun p.slots (t.lexeme :: ts.map Token.lexeme) = []
  · have hfits : Slot.fits p.slots (t.lexeme :: ts.map Token.lexeme) = false := by
      by_contra hfits
      exact Slot.begun_ne_nil_of_fits hslots (by simpa using hfits) hnil
    simp [hnil, hfits]
  · simp [hnil]

theorem suggestArguments_of_nil {f : Filter} {o : Operator} {c : Cursor}
    (h : c.remaining = []) : (g.suggestArguments f o c).1 = g.openCompletions f o := by
  rw [suggestArguments_eq, openCompletions]
  exact List.flatMap_congr fun p _ => suggestPhrase_of_nil h p

theorem suggestArguments_of_cons (hslots : ∀ p ∈ g.phrases, p.slots ≠ []) {f : Filter}
    {o : Operator} {c : Cursor} {t : Token} {ts : List Token} (h : c.remaining = t :: ts) :
    (g.suggestArguments f o c).1 = g.begunCompletions f o (c.remaining.map Token.lexeme) := by
  rw [suggestArguments_eq, begunCompletions]
  exact List.flatMap_congr fun p hp =>
    suggestPhrase_of_cons h (hslots p (List.mem_of_mem_filter hp))

theorem suggestAfterFilter_of_singleton {f : Filter} {c : Cursor} {t : Token}
    (h : c.remaining = [t]) :
    (g.suggestAfterFilter f c).1 =
      match (g.operatorsFor f.type).filter (·.startsWith t.lexeme) with
      | [o] => if c.endsBlank then g.openCompletions f o else [.ofOperator f o]
      | operators => operators.map (.ofOperator f) := by
  have hrest : (c.skip 1).remaining = [] := by simp [h]
  have hdone : (c.skip 1).isDone = true := by rw [Cursor.isDone_eq, hrest, List.isEmpty_nil]
  simp only [suggestAfterFilter, Cursor.next_of_remaining_cons h, hdone, if_true]
  generalize (g.operatorsFor f.type).filter (·.startsWith t.lexeme) = operators
  rcases operators with _ | ⟨o, _ | ⟨o', operators⟩⟩
  · rfl
  · show (if (c.skip 1).endsBlank = true then _ else _ : List Completion × Cursor).1 =
      if (c.skip 1).endsBlank = true then _ else _
    split
    · exact suggestArguments_of_nil hrest
    · rfl
  · rfl

namespace WellFormed

variable (hg : g.WellFormed)

include hg

theorem suggestAfterFilter_of_cons_cons {f : Filter} {c : Cursor} {t u : Token} {ts : List Token}
    (h : c.remaining = t :: u :: ts) :
    (g.suggestAfterFilter f c).1 =
      match g.operator? t.lexeme with
      | some o =>
        if o.suits f.type then g.begunCompletions f o ((u :: ts).map Token.lexeme) else []
      | none => [] := by
  have hrest : (c.skip 1).save.remaining = u :: ts := by simp [h]
  have hdone : (c.skip 1).isDone = false := by
    rw [Cursor.isDone_eq, ← Cursor.remaining_save, hrest, List.isEmpty_cons]
  simp only [suggestAfterFilter, Cursor.next_of_remaining_cons h, hdone, Bool.false_eq_true,
    if_false, hg.operatorsFor_isSpelled, visitEach_branch_eq (branch_suggestArguments f),
    suggestArguments_of_cons hg.slots_ne_nil hrest, hrest]
  cases g.operator? t.lexeme with
  | none => rfl
  | some o => by_cases ho : o.suits f.type = true <;> simp [Option.filter, ho]

/-- The traversal of the grammar reads nothing but the words that remain and whether a blank ends
the last of them. -/
theorem suggestUnranked_fst (c : Cursor) :
    (g.suggestUnranked c).1 = g.completions c.endsBlank (c.remaining.map Token.lexeme) := by
  cases hc : c.remaining with
  | nil =>
    rw [suggestUnranked, Cursor.next_of_remaining_nil hc]
    rfl
  | cons t ts =>
    have hrest : (c.skip 1).save.remaining = ts := by simp [hc]
    have hdone : (c.skip 1).isDone = ts.isEmpty := by
      rw [Cursor.isDone_eq, ← Cursor.remaining_save, hrest]
    simp only [suggestUnranked, Cursor.next_of_remaining_cons hc, hdone, hg.filter_isSpelled]
    cases ts with
    | nil =>
      simp only [List.isEmpty_nil, if_true, List.map_cons, List.map_nil, completions,
        Cursor.endsBlank_skip]
      generalize g.filtersStartingWith t.lexeme = filters
      rcases filters with _ | ⟨f, _ | ⟨f', filters⟩⟩ <;> rfl
    | cons u ts =>
      rw [List.isEmpty_cons, if_neg Bool.false_ne_true,
        visitEach_branch_eq branch_suggestAfterFilter]
      -- At most one filter is spelled so, and the rest of the words is left to it.
      cases hf : g.filter? t.lexeme with
      | none => cases ts <;> simp [completions, hf]
      | some f =>
        rw [Option.toList_some, List.flatMap_singleton]
        cases ts with
        | nil =>
          rw [suggestAfterFilter_of_singleton hrest]
          simp only [List.map_cons, List.map_nil, completions, hf]
          rfl
        | cons v ts =>
          rw [hg.suggestAfterFilter_of_cons_cons hrest]
          simp only [List.map_cons, completions, hf]
          cases g.operator? u.lexeme <;> rfl

theorem suggest_eq (literal : String) :
    g.suggest literal =
      Ranked.sort (fun c => c.weight)
        (g.completions (Text.endsBlank literal) (Text.words literal)) := by
  rw [suggest, hg.suggestUnranked_fst, Cursor.endsBlank_start, Cursor.remaining_start,
    Token.map_lexeme_scan]

theorem suggest_of_words_eq {s t : String} (hwords : Text.words s = Text.words t)
    (hblank : Text.endsBlank s = Text.endsBlank t) : g.suggest s = g.suggest t := by
  rw [hg.suggest_eq, hg.suggest_eq, hwords, hblank]

theorem mem_suggest {literal : String} {c : Completion} :
    c ∈ g.suggest literal ↔ c ∈ g.completions (Text.endsBlank literal) (Text.words literal) := by
  rw [hg.suggest_eq, Ranked.mem_sort]

end WellFormed

end Grammar

end SearchBox
