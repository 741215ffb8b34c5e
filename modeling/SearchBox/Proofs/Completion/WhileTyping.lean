import SearchBox.Proofs.Completion.Agreement

namespace SearchBox

open Text (Typing)

/-- The words stop inside the first word of an argument, and a parameter that the whole word suits
refuses what is there of it. -/
def Phrase.CutsParameter (m : Phrase) (name symbol word : String) (words : List String) : Prop :=
  ∃ typed t slots, words = [name, symbol, typed] ∧ startsWith typed word = true ∧ typed ≠ word ∧
    m.slots = .parameter t :: slots ∧ t.accepts typed = false

/-- A keyword can be seen coming, a parameter cannot. -/
theorem Slot.parameter_of_begun_eq_nil {slot : Slot} {slots : List Slot} {typed word : String}
    {rest words : List String} (h : Typing (typed :: rest) (word :: words))
    (haccepts : slot.accepts word = true) (hnil : begun (slot :: slots) (typed :: rest) = []) :
    rest = [] ∧ startsWith typed word = true ∧ typed ≠ word ∧
      ∃ t, slot = .parameter t ∧ t.accepts typed = false := by
  have hrejects : ¬ (slot.accepts typed = true ∨ slot.Begins typed) :=
    mt (begun_cons_ne_nil_iff slot slots typed rest).2 (not_not_intro hnil)
  have hne : typed ≠ word := by
    rintro rfl
    exact hrejects (.inl haccepts)
  have hrest : rest = [] := by
    cases rest with
    | nil => rfl
    | cons next rest => exact absurd h.tail.1 hne
  refine ⟨hrest, h.head, hne, ?_⟩
  cases slot with
  | parameter t => exact ⟨t, rfl, Bool.eq_false_iff.2 fun ht => hrejects (.inl ht)⟩
  | keyword aliases =>
    have hword : word ∈ aliases := List.contains_iff_mem.1 haccepts
    have hbegins : typed.toList <+: word.toList := List.isPrefixOf_iff_prefix.1 h.head
    exact absurd (.inr ⟨aliases, rfl, word, hword, hbegins⟩) hrejects

namespace Grammar

variable {g : Grammar}

theorem exists_mem_suggestOperators (f : Filter) : ∃ c ∈ g.suggestOperators f, c.filter = f := by
  rw [suggestOperators]
  cases g.operatorsFor f.type with
  | nil => exact ⟨.ofFilter f, List.mem_singleton_self _, rfl⟩
  | cons o operators => exact ⟨.ofOperator f o, List.mem_cons_self, rfl⟩

theorem exists_mem_openCompletions {f : Filter} {m : Phrase} (hm : m ∈ g.phrasesFor f.type)
    (o : Operator) : ∃ c ∈ g.openCompletions f o, c.filter = f ∧ c.operator = some o := by
  obtain ⟨e, he⟩ := List.exists_mem_of_ne_nil _ (m.examples_ne_nil [])
  exact ⟨.ofExample f o 0 e, List.mem_flatMap.2 ⟨m, hm, List.mem_map_of_mem he⟩, rfl, rfl⟩

/-- Other filters that start alike only add to the choice. -/
theorem exists_mem_completions_of_name (finished : Bool) {f : Filter} {name typed : String}
    (hf : f ∈ g.filters) (hname : name ∈ f.spellings) (h : startsWith typed name = true) :
    ∃ c ∈ g.completions finished [typed], c.filter = f := by
  have hmem : f ∈ g.filtersStartingWith typed :=
    List.mem_filter.2 ⟨hf, List.any_eq_true.2 ⟨name, hname, h⟩⟩
  rw [completions]
  -- A lone filter may stand for its operators; one of several stands for itself.
  generalize g.filtersStartingWith typed = filters at hmem ⊢
  rcases filters with _ | ⟨f₁, _ | ⟨f₂, filters⟩⟩
  · exact absurd hmem List.not_mem_nil
  · obtain rfl := List.mem_singleton.1 hmem
    cases finished with
    | true => exact exists_mem_suggestOperators f
    | false => exact ⟨.ofFilter f, List.mem_singleton_self _, rfl⟩
  · exact ⟨.ofFilter f, List.mem_map_of_mem hmem, rfl⟩

theorem exists_mem_completions_of_symbol {finished : Bool} {f : Filter} {o : Operator}
    {name symbol typed : String} (hf : g.filter? name = some f)
    (ho : o ∈ g.operatorsFor f.type) (hsymbol : symbol ∈ o.spellings)
    (h : startsWith typed symbol = true)
    (hm : finished = true → ∃ m, m ∈ g.phrasesFor f.type) :
    ∃ c ∈ g.completions finished [name, typed], c.filter = f ∧ c.operator = some o := by
  have hmem : o ∈ (g.operatorsFor f.type).filter (·.startsWith typed) :=
    List.mem_filter.2 ⟨ho, List.any_eq_true.2 ⟨symbol, hsymbol, h⟩⟩
  simp only [completions, hf]
  generalize (g.operatorsFor f.type).filter (·.startsWith typed) = operators at hmem ⊢
  rcases operators with _ | ⟨o₁, _ | ⟨o₂, operators⟩⟩
  · exact absurd hmem List.not_mem_nil
  · obtain rfl := List.mem_singleton.1 hmem
    cases finished with
    | true =>
      obtain ⟨m, hm⟩ := hm rfl
      exact exists_mem_openCompletions hm o
    | false => exact ⟨.ofOperator f o, List.mem_singleton_self _, rfl, rfl⟩
  · exact ⟨.ofOperator f o, List.mem_map_of_mem hmem, rfl, rfl⟩

namespace WellFormed

variable (hg : g.WellFormed)

include hg

theorem exists_mem_completions_of_begun (finished : Bool) {f : Filter} {o : Operator}
    {name symbol word : String} {words : List String} {m : Phrase}
    (hcompares : g.Compares name symbol f o) (hm : m ∈ g.phrasesFor f.type)
    (hne : Slot.begun m.slots (word :: words) ≠ []) :
    ∃ c ∈ g.completions finished (name :: symbol :: word :: words),
      c.filter = f ∧ c.operator = some o := by
  obtain ⟨e, he⟩ :=
    List.exists_mem_of_ne_nil _ (m.examples_ne_nil (Slot.begun m.slots (word :: words)))
  exact ⟨_, hg.mem_completions.2 ⟨f, o, hcompares, mem_begunCompletions.2 ⟨m, hm, hne, e, he, rfl⟩⟩,
    rfl, rfl⟩

/-- Stage by stage: wherever the typing stops, the reading of the whole is among the
completions. -/
theorem exists_mem_completions_of_typing (finished : Bool) {f : Filter} {o : Operator}
    {name symbol word : String} {words typed : List String} {m : Phrase}
    (hcompares : g.Compares name symbol f o) (hm : g.Chosen f.type (word :: words) m)
    (h : Typing typed (name :: symbol :: word :: words))
    (hcut : ¬ m.CutsParameter name symbol word typed) :
    ∃ c ∈ g.completions finished typed,
      c.filter = f ∧ (2 ≤ typed.length → c.operator = some o) := by
  obtain ⟨hf, ho, hsuits⟩ := hg.compares_iff.1 hcompares
  have hchosen := (hg.chosen?_eq_some_iff hcompares.filter_mem).2 hm
  have hphrase : m ∈ g.phrasesFor f.type := List.mem_of_find?_eq_some hchosen
  -- The cases are the stages that answer: all filters, the filter, the operator, the argument.
  match typed, h, hcut with
  | [], _, _ => exact ⟨.ofFilter f, List.mem_map_of_mem hcompares.filter_mem, rfl, by simp⟩
  | [typed], h, _ =>
    obtain ⟨c, hc, hfilter⟩ := exists_mem_completions_of_name finished hcompares.filter_mem
      hcompares.name_mem h.head
    exact ⟨c, hc, hfilter, by simp⟩
  | [name', typed], h, _ =>
    obtain ⟨rfl, hsecond⟩ := h.tail
    have hsuited : o ∈ g.operatorsFor f.type :=
      List.mem_filter.2 ⟨hcompares.operator_mem, hsuits⟩
    obtain ⟨c, hc, hfilter, hoperator⟩ := exists_mem_completions_of_symbol hf hsuited
      hcompares.symbol_mem hsecond.head fun _ => ⟨m, hphrase⟩
    exact ⟨c, hc, hfilter, fun _ => hoperator⟩
  | name' :: symbol' :: typed :: rest, h, hcut =>
    obtain ⟨rfl, hsecond⟩ := h.tail
    obtain ⟨rfl, hthird⟩ := hsecond.tail
    obtain ⟨slot, slots, hslots⟩ :=
      List.exists_cons_of_ne_nil (hg.slots_ne_nil m (List.mem_of_mem_filter hphrase))
    have haccepts : slot.accepts word = true := by
      have hfits := fits_of_chosen? g hchosen
      rw [hslots, Slot.fits, Bool.and_eq_true] at hfits
      exact hfits.1
    -- What is typed of the argument belongs to the reading of the whole, or the cut is excepted.
    have hne : Slot.begun m.slots (typed :: rest) ≠ [] := by
      intro hnil
      rw [hslots] at hnil
      obtain ⟨rfl, hstart, hne, t, rfl, ht⟩ := Slot.parameter_of_begun_eq_nil hthird haccepts hnil
      exact hcut ⟨typed, t, slots, rfl, hstart, hne, hslots, ht⟩
    obtain ⟨c, hc, hfilter, hoperator⟩ :=
      hg.exists_mem_completions_of_begun finished hcompares hphrase hne
    exact ⟨c, hc, hfilter, fun _ => hoperator⟩

end WellFormed

/-- Whoever types a literal that compiles is offered its filter and its operator all the way,
except where a parameter cannot be told from a part of its word. -/
theorem suggest_while_typing {config : Config} (h : build config = .ok g) {literal : String}
    {p : Predicate} (hp : g.compile literal = .ok p) :
    ∃ name symbol word words m, Text.words literal = name :: symbol :: word :: words ∧
      g.Chosen p.filter.type (word :: words) m ∧
      ∀ s : String, s.toList <+: literal.toList →
        ¬ m.CutsParameter name symbol word (Text.words s) →
        ∃ c ∈ g.suggest s, c.filter = p.filter ∧
          (2 ≤ (Text.words s).length → c.operator = some p.operator) := by
  have hg := WellFormed.of_build h
  obtain ⟨name, symbol, word, words, m, hwords, hcompares, hm, -⟩ := hg.of_compile_eq_ok hp
  refine ⟨name, symbol, word, words, m, hwords, hm, ?_⟩
  intro s hs hcut
  have htyping := Typing.of_isPrefix hs
  rw [hwords] at htyping
  simp only [hg.mem_suggest]
  exact hg.exists_mem_completions_of_typing (Text.endsBlank s) hcompares hm htyping hcut

theorem suggest_while_typing_reminder :
    build reminderConfig = .ok reminderGrammar ∧
      reminderGrammar.compile "due = 12:30 today" =
        .ok ⟨⟨"due", timeOfDay, ["at"]⟩, ⟨"is", .root, ["="]⟩,
          ⟨timeOfDay, "12:30 today", .text "12:30 today"⟩⟩ ∧
      ∃ name symbol word words m,
        Text.words "due = 12:30 today" = name :: symbol :: word :: words ∧
        reminderGrammar.Chosen timeOfDay (word :: words) m ∧
        ∀ s : String, s.toList <+: "due = 12:30 today".toList →
          ¬ m.CutsParameter name symbol word (Text.words s) →
          ∃ c ∈ reminderGrammar.suggest s, c.filter = ⟨"due", timeOfDay, ["at"]⟩ ∧
            (2 ≤ (Text.words s).length → c.operator = some ⟨"is", .root, ["="]⟩) := by
  have hp : reminderGrammar.compile "due = 12:30 today" =
      .ok ⟨⟨"due", timeOfDay, ["at"]⟩, ⟨"is", .root, ["="]⟩,
        ⟨timeOfDay, "12:30 today", .text "12:30 today"⟩⟩ := rfl
  exact ⟨build_reminderConfig, hp, suggest_while_typing build_reminderConfig hp⟩

-- The exception is met: a time is no time before its colon.
example : reminderGrammar.suggest "due = 12" = [] := rfl

end Grammar

end SearchBox
