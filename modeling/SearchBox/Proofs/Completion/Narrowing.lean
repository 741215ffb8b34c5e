import SearchBox.Proofs.Completion.WhileTyping

namespace SearchBox

namespace Grammar

variable {g : Grammar} {finished : Bool} {c : Completion}

theorem filter_of_mem_suggestOperators {f : Filter} (h : c ∈ g.suggestOperators f) :
    c.filter = f := by
  obtain rfl | ⟨o, -, rfl⟩ := of_mem_suggestOperators h <;> rfl

theorem of_mem_openCompletions {f : Filter} {o : Operator} (h : c ∈ g.openCompletions f o) :
    c.filter = f ∧ c.operator = some o := by
  obtain ⟨p, -, hc⟩ := List.mem_flatMap.1 h
  obtain ⟨e, -, rfl⟩ := List.mem_map.1 hc
  exact ⟨rfl, rfl⟩

namespace WellFormed

variable (hg : g.WellFormed)

include hg

/-- Behind its first word a literal shows an operator only if a spelling of it starts with the
second word. -/
theorem of_mem_completions_cons_cons {name typed : String} {words : List String}
    (h : c ∈ g.completions finished (name :: typed :: words)) :
    g.filter? name = some c.filter ∧ ∃ o ∈ g.operatorsFor c.filter.type, c.operator = some o ∧
      ∃ symbol ∈ o.spellings, startsWith typed symbol = true := by
  cases words with
  | nil =>
    obtain ⟨f, o, hf, ho, hstart, hc⟩ := of_mem_completions_pair h
    obtain ⟨rfl, hoperator⟩ : c.filter = f ∧ c.operator = some o := by
      rcases hc with rfl | hc
      · exact ⟨rfl, rfl⟩
      · exact of_mem_openCompletions hc
    exact ⟨hf, o, ho, hoperator, List.any_eq_true.1 hstart⟩
  | cons word words =>
    obtain ⟨f, o, hcompares, hc⟩ := hg.mem_completions.1 h
    obtain ⟨p, -, -, e, -, rfl⟩ := mem_begunCompletions.1 hc
    obtain ⟨hf, -, hsuits⟩ := hg.compares_iff.1 hcompares
    exact ⟨hf, o, List.mem_filter.2 ⟨hcompares.operator_mem, hsuits⟩, rfl, typed,
      hcompares.symbol_mem, startsWith_self typed⟩

theorem exists_startsWith_of_mem_completions {typed : String} {words : List String}
    (h : c ∈ g.completions finished (typed :: words)) :
    c.filter ∈ g.filters ∧ ∃ name ∈ c.filter.spellings, startsWith typed name = true := by
  cases words with
  | nil =>
    obtain ⟨f, hf, hc⟩ := of_mem_completions_singleton h
    obtain rfl : c.filter = f := by
      rcases hc with rfl | hc
      · rfl
      · exact filter_of_mem_suggestOperators hc
    obtain ⟨hmem, hstart⟩ := List.mem_filter.1 hf
    exact ⟨hmem, List.any_eq_true.1 hstart⟩
  | cons symbol words =>
    obtain ⟨hf, -⟩ := hg.of_mem_completions_cons_cons h
    obtain ⟨hmem, hname⟩ := hg.filter?_eq_some_iff.1 hf
    exact ⟨hmem, typed, hname, startsWith_self typed⟩

theorem filter_mem_of_mem_completions {words : List String}
    (h : c ∈ g.completions finished words) : c.filter ∈ g.filters := by
  cases words with
  | nil =>
    obtain ⟨f, hf, rfl⟩ := List.mem_map.1 h
    exact hf
  | cons typed words => exact (hg.exists_startsWith_of_mem_completions h).1

/-- The filter stage: whatever follows, the filters still start with the word as it was. -/
theorem exists_mem_completions_of_typing_filter {typed : String} {words : List String}
    {finished' : Bool} (h : Text.Typing [typed] words) (hc : c ∈ g.completions finished' words) :
    ∃ c' ∈ g.completions finished [typed], c'.filter = c.filter := by
  obtain ⟨word, others, rfl, htyped⟩ := h.exists_cons
  obtain ⟨hf, name, hname, hstart⟩ := hg.exists_startsWith_of_mem_completions hc
  exact exists_mem_completions_of_name finished hf hname (startsWith_trans htyped hstart)

/-- The operator stage. A lone finished operator is shown with its arguments, if it has any. -/
theorem exists_mem_completions_of_typing_operator {name typed : String} {words : List String}
    {finished' : Bool} (h : Text.Typing [name, typed] words)
    (hc : c ∈ g.completions finished' words)
    (hm : finished = true → ∃ m, m ∈ g.phrasesFor c.filter.type) :
    ∃ c' ∈ g.completions finished [name, typed],
      c'.filter = c.filter ∧ c'.operator = c.operator := by
  obtain ⟨word, others, rfl, htyped⟩ := h.exists_cons_cons
  obtain ⟨hf, o, ho, hoperator, symbol, hsymbol, hstart⟩ := hg.of_mem_completions_cons_cons hc
  rw [hoperator]
  exact exists_mem_completions_of_symbol hf ho hsymbol (startsWith_trans htyped hstart) hm

theorem exists_phrase_of_mem_completions {name symbol word : String} {words : List String}
    (h : c ∈ g.completions finished (name :: symbol :: word :: words)) :
    ∃ m, m ∈ g.phrasesFor c.filter.type := by
  obtain ⟨f, o, -, hc⟩ := hg.mem_completions.1 h
  obtain ⟨m, hm, -, e, -, rfl⟩ := mem_begunCompletions.1 hc
  exact ⟨m, hm⟩

theorem exists_mem_suggest_of_two_words {s u : String} (hs : (Text.words s).length = 2)
    (hc : c ∈ g.suggest (s ++ u)) :
    ∃ c' ∈ g.suggest s, c'.filter = c.filter ∧ c'.operator = c.operator := by
  obtain ⟨name, typed, hwords⟩ := List.length_eq_two.1 hs
  have hprefix : s.toList <+: (s ++ u).toList := ⟨u.toList, by simp⟩
  have htyping := Text.Typing.of_isPrefix hprefix
  simp only [hg.mem_suggest] at hc ⊢
  by_cases hsame : Text.words (s ++ u) = Text.words s ∧ Text.endsBlank (s ++ u) = Text.endsBlank s
  · rw [hsame.1, hsame.2] at hc
    exact ⟨c, hc, rfl, rfl⟩
  · rw [hwords] at htyping ⊢
    refine hg.exists_mem_completions_of_typing_operator htyping hc fun hblank => ?_
    -- The blank has finished the operator, so what is new begins an argument.
    rcases Text.words_of_isPrefix hprefix with ⟨rest, hrest⟩ | ⟨hopen, -⟩
    · rw [hwords] at hrest
      cases rest with
      | nil =>
        have hnone : Text.words (s ++ u) = Text.words s := by simpa [hwords] using hrest
        exact absurd ⟨hnone, (Text.endsBlank_of_words_eq hblank hnone).trans hblank.symm⟩ hsame
      | cons word rest =>
        rw [hrest] at hc
        exact hg.exists_phrase_of_mem_completions hc
    · rw [hopen] at hblank
      cases hblank

theorem exists_mem_suggest_of_one_word {s u : String} (hs : (Text.words s).length = 1)
    (hc : c ∈ g.suggest (s ++ u)) : ∃ c' ∈ g.suggest s, c'.filter = c.filter := by
  obtain ⟨typed, hwords⟩ := List.length_eq_one_iff.1 hs
  have htyping := Text.Typing.of_isPrefix (⟨u.toList, by simp⟩ : s.toList <+: (s ++ u).toList)
  rw [hwords] at htyping
  simp only [hg.mem_suggest, hwords] at hc ⊢
  exact hg.exists_mem_completions_of_typing_filter htyping hc

theorem exists_mem_suggest_of_no_words {s u : String} (hs : Text.words s = [])
    (hc : c ∈ g.suggest (s ++ u)) : ∃ c' ∈ g.suggest s, c'.filter = c.filter := by
  simp only [hg.mem_suggest, hs] at hc ⊢
  exact ⟨.ofFilter c.filter, List.mem_map_of_mem (hg.filter_mem_of_mem_completions hc), rfl⟩

end WellFormed

/-- Typing on only narrows the choice: it brings back no filter while the first two words are
typed, and no operator of a filter once there are two. -/
theorem suggest_narrows {config : Config} (h : build config = .ok g) {s : String}
    (hs : (Text.words s).length ≤ 2) (u : String) :
    (g.suggest (s ++ u)).map Completion.filter ⊆ (g.suggest s).map Completion.filter ∧
      ((Text.words s).length = 2 →
        (g.suggest (s ++ u)).map (fun c => (c.filter, c.operator)) ⊆
          (g.suggest s).map fun c => (c.filter, c.operator)) := by
  have hg := WellFormed.of_build h
  constructor
  · intro f hf
    obtain ⟨c, hc, rfl⟩ := List.mem_map.1 hf
    rw [List.mem_map]
    rcases hlength : (Text.words s).length with _ | _ | _ | n
    · exact hg.exists_mem_suggest_of_no_words (List.length_eq_zero_iff.1 hlength) hc
    · exact hg.exists_mem_suggest_of_one_word hlength hc
    · obtain ⟨c', hc', hfilter, -⟩ := hg.exists_mem_suggest_of_two_words hlength hc
      exact ⟨c', hc', hfilter⟩
    · omega
  · intro hlength pair hpair
    obtain ⟨c, hc, rfl⟩ := List.mem_map.1 hpair
    obtain ⟨c', hc', hfilter, hoperator⟩ := hg.exists_mem_suggest_of_two_words hlength hc
    exact List.mem_map.2 ⟨c', hc', by rw [hfilter, hoperator]⟩

theorem suggest_narrows_reminder :
    build reminderConfig = .ok reminderGrammar ∧
      (Text.words " at is").length = 2 ∧
      (⟨"due", timeOfDay, ["at"]⟩, some ⟨"is", .root, ["="]⟩) ∈
        (reminderGrammar.suggest " at is 12:30 tod").map (fun c => (c.filter, c.operator)) ∧
      (reminderGrammar.suggest (" at is" ++ " 12:30 tod")).map (fun c => (c.filter, c.operator)) ⊆
        (reminderGrammar.suggest " at is").map fun c => (c.filter, c.operator) :=
  ⟨build_reminderConfig, rfl, List.mem_of_getElem? (rfl : _[0]? = some _),
    (suggest_narrows build_reminderConfig (by decide : (Text.words " at is").length ≤ 2)
      " 12:30 tod").2 rfl⟩

end Grammar

end SearchBox
