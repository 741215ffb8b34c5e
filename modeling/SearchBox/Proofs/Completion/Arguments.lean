import SearchBox.Proofs.Completion.Agreement

namespace SearchBox

namespace Phrase

/-- Every slot takes one word and no word is left. -/
def Reads (p : Phrase) (words : List String) : Prop :=
  List.Forall₂ (fun slot word => slot.accepts word = true) p.slots words

theorem Reads.fits {p : Phrase} {words : List String} (h : p.Reads words) :
    Slot.fits p.slots words = true := by
  rw [Slot.fits_iff_forall₂, h.length_eq, List.take_length]
  exact h

/-- Whatever was typed, the examples are arguments that the phrase itself reads. -/
def ReadsExamples (p : Phrase) : Prop :=
  ∀ words, (∀ w ∈ words, Text.words w = [w]) → ∀ e ∈ p.examples (Slot.begun p.slots words),
    p.Reads (Text.words e.preview)

theorem examples_of_exampler {p : Phrase} {exampler : List String → List Example}
    (h : p.exampler = some exampler) {words : List String} (hne : exampler words ≠ []) :
    p.examples words = exampler words := by
  obtain ⟨e, es, hes⟩ := List.exists_cons_of_ne_nil hne
  rw [examples, h, Option.map_some, Option.getD_some, hes]

theorem readsExamples_of_keyword {p : Phrase} {word : String}
    (hslots : p.slots = [.keyword [word]]) (hword : Text.words word = [word])
    (hexamples : ∀ typed, ∀ e ∈ p.examples typed, e.preview = word) : p.ReadsExamples := by
  intro words _ e he
  rw [Reads, hslots, hexamples _ e he, hword]
  exact .cons (by simp [Slot.accepts]) .nil

end Phrase

namespace Completion

/-- No argument is suggested. -/
def isOpen (c : Completion) : Prop := ∃ t, c.argument = .unknown t

theorem isOpen_ofFilter (f : Filter) : (ofFilter f).isOpen := ⟨f.type, rfl⟩

theorem isOpen_ofOperator (f : Filter) (o : Operator) : (ofOperator f o).isOpen := ⟨f.type, rfl⟩

theorem words_plain_ofExample {f : Filter} {o : Operator} (hname : Text.words f.name = [f.name])
    (hsymbol : Text.words o.symbol = [o.symbol]) (n : Nat) (e : Example) :
    Text.words (ofExample f o n e).plain = f.name :: o.symbol :: Text.words e.preview := by
  have hplain : (ofExample f o n e).plain = f.name ++ " " ++ o.symbol ++ " " ++ e.preview := rfl
  rw [hplain, Text.words_append_space, Text.words_append_space, hname, hsymbol]
  rfl

end Completion

namespace Grammar

variable {g : Grammar}

theorem isOpen_of_mem_completions_singleton {finished : Bool} {name : String} {c : Completion}
    (h : c ∈ g.completions finished [name]) : c.isOpen := by
  obtain ⟨f, -, rfl | hc⟩ := of_mem_completions_singleton h
  · exact Completion.isOpen_ofFilter f
  · obtain rfl | ⟨o, -, rfl⟩ := of_mem_suggestOperators hc
    · exact Completion.isOpen_ofFilter f
    · exact Completion.isOpen_ofOperator f o

/-- The completion is an example of a phrase for some of the typed words. -/
structure Offers (g : Grammar) (typed : List String) (c : Completion) (f : Filter) (o : Operator)
    (p : Phrase) (e : Example) : Prop where
  filter_mem : f ∈ g.filters
  operator_mem : o ∈ g.operators
  suits : o.suits f.type = true
  phrase_mem : p ∈ g.phrasesFor f.type
  example_mem : ∃ words, (∀ w ∈ words, w ∈ typed) ∧ e ∈ p.examples (Slot.begun p.slots words)
  eq_ofExample : ∃ n, c = .ofExample f o n e

namespace WellFormed

variable (hg : g.WellFormed)

include hg

theorem offers_of_mem_openCompletions {typed : List String} {name : String} {c : Completion}
    {f : Filter} {o : Operator} (hf : g.filter? name = some f) (ho : o ∈ g.operatorsFor f.type)
    (hc : c ∈ g.openCompletions f o) : ∃ p e, g.Offers typed c f o p e := by
  obtain ⟨p, hp, hc⟩ := List.mem_flatMap.1 hc
  obtain ⟨e, he, rfl⟩ := List.mem_map.1 hc
  obtain ⟨homem, hsuits⟩ := List.mem_filter.1 ho
  exact ⟨p, e, (hg.filter?_eq_some_iff.1 hf).1, homem, hsuits, hp,
    ⟨[], by simp, by rwa [Slot.begun_nil]⟩, 0, rfl⟩

/-- Wherever the typing stops, a completion leaves the argument open or shows an example. -/
theorem isOpen_or_offers {literal : String} {c : Completion} (hc : c ∈ g.suggest literal) :
    c.isOpen ∨ ∃ f o p e, g.Offers (Text.words literal) c f o p e := by
  rw [hg.mem_suggest] at hc
  rcases hw : Text.words literal with _ | ⟨name, _ | ⟨symbol, _ | ⟨word, words⟩⟩⟩
  · rw [hw] at hc
    obtain ⟨f, -, rfl⟩ := List.mem_map.1 hc
    exact .inl (Completion.isOpen_ofFilter f)
  · rw [hw] at hc
    exact .inl (isOpen_of_mem_completions_singleton hc)
  · rw [hw] at hc
    obtain ⟨f, o, hf, ho, -, rfl | hc⟩ := of_mem_completions_pair hc
    · exact .inl (Completion.isOpen_ofOperator f o)
    · exact .inr ⟨f, o, hg.offers_of_mem_openCompletions hf ho hc⟩
  · rw [hw, hg.mem_completions] at hc
    obtain ⟨f, o, hcompares, hc⟩ := hc
    obtain ⟨p, hp, -, e, he, rfl⟩ := mem_begunCompletions.1 hc
    exact .inr ⟨f, o, p, e, hcompares.filter_mem, hcompares.operator_mem,
      (hg.suits_iff hcompares.filter_mem hcompares.operator_mem).2 hcompares.type_mem, hp,
      ⟨word :: words, fun w hw => List.mem_cons_of_mem _ (List.mem_cons_of_mem _ hw), he⟩, _, rfl⟩

/-- An example becomes a predicate if the phrase that comes first for its words takes them all. -/
theorem compile_plain_of_chosen? {f : Filter} {o : Operator} {m : Phrase} {e : Example}
    (hf : f ∈ g.filters) (ho : o ∈ g.operators) (hsuits : o.suits f.type = true)
    (hname : Text.words f.name = [f.name]) (hsymbol : Text.words o.symbol = [o.symbol])
    (hm : g.chosen? f.type (Text.words e.preview) = some m)
    (hlen : m.slots.length = (Text.words e.preview).length) (n : Nat) :
    ∃ p, g.compile (Completion.ofExample f o n e).plain = .ok p ∧ p.filter = f ∧
      p.operator = o := by
  have hphrase : m ∈ g.phrasesFor f.type := List.mem_of_find?_eq_some hm
  have hslots := List.length_pos_of_ne_nil (hg.slots_ne_nil m (List.mem_of_mem_filter hphrase))
  have hcompares : g.Compares f.name o.symbol f o :=
    ⟨hf, List.mem_cons_self, ho, List.mem_cons_self, (hg.suits_iff hf ho).1 hsuits⟩
  rw [hg.chosen?_eq_some_iff hf] at hm
  have hwords := Completion.words_plain_ofExample hname hsymbol n e
  obtain ⟨word, words, hargument⟩ : ∃ word words, Text.words e.preview = word :: words :=
    List.exists_cons_of_length_pos (by omega)
  rw [hargument] at hm hlen hwords
  refine ⟨⟨f, o, ⟨f.type, " ".intercalate (word :: words), m.resolve (word :: words)⟩⟩, ?_, rfl,
    rfl⟩
  rw [hg.compile_eq_ok_iff, hwords]
  exact .predicate hcompares hm hlen

end WellFormed

end Grammar

end SearchBox
