import Mathlib.Data.List.Nodup
import SearchBox.Proofs.Completion.Agreement
import SearchBox.Proofs.Completion.Choices

namespace SearchBox

theorem nodup_of_nodup_flatMap {α : Type} {spellings : α → List String} {xs : List α}
    (h : (xs.flatMap spellings).Nodup) (hne : ∀ x, spellings x ≠ []) : xs.Nodup := by
  refine (List.nodup_flatMap.1 h).2.imp fun {x y} hdisjoint => ?_
  rintro rfl
  obtain ⟨s, hs⟩ := List.exists_mem_of_ne_nil _ (hne x)
  exact hdisjoint hs hs

namespace Phrase

/-- What a phrase shows for the words of an argument, with the number of letters it takes. -/
def offered (p : Phrase) (words : List String) : List (Example × Nat) :=
  let typed := Slot.begun p.slots words
  if typed.isEmpty && !words.isEmpty then []
  else (p.examples typed).map fun e => (e, Text.letters typed)

theorem nodup_examples {p : Phrase}
    (h : ∀ exampler, p.exampler = some exampler → ∀ words, (exampler words).Nodup)
    (words : List String) : (p.examples words).Nodup := by
  rw [examples]
  cases hexampler : p.exampler with
  | none => exact List.nodup_singleton _
  | some exampler =>
    have hnodup := h exampler hexampler words
    rw [Option.map_some, Option.getD_some]
    split
    · exact List.nodup_singleton _
    · exact hnodup

theorem nodup_offered {p : Phrase} (h : ∀ words, (p.examples words).Nodup) (words : List String) :
    (p.offered words).Nodup := by
  rw [offered]
  split
  · exact List.nodup_nil
  · exact (h _).map fun _ _ heq => (Prod.mk.inj heq).1

end Phrase

namespace ArgumentPart

/-- Open arguments of one type are told apart by what they show. -/
theorem beq_iff_of_type {t : DataType} {a a' : ArgumentPart}
    (h : a = .unknown t ∨ ∃ e n, a = .suggested t e n)
    (h' : a' = .unknown t ∨ ∃ e n, a' = .suggested t e n) : (a == a') = true ↔ a = a' := by
  have htype : (t == t) = true := beq_self_eq_true t.name
  rcases h with rfl | ⟨e, n, rfl⟩ <;> rcases h' with rfl | ⟨e', n', rfl⟩
  · exact iff_of_true htype rfl
  · exact iff_of_false Bool.false_ne_true nofun
  · exact iff_of_false Bool.false_ne_true nofun
  · show (t == t && e == e' && n == n') = true ↔ _
    simp [htype]

end ArgumentPart

namespace Grammar.WellFormed

variable {g : Grammar} (hg : g.WellFormed)

include hg

theorem filter_beq_iff {f f' : Filter} (hf : f ∈ g.filters) (hf' : f' ∈ g.filters) :
    (f == f') = true ↔ f = f' := by
  have hname : (f == f') = true ↔ f.name = f'.name := beq_iff_eq (a := f.name)
  rw [hname]
  refine ⟨fun h => ?_, congrArg Filter.name⟩
  exact hg.eq_of_filter_spelling hf List.mem_cons_self hf' (h ▸ List.mem_cons_self)

theorem operator_beq_iff {o o' : Operator} (ho : o ∈ g.operators) (ho' : o' ∈ g.operators) :
    (o == o') = true ↔ o = o' := by
  have hsymbol : (o == o') = true ↔ o.symbol = o'.symbol := beq_iff_eq (a := o.symbol)
  rw [hsymbol]
  refine ⟨fun h => ?_, congrArg Operator.symbol⟩
  exact hg.eq_of_operator_spelling ho List.mem_cons_self ho' (h ▸ List.mem_cons_self)

theorem operator?_beq_iff {o o' : Option Operator} (ho : ∀ p, o = some p → p ∈ g.operators)
    (ho' : ∀ p, o' = some p → p ∈ g.operators) : (o == o') = true ↔ o = o' := by
  cases o with
  | none => cases o' <;> simp
  | some p =>
    cases o' with
    | none => simp
    | some p' => rw [Option.some_beq_some, hg.operator_beq_iff (ho p rfl) (ho' p' rfl),
        Option.some_inj]

end Grammar.WellFormed

namespace Completion

theorem ofFilter_injective : Function.Injective ofFilter :=
  fun _ _ h => congrArg Completion.filter h

theorem ofOperator_injective (f : Filter) : Function.Injective (ofOperator f) :=
  fun _ _ h => Option.some.inj (congrArg Completion.operator h)

/-- The filter and the operator are those of the grammar, and the argument is not settled. -/
structure DrawnFrom (g : Grammar) (c : Completion) : Prop where
  filter_mem : c.filter ∈ g.filters
  operator_mem : ∀ o, c.operator = some o → o ∈ g.operators
  argument_eq : c.argument = .unknown c.filter.type ∨
    ∃ e n, c.argument = .suggested c.filter.type e n

namespace DrawnFrom

variable {g : Grammar} {c c' : Completion}

theorem ofFilter {f : Filter} (hf : f ∈ g.filters) : (Completion.ofFilter f).DrawnFrom g :=
  ⟨hf, nofun, .inl rfl⟩

theorem ofOperator {f : Filter} {o : Operator} (hf : f ∈ g.filters) (ho : o ∈ g.operators) :
    (Completion.ofOperator f o).DrawnFrom g :=
  ⟨hf, fun _ h => Option.some.inj h ▸ ho, .inl rfl⟩

theorem ofExample {f : Filter} {o : Operator} (hf : f ∈ g.filters) (ho : o ∈ g.operators)
    (n : Nat) (e : Example) : (Completion.ofExample f o n e).DrawnFrom g :=
  ⟨hf, fun _ h => Option.some.inj h ▸ ho, .inr ⟨e, n, rfl⟩⟩

/-- Equality looks at names, symbols and names of types only, which is enough within a grammar. -/
theorem beq_iff_eq (hg : g.WellFormed) (hc : c.DrawnFrom g) (hc' : c'.DrawnFrom g) :
    (c == c') = true ↔ c = c' := by
  obtain ⟨f, o, a⟩ := c
  obtain ⟨f', o', a'⟩ := c'
  obtain ⟨hf, ho, ha⟩ := hc
  obtain ⟨hf', ho', ha'⟩ := hc'
  have hparts : (Completion.mk f o a == ⟨f', o', a'⟩) = true ↔
      ((f == f') = true ∧ (o == o') = true) ∧ (a == a') = true := by
    rw [← Bool.and_eq_true, ← Bool.and_eq_true]
    rfl
  rw [hparts, hg.filter_beq_iff hf hf', hg.operator?_beq_iff ho ho', Completion.mk.injEq, and_assoc]
  refine and_congr_right ?_
  rintro rfl
  refine and_congr_right fun _ => ?_
  exact ArgumentPart.beq_iff_of_type ha ha'

end DrawnFrom

end Completion

namespace Grammar

variable {g : Grammar}

/-- The literal has come to its argument, of which these words are typed. -/
inductive AtArgument (g : Grammar) (literal : String) : Filter → Operator → List String → Prop
  | cold {name symbol : String} {f : Filter} {o : Operator}
      (hwords : Text.words literal = [name, symbol]) (hblank : Text.endsBlank literal = true)
      (hf : g.filter? name = some f)
      (ho : (g.operatorsFor f.type).filter (·.startsWith symbol) = [o]) :
      AtArgument g literal f o []
  | typed {name symbol word : String} {words : List String} {f : Filter} {o : Operator}
      (hwords : Text.words literal = name :: symbol :: word :: words)
      (h : g.Compares name symbol f o) : AtArgument g literal f o (word :: words)

/-- What the phrases of the filter show for the words of the argument. -/
def shown (g : Grammar) (f : Filter) (o : Operator) (words : List String) : List Completion :=
  ((g.phrasesFor f.type).flatMap fun p => p.offered words).map fun x => .ofExample f o x.2 x.1

theorem openCompletions_eq_shown (f : Filter) (o : Operator) :
    g.openCompletions f o = g.shown f o [] := by
  rw [shown, List.map_flatMap, openCompletions]
  refine List.flatMap_congr fun p _ => ?_
  simp [Phrase.offered, Function.comp_def]

theorem begunCompletions_eq_shown (f : Filter) (o : Operator) (word : String)
    (words : List String) :
    g.begunCompletions f o (word :: words) = g.shown f o (word :: words) := by
  rw [shown, List.map_flatMap, begunCompletions]
  refine List.flatMap_congr fun p _ => ?_
  by_cases hnil : Slot.begun p.slots (word :: words) = []
  · simp [Phrase.offered, hnil]
  · simp [Phrase.offered, hnil, Function.comp_def]

theorem drawnFrom_of_mem_shown {f : Filter} {o : Operator} (hf : f ∈ g.filters)
    (ho : o ∈ g.operators) {words : List String} {c : Completion} (hc : c ∈ g.shown f o words) :
    c.DrawnFrom g := by
  obtain ⟨x, -, rfl⟩ := List.mem_map.1 hc
  exact .ofExample hf ho x.2 x.1

theorem nodup_shown_iff (hexamples : ∀ p ∈ g.phrases, ∀ words, (p.examples words).Nodup)
    (f : Filter) (o : Operator) (words : List String) :
    (g.shown f o words).Nodup ↔
      (g.phrasesFor f.type).Pairwise fun p q => (p.offered words).Disjoint (q.offered words) := by
  have hinjective : Function.Injective
      fun x : Example × Nat => Completion.ofExample f o x.2 x.1 := by
    rintro ⟨e, n⟩ ⟨e', n'⟩ h
    simpa [Completion.ofExample] using h
  rw [shown, List.nodup_map_iff hinjective, List.nodup_flatMap]
  refine ⟨And.right, fun h => ⟨fun p hp => ?_, h⟩⟩
  exact Phrase.nodup_offered (hexamples p (List.mem_of_mem_filter hp)) words

namespace WellFormed

variable (hg : g.WellFormed)

include hg

theorem nodup_filters : g.filters.Nodup :=
  nodup_of_nodup_flatMap hg.filter_spellings fun _ => List.cons_ne_nil _ _

theorem nodup_operatorsFor (t : DataType) : (g.operatorsFor t).Nodup :=
  (nodup_of_nodup_flatMap hg.operator_spellings fun _ => List.cons_ne_nil _ _).filter _

theorem nodup_suggestOperators (f : Filter) : (g.suggestOperators f).Nodup := by
  have hoperators := (hg.nodup_operatorsFor f.type).map (Completion.ofOperator_injective f)
  rw [suggestOperators]
  split
  · exact List.nodup_singleton _
  · exact hoperators

theorem completions_of_atArgument {literal : String} {f : Filter} {o : Operator}
    {words : List String} (h : g.AtArgument literal f o words) :
    g.completions (Text.endsBlank literal) (Text.words literal) = g.shown f o words := by
  cases h with
  | cold hwords hblank hf ho =>
    rw [hwords, hblank, ← openCompletions_eq_shown]
    simp [completions, hf, ho]
  | typed hwords h =>
    obtain ⟨hf, ho, hsuits⟩ := hg.compares_iff.1 h
    rw [hwords, ← begunCompletions_eq_shown]
    simp [completions, hf, ho, hsuits]

theorem nodup_completions_of_not_atArgument {literal : String}
    (h : ∀ f o words, ¬ g.AtArgument literal f o words) :
    (g.completions (Text.endsBlank literal) (Text.words literal)).Nodup := by
  rcases hw : Text.words literal with _ | ⟨name, _ | ⟨symbol, _ | ⟨word, words⟩⟩⟩
  · exact hg.nodup_filters.map Completion.ofFilter_injective
  · have hfilters : (g.filtersStartingWith name).Nodup := hg.nodup_filters.filter _
    rw [completions]
    split
    · split
      · exact hg.nodup_suggestOperators _
      · exact List.nodup_singleton _
    · exact hfilters.map Completion.ofFilter_injective
  · cases hf : g.filter? name with
    | none => simp [completions, hf]
    | some f =>
      have hoperators := (hg.nodup_operatorsFor f.type).filter (·.startsWith symbol)
      simp only [completions, hf]
      split
      · rename_i o ho
        split
        · rename_i hblank
          exact absurd (.cold hw hblank hf ho) (h f o [])
        · exact List.nodup_singleton _
      · exact hoperators.map (Completion.ofOperator_injective f)
  · have hnil : g.completions (Text.endsBlank literal) (name :: symbol :: word :: words) = [] := by
      refine List.eq_nil_iff_forall_not_mem.2 fun c hc => ?_
      obtain ⟨f, o, hcompares, -⟩ := hg.mem_completions.1 hc
      exact h f o _ (.typed hw hcompares)
    rw [hnil]
    exact List.nodup_nil

theorem drawnFrom_of_mem_suggest {literal : String} {c : Completion}
    (hc : c ∈ g.suggest literal) : c.DrawnFrom g := by
  rw [hg.mem_suggest] at hc
  rcases hw : Text.words literal with _ | ⟨name, _ | ⟨symbol, _ | ⟨word, words⟩⟩⟩
  · rw [hw] at hc
    obtain ⟨f, hf, rfl⟩ := List.mem_map.1 hc
    exact .ofFilter hf
  · rw [hw] at hc
    obtain ⟨f, hf, rfl | hc⟩ := of_mem_completions_singleton hc
    · exact .ofFilter (List.mem_of_mem_filter hf)
    · obtain rfl | ⟨o, ho, rfl⟩ := of_mem_suggestOperators hc
      · exact .ofFilter (List.mem_of_mem_filter hf)
      · exact .ofOperator (List.mem_of_mem_filter hf) (List.mem_of_mem_filter ho)
  · rw [hw] at hc
    obtain ⟨f, o, hf, ho, -, rfl | hc⟩ := of_mem_completions_pair hc
    · exact .ofOperator (hg.filter?_eq_some_iff.1 hf).1 (List.mem_of_mem_filter ho)
    · rw [openCompletions_eq_shown] at hc
      exact drawnFrom_of_mem_shown (hg.filter?_eq_some_iff.1 hf).1 (List.mem_of_mem_filter ho) hc
  · rw [hw, hg.mem_completions] at hc
    obtain ⟨f, o, hcompares, hc⟩ := hc
    rw [begunCompletions_eq_shown] at hc
    exact drawnFrom_of_mem_shown hcompares.filter_mem hcompares.operator_mem hc

theorem distinct_suggest_iff_nodup (literal : String) :
    ((g.suggest literal).Pairwise fun c c' => (c == c') = false) ↔
      (g.completions (Text.endsBlank literal) (Text.words literal)).Nodup := by
  have hperm := Ranked.sort_perm (fun c : Completion => (c.weight : Int))
    (g.completions (Text.endsBlank literal) (Text.words literal))
  rw [← hg.suggest_eq] at hperm
  rw [← hperm.nodup_iff]
  refine List.Pairwise.iff_of_mem fun {c c'} hc hc' => ?_
  rw [← Bool.not_eq_true,
    Completion.DrawnFrom.beq_iff_eq hg (hg.drawnFrom_of_mem_suggest hc)
      (hg.drawnFrom_of_mem_suggest hc')]

end WellFormed

/-- Each branch of the search shows its own completion, and two of them are equal only where two
phrases show the same example for the same number of letters of an argument. -/
theorem distinct_suggest_iff {config : Config} (h : build config = .ok g)
    (hexamples : ∀ p ∈ g.phrases, ∀ exampler, p.exampler = some exampler →
      ∀ words, (exampler words).Nodup) (literal : String) :
    ((g.suggest literal).Pairwise fun c c' => (c == c') = false) ↔
      ∀ f o words, g.AtArgument literal f o words →
        (g.phrasesFor f.type).Pairwise fun p q =>
          (p.offered words).Disjoint (q.offered words) := by
  have hg := WellFormed.of_build h
  have hnodup : ∀ p ∈ g.phrases, ∀ words, (p.examples words).Nodup :=
    fun p hp => Phrase.nodup_examples (hexamples p hp)
  rw [hg.distinct_suggest_iff_nodup]
  constructor
  · intro hdistinct f o words hat
    rwa [hg.completions_of_atArgument hat, nodup_shown_iff hnodup] at hdistinct
  · intro hdisjoint
    by_cases hat : ∃ f o words, g.AtArgument literal f o words
    · obtain ⟨f, o, words, hat⟩ := hat
      rw [hg.completions_of_atArgument hat, nodup_shown_iff hnodup]
      exact hdisjoint f o words hat
    · exact hg.nodup_completions_of_not_atArgument fun f o words hf => hat ⟨f, o, words, hf⟩

theorem distinct_suggest_iff_seat :
    build seatConfig = .ok seatGrammar ∧ (seatGrammar.suggest "seat is 12 l").length = 3 ∧
      (seatGrammar.suggest "seat is 12 l").Pairwise fun c c' => (c == c') = false := by
  have hexamples : ∀ p ∈ seatGrammar.phrases, ∀ exampler, p.exampler = some exampler →
      ∀ words, (exampler words).Nodup := by
    refine List.forall_mem_cons.2 ⟨nofun, List.forall_mem_singleton.2 ?_⟩
    rintro _ ⟨⟩ words
    cases words <;> simp
  refine ⟨build_seatConfig, rfl,
    (distinct_suggest_iff build_seatConfig hexamples "seat is 12 l").2 ?_⟩
  have hw : Text.words "seat is 12 l" = ["seat", "is", "12", "l"] := rfl
  intro f o words hat
  cases hat with
  | cold hwords => simp [hw] at hwords
  | typed hwords h =>
    simp only [hw, List.cons.injEq] at hwords
    obtain ⟨rfl, rfl, rfl, rfl⟩ := hwords
    obtain ⟨hf, -, -⟩ := (WellFormed.of_build build_seatConfig).compares_iff.1 h
    obtain rfl : _ = f := Option.some.inj hf
    -- The seat alone weighs less than the seat and its side.
    have hseat : Phrase.offered ⟨"<*>", .root, 0, [.parameter .root], none, none⟩ ["12", "l"] =
      [(⟨"12", none⟩, 2)] := rfl
    refine List.pairwise_pair.2 ?_
    rw [hseat, List.singleton_disjoint]
    decide

/-- Two phrases of which each reads the other's example. -/
def echoConfig : Config where
  filters := [{ name := "due", type := "*" }]
  operators := [{ symbol := "is", type := "*" }]
  phrases := [{ template := "now", type := "*" }, { template := "[now|later]", type := "*" }]

def echoGrammar : Grammar where
  types := ⟨[.root]⟩
  filters := [⟨"due", .root, []⟩]
  operators := [⟨"is", .root, []⟩]
  phrases :=
    [⟨"now", .root, 0, [.keyword ["now"]], none, none⟩,
      ⟨"[now|later]", .root, 0, [.keyword ["now", "later"]], none, none⟩]

/-- Equal completions of different phrases are shown side by side. -/
theorem suggest_repeats :
    ¬ ∀ (config : Config) (g : Grammar), build config = .ok g →
      (∀ p ∈ g.phrases, ∀ exampler, p.exampler = some exampler →
        ∀ words, (exampler words).Nodup) →
      ∀ literal, (g.suggest literal).Pairwise fun c c' => (c == c') = false := by
  intro hclaim
  have hdistinct := hclaim echoConfig echoGrammar rfl (by simp [echoGrammar]) "due is now"
  exact absurd hdistinct (by decide)

end Grammar

end SearchBox
