import Mathlib.Data.List.Perm.Basic
import SearchBox.Proofs.Completion.Stages
import SearchBox.Proofs.Grammar.Defects
import SearchBox.Proofs.Grammar.MadeFrom
import SearchBox.Proofs.Predicate.Interpretation

namespace SearchBox

/-- The same types and phrases, and the same filters and operators in some order. -/
structure Config.Reordered (c d : Config) : Prop where
  types : c.types = d.types
  filters : c.filters.Perm d.filters
  operators : c.operators.Perm d.operators
  phrases : c.phrases = d.phrases

namespace Config.Reordered

variable {c d : Config} (h : c.Reordered d)

include h

theorem symm : d.Reordered c := ⟨h.types.symm, h.filters.symm, h.operators.symm, h.phrases.symm⟩

/-- No condition on a configuration asks for the place of a filter or of an operator. -/
theorem wellFormed (hc : c.WellFormed) : d.WellFormed := by
  obtain ⟨types, filters, operators, phrases⟩ := d
  obtain ⟨rfl, hfilters, hoperators, rfl⟩ := h
  exact { hc with
    filter_type := fun f hf => hc.filter_type f (hfilters.mem_iff.2 hf)
    filter_spellings := (hfilters.flatMap_right _).nodup_iff.1 hc.filter_spellings
    operator_type := fun o ho => hc.operator_type o (hoperators.mem_iff.2 ho)
    operator_spellings := (hoperators.flatMap_right _).nodup_iff.1 hc.operator_spellings }

theorem wellFormed_iff : c.WellFormed ↔ d.WellFormed := ⟨h.wellFormed, h.symm.wellFormed⟩

theorem exists_build_iff :
    (∃ g, Grammar.build c = .ok g) ↔ ∃ g, Grammar.build d = .ok g := by
  have hbuilds (e : Config) : (∃ g, Grammar.build e = .ok g) ↔ e.WellFormed := by
    rw [exists_eq_ok_iff, Config.wellFormed_iff]
    exact forall_congr' fun _ => not_congr Grammar.build_eq_error_iff
  rw [hbuilds, hbuilds, h.wellFormed_iff]

end Config.Reordered

/-- A list of one entry has no other order. -/
theorem eq_singleton_or_of_perm {α : Type} {xs ys : List α} (h : xs.Perm ys) :
    (∃ x, xs = [x] ∧ ys = [x]) ∨ (∀ x, xs ≠ [x]) ∧ ∀ y, ys ≠ [y] := by
  by_cases hlone : ∃ x, xs = [x]
  · obtain ⟨x, rfl⟩ := hlone
    exact .inl ⟨x, rfl, List.singleton_perm.1 h |>.symm⟩
  · refine .inr ⟨not_exists.1 hlone, ?_⟩
    rintro y rfl
    exact hlone ⟨y, List.perm_singleton.1 h⟩

namespace Grammar

/-- The same types and phrases, and the same filters and operators in some order. -/
structure Reordered (g g' : Grammar) : Prop where
  types : g.types = g'.types
  filters : g.filters.Perm g'.filters
  operators : g.operators.Perm g'.operators
  phrases : g.phrases = g'.phrases

variable {g g' : Grammar}

theorem MadeFrom.reordered {c d : Config} (hg : g.MadeFrom c) (hg' : g'.MadeFrom d)
    (h : c.Reordered d) : g.Reordered g' := by
  obtain ⟨types, filters, operators, phrases⟩ := d
  obtain ⟨rfl, hfilters, hoperators, rfl⟩ := h
  have htypes : g.types = g'.types := by
    have hrun := hg.types.symm.trans hg'.types
    injection hrun with hrun
    injection hrun
  obtain ⟨-, hfs, hos, ps', hps', hsorted'⟩ := hg'
  rw [← htypes] at hfs hos hps'
  obtain ⟨ps, hps, hsorted⟩ := hg.phrases
  have hphrases : ps = ps' := (Phrase.rightUnique_compile _).forall₂ hps hps'
  exact
    { types := htypes
      filters := List.rel_perm_imp (FilterDecl.rightUnique_makes _) hg.filters hfs hfilters
      operators :=
        List.rel_perm_imp (OperatorDecl.rightUnique_makes _) hg.operators hos hoperators
      phrases := by rw [hsorted, hsorted', hphrases] }

namespace Reordered

variable (h : g.Reordered g')

include h

theorem phrasesFor_eq (t : DataType) : g.phrasesFor t = g'.phrasesFor t := by
  rw [phrasesFor, phrasesFor, h.phrases]

theorem operatorsFor_perm (t : DataType) : (g.operatorsFor t).Perm (g'.operatorsFor t) :=
  h.operators.filter _

theorem filter?_eq (hg : g.WellFormed) (word : String) : g.filter? word = g'.filter? word :=
  find?_contains_eq_of_perm h.filters hg.filter_spellings word

theorem operator?_eq (hg : g.WellFormed) (word : String) :
    g.operator? word = g'.operator? word :=
  find?_contains_eq_of_perm h.operators hg.operator_spellings word

theorem scan_eq (hg : g.WellFormed) (literal : String) :
    Token.scan g literal = Token.scan g' literal := by
  simp only [Token.scan, TokenKind.of, h.types, h.operator?_eq hg]

theorem interpretArgument_eq (f : Filter) (o : Operator) (words : List String) :
    g.interpretArgument f o words = g'.interpretArgument f o words := by
  simp only [interpretArgument, chosen?, argumentFault, h.phrasesFor_eq]

theorem interpret_eq (hg : g.WellFormed) (words : List String) :
    g.interpret words = g'.interpret words := by
  rcases words with _ | ⟨name, _ | ⟨symbol, _ | ⟨word, words⟩⟩⟩ <;>
    simp only [interpret, h.filter?_eq hg, h.operator?_eq hg, h.interpretArgument_eq]

theorem compile_eq (hg : g.WellFormed) (literal : String) :
    g.compile literal = g'.compile literal := by
  rw [compile_eq_interpret, compile_eq_interpret, h.interpret_eq hg, h.scan_eq hg]

theorem suggestOperators_perm (f : Filter) :
    (g.suggestOperators f).Perm (g'.suggestOperators f) := by
  have hperm := h.operatorsFor_perm f.type
  rw [suggestOperators, suggestOperators]
  cases ho : g.operatorsFor f.type with
  | nil =>
    rw [ho, List.nil_perm] at hperm
    rw [hperm]
  | cons o os =>
    cases ho' : g'.operatorsFor f.type with
    | nil =>
      rw [ho, ho', List.perm_nil] at hperm
      cases hperm
    | cons o' os' =>
      rw [ho, ho'] at hperm
      exact hperm.map _

theorem openCompletions_eq (f : Filter) (o : Operator) :
    g.openCompletions f o = g'.openCompletions f o := by
  rw [openCompletions, openCompletions, h.phrasesFor_eq]

/-- Behind two words nothing is left of the order: they name one filter and one operator. -/
theorem completions_eq (hg : g.WellFormed) (finished : Bool) (name symbol word : String)
    (words : List String) :
    g.completions finished (name :: symbol :: word :: words) =
      g'.completions finished (name :: symbol :: word :: words) := by
  simp only [completions, begunCompletions, h.filter?_eq hg, h.operator?_eq hg, h.phrasesFor_eq]

theorem completions_perm (hg : g.WellFormed) (finished : Bool) (words : List String) :
    (g.completions finished words).Perm (g'.completions finished words) := by
  rcases words with _ | ⟨name, _ | ⟨symbol, _ | ⟨word, words⟩⟩⟩
  · exact h.filters.map _
  · have hperm : (g.filtersStartingWith name).Perm (g'.filtersStartingWith name) :=
      h.filters.filter _
    rw [completions, completions]
    rcases eq_singleton_or_of_perm hperm with ⟨f, hf, hf'⟩ | ⟨hne, hne'⟩
    · rw [hf, hf']
      cases finished with
      | false => exact .refl _
      | true => exact h.suggestOperators_perm f
    · split
      · rename_i f hf
        exact absurd hf (hne f)
      · exact hperm.map _
  · rw [completions, completions, h.filter?_eq hg]
    cases g'.filter? name with
    | none => exact .refl _
    | some f =>
      have hperm := (h.operatorsFor_perm f.type).filter (·.startsWith symbol)
      dsimp only
      rcases eq_singleton_or_of_perm hperm with ⟨o, ho, ho'⟩ | ⟨hne, hne'⟩
      · rw [ho, ho']
        dsimp only
        rw [h.openCompletions_eq]
      · split
        · rename_i o ho
          exact absurd ho (hne o)
        · exact hperm.map _
  · rw [h.completions_eq hg]

end Reordered

/-- The order in which filters and operators are declared decides neither whether a grammar is
made nor what compiles nor what is suggested, but only the order of suggestions for up to two
words. -/
theorem agree_of_reordered {c d : Config} (h : c.Reordered d) :
    ((∃ g, build c = .ok g) ↔ ∃ g, build d = .ok g) ∧
      ∀ g g', build c = .ok g → build d = .ok g' → ∀ literal,
        g.compile literal = g'.compile literal ∧
          (g.suggest literal).Perm (g'.suggest literal) ∧
          (3 ≤ (Text.words literal).length → g.suggest literal = g'.suggest literal) := by
  refine ⟨h.exists_build_iff, fun g g' hbuild hbuild' literal => ?_⟩
  have hg := WellFormed.of_build hbuild
  have hg' := WellFormed.of_build hbuild'
  have hreordered := (MadeFrom.of_build hbuild).reordered (MadeFrom.of_build hbuild') h
  refine ⟨hreordered.compile_eq hg literal, ?_, fun hlen => ?_⟩ <;>
    rw [hg.suggest_eq, hg'.suggest_eq]
  · exact (Ranked.sort_perm _ _).trans
      ((hreordered.completions_perm hg _ _).trans (Ranked.sort_perm _ _).symm)
  · match Text.words literal, hlen with
    | name :: symbol :: word :: words, _ => rw [hreordered.completions_eq hg]

/-- The reminders with their filters and operators declared backwards. -/
def backwardConfig : Config :=
  { reminderConfig with
    filters := reminderConfig.filters.reverse
    operators := reminderConfig.operators.reverse }

theorem agree_of_reordered_backward :
    ∃ g', build backwardConfig = .ok g' ∧
      reminderGrammar.compile "at before 12:30 today" = g'.compile "at before 12:30 today" ∧
      (reminderGrammar.suggest "").Perm (g'.suggest "") ∧
      reminderGrammar.suggest "due = 12:30 to" = g'.suggest "due = 12:30 to" := by
  have hreordered : reminderConfig.Reordered backwardConfig :=
    ⟨rfl, (List.reverse_perm _).symm, (List.reverse_perm _).symm, rfl⟩
  obtain ⟨g', hg'⟩ := (agree_of_reordered hreordered).1.1 ⟨_, build_reminderConfig⟩
  have hagree := (agree_of_reordered hreordered).2 _ g' build_reminderConfig hg'
  exact ⟨g', hg', (hagree _).1, (hagree "").2.1, (hagree "due = 12:30 to").2.2 (by decide)⟩

end Grammar

end SearchBox
