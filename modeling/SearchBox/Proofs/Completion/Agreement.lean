import SearchBox.Proofs.Completion.Stages
import SearchBox.Proofs.Predicate.Meaning

namespace SearchBox

namespace Grammar

variable {g : Grammar}

theorem mem_begunCompletions {f : Filter} {o : Operator} {words : List String} {c : Completion} :
    c ∈ g.begunCompletions f o words ↔
      ∃ p ∈ g.phrasesFor f.type, Slot.begun p.slots words ≠ [] ∧
        ∃ e ∈ p.examples (Slot.begun p.slots words),
          Completion.ofExample f o (Text.letters (Slot.begun p.slots words)) e = c := by
  simp only [begunCompletions, List.mem_flatMap, List.mem_ite_nil_left, List.isEmpty_iff,
    List.mem_map, ne_eq]

namespace WellFormed

variable (hg : g.WellFormed)

include hg

theorem mem_completions {finished : Bool} {name symbol word : String} {words : List String}
    {c : Completion} :
    c ∈ g.completions finished (name :: symbol :: word :: words) ↔
      ∃ f o, g.Compares name symbol f o ∧ c ∈ g.begunCompletions f o (word :: words) := by
  simp only [hg.compares_iff]
  cases hf : g.filter? name with
  | none => simp [completions, hf]
  | some f =>
    cases ho : g.operator? symbol with
    | none => simp [completions, hf, ho]
    | some o =>
      by_cases hsuits : o.suits f.type = true
      · simp [completions, hf, ho, hsuits]
      · simp [completions, hf, ho, hsuits]

variable {literal name symbol word : String} {words : List String}
  (hw : Text.words literal = name :: symbol :: word :: words)

include hw

end WellFormed

end Grammar

end SearchBox
