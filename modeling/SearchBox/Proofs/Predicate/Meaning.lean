import SearchBox.Proofs.Grammar.Lookup
import SearchBox.Proofs.Predicate.Interpretation

namespace SearchBox

namespace Phrase

/-- Each slot accepts the word in its place; there may be more words than slots. -/
def Fits (p : Phrase) (words : List String) : Prop :=
  List.Forall₂ (fun slot word => slot.accepts word = true) p.slots (words.take p.slots.length)

/-- The first slot accepts the word, or the word begins one of its keywords. -/
def MayBegin (p : Phrase) (word : String) : Prop :=
  ∃ slot slots, p.slots = slot :: slots ∧
    (slot.accepts word = true ∨ slot.Begins word)

end Phrase

namespace Grammar

/-- The words name a filter and an operator for its type or a supertype. -/
structure Compares (g : Grammar) (name symbol : String) (f : Filter) (o : Operator) : Prop where
  filter_mem : f ∈ g.filters
  name_mem : name ∈ f.spellings
  operator_mem : o ∈ g.operators
  symbol_mem : symbol ∈ o.spellings
  type_mem : o.type ∈ f.type.chain

/-- Of the phrases for a type and its supertypes, the first in order of precedence that fits. -/
def Chosen (g : Grammar) (t : DataType) (words : List String) (p : Phrase) : Prop :=
  ∃ before after, g.phrases = before ++ p :: after ∧ p.type ∈ t.chain ∧ p.Fits words ∧
    (∀ q ∈ before, q.type ∈ t.chain → ¬ q.Fits words) ∧ ∀ q ∈ after, q.precedence ≤ p.precedence

/-- What a list of words means: a predicate, or the message of the first stage that fails. -/
inductive Meaning (g : Grammar) : List String → Except String Predicate → Prop
  | empty : Meaning g [] (.error "predicate is empty")
  | unknownFilter {name : String} {words : List String}
      (h : ∀ f ∈ g.filters, name ∉ f.spellings) :
      Meaning g (name :: words) (.error ("unknown filter: \"" ++ name ++ "\""))
  | missingOperator {name : String} {f : Filter}
      (hf : f ∈ g.filters) (hname : name ∈ f.spellings) :
      Meaning g [name] (.error "missing an operator and argument")
  | unknownOperator {name symbol : String} {words : List String} {f : Filter}
      (hf : f ∈ g.filters) (hname : name ∈ f.spellings)
      (h : ∀ o ∈ g.operators, symbol ∉ o.spellings) :
      Meaning g (name :: symbol :: words) (.error ("unknown operator: \"" ++ symbol ++ "\""))
  | unsuitedOperator {name symbol : String} {words : List String} {f : Filter} {o : Operator}
      (hf : f ∈ g.filters) (hname : name ∈ f.spellings)
      (ho : o ∈ g.operators) (hsymbol : symbol ∈ o.spellings) (h : o.type ∉ f.type.chain) :
      Meaning g (name :: symbol :: words)
        (.error ("\"" ++ symbol ++ "\" operator cannot be used on type: \"" ++ f.type.name ++ "\""))
  | missingArgument {name symbol : String} {f : Filter} {o : Operator}
      (h : g.Compares name symbol f o) :
      Meaning g [name, symbol] (.error "missing an argument")
  | incompleteArgument {name symbol word : String} {words : List String} {f : Filter}
      {o : Operator} (h : g.Compares name symbol f o)
      (hnone : ∀ p, ¬ g.Chosen f.type (word :: words) p)
      (hbegun : ∃ p ∈ g.phrases, p.type ∈ f.type.chain ∧ p.MayBegin word) :
      Meaning g (name :: symbol :: word :: words) (.error "incomplete argument")
  | unknownArgument {name symbol word : String} {words : List String} {f : Filter}
      {o : Operator} (h : g.Compares name symbol f o)
      (hnone : ∀ p, ¬ g.Chosen f.type (word :: words) p)
      (hbegun : ¬ ∃ p ∈ g.phrases, p.type ∈ f.type.chain ∧ p.MayBegin word) :
      Meaning g (name :: symbol :: word :: words) (.error "unknown argument")
  | trailingInput {name symbol word extra : String} {words rest : List String} {f : Filter}
      {o : Operator} {p : Phrase} (h : g.Compares name symbol f o)
      (hp : g.Chosen f.type (word :: words) p)
      (hrest : (word :: words).drop p.slots.length = extra :: rest) :
      Meaning g (name :: symbol :: word :: words)
        (.error ("unexpected input after argument: \"" ++ extra ++ "\""))
  | predicate {name symbol word : String} {words : List String} {f : Filter} {o : Operator}
      {p : Phrase} (h : g.Compares name symbol f o) (hp : g.Chosen f.type (word :: words) p)
      (hlen : p.slots.length = (word :: words).length) :
      Meaning g (name :: symbol :: word :: words)
        (.ok ⟨f, o, ⟨f.type, " ".intercalate (word :: words), p.resolve (word :: words)⟩⟩)

namespace WellFormed

variable {g : Grammar} (hg : g.WellFormed)

include hg

theorem compares_iff {name symbol : String} {f : Filter} {o : Operator} :
    g.Compares name symbol f o ↔
      g.filter? name = some f ∧ g.operator? symbol = some o ∧ o.suits f.type = true := by
  rw [hg.filter?_eq_some_iff, hg.operator?_eq_some_iff]
  constructor
  · rintro ⟨hf, hname, ho, hsymbol, htype⟩
    exact ⟨⟨hf, hname⟩, ⟨ho, hsymbol⟩, (hg.suits_iff hf ho).2 htype⟩
  · rintro ⟨⟨hf, hname⟩, ⟨ho, hsymbol⟩, hsuits⟩
    exact ⟨hf, hname, ho, hsymbol, (hg.suits_iff hf ho).1 hsuits⟩

theorem chosen?_eq_some_iff {f : Filter} (hf : f ∈ g.filters) {words : List String} {p : Phrase} :
    g.chosen? f.type words = some p ↔ g.Chosen f.type words p := by
  have hfits {q : Phrase} (hq : q ∈ g.phrases) :
      decide (f.type.isSubtypeOf q.type = true ∧ Slot.fits q.slots words = true) = true ↔
        q.type ∈ f.type.chain ∧ q.Fits words := by
    rw [decide_eq_true_iff, hg.isSubtypeOf_phrase_iff hf hq, Slot.fits_iff_forall₂]
    rfl
  rw [chosen?, phrasesFor, List.find?_filter, List.find?_eq_some_iff_append]
  constructor
  · rintro ⟨hp, before, after, hsplit, hbefore⟩
    obtain ⟨hchain, hwords⟩ := (hfits (by simp [hsplit])).1 hp
    refine ⟨before, after, hsplit, hchain, hwords, ?_, ?_⟩
    · intro q hq hqchain hqwords
      have hnot := hbefore q hq
      rw [(hfits (by simp [hsplit, hq])).2 ⟨hqchain, hqwords⟩] at hnot
      exact absurd hnot (by decide)
    · have hsorted := hg.sorted
      rw [hsplit, List.pairwise_append, List.pairwise_cons] at hsorted
      exact hsorted.2.1.1
  · rintro ⟨before, after, hsplit, hchain, hwords, hbefore, -⟩
    refine ⟨(hfits (by simp [hsplit])).2 ⟨hchain, hwords⟩, before, after, hsplit, ?_⟩
    intro q hq
    rw [Bool.not_eq_true', ← Bool.not_eq_true, hfits (by simp [hsplit, hq])]
    exact fun h => hbefore q hq h.1 h.2

theorem chosen?_eq_none_iff {f : Filter} (hf : f ∈ g.filters) {words : List String} :
    g.chosen? f.type words = none ↔ ∀ p, ¬ g.Chosen f.type words p := by
  simp only [← hg.chosen?_eq_some_iff hf, Option.eq_none_iff_forall_ne_some, ne_eq]

/-- Whether some phrase is begun is settled by the first word of the argument. -/
theorem argumentFault_eq_incomplete_iff {f : Filter} (hf : f ∈ g.filters) (word : String)
    (words : List String) :
    g.argumentFault f.type (word :: words) = .incompleteArgument ↔
      ∃ p ∈ g.phrases, p.type ∈ f.type.chain ∧ p.MayBegin word := by
  have hbegun {p : Phrase} (hp : p ∈ g.phrases) :
      Slot.begun p.slots (word :: words) ≠ [] ↔ p.MayBegin word := by
    obtain ⟨slot, slots, hslots⟩ := List.exists_cons_of_ne_nil (hg.slots_ne_nil p hp)
    rw [hslots, Slot.begun_cons_ne_nil_iff]
    simp [Phrase.MayBegin, hslots]
  simp only [argumentFault, ite_eq_left_iff, reduceCtorEq, imp_false, not_not, phrasesFor,
    List.any_filter, List.any_eq_true, Bool.and_eq_true, Bool.not_eq_true',
    List.isEmpty_eq_false_iff]
  constructor
  · rintro ⟨p, hp, hchain, hne⟩
    exact ⟨p, hp, (hg.isSubtypeOf_phrase_iff hf hp).1 hchain, (hbegun hp).1 hne⟩
  · rintro ⟨p, hp, hchain, hmay⟩
    exact ⟨p, hp, (hg.isSubtypeOf_phrase_iff hf hp).2 hchain, (hbegun hp).2 hmay⟩

theorem argumentFault_eq_unknown {f : Filter} (hf : f ∈ g.filters) {word : String}
    (words : List String) (h : ¬ ∃ p ∈ g.phrases, p.type ∈ f.type.chain ∧ p.MayBegin word) :
    g.argumentFault f.type (word :: words) = .unknownArgument :=
  (g.argumentFault_cases f.type (word :: words)).resolve_left
    (mt (hg.argumentFault_eq_incomplete_iff hf word words).1 h)

theorem interpret_of_compares {name symbol word : String} {words : List String} {f : Filter}
    {o : Operator} (h : g.Compares name symbol f o) :
    g.interpret (name :: symbol :: word :: words) = g.interpretArgument f o (word :: words) := by
  obtain ⟨hf, ho, hsuits⟩ := hg.compares_iff.1 h
  simp only [interpret, hf, ho, hsuits, if_true]

/-- The argument stage: a phrase with no slot to spare, one with too few, or none. -/
theorem meaning_interpretArgument {name symbol word : String} {words : List String} {f : Filter}
    {o : Operator} (h : g.Compares name symbol f o) :
    g.Meaning (name :: symbol :: word :: words)
      ((g.interpretArgument f o (word :: words)).mapError fun e => e.2.message) := by
  rw [interpretArgument]
  cases hp : g.chosen? f.type (word :: words) with
  | none =>
    have hnone := (hg.chosen?_eq_none_iff h.filter_mem).1 hp
    by_cases hbegun : ∃ p ∈ g.phrases, p.type ∈ f.type.chain ∧ p.MayBegin word
    · rw [(hg.argumentFault_eq_incomplete_iff h.filter_mem _ _).2 hbegun]
      exact .incompleteArgument h hnone hbegun
    · rw [hg.argumentFault_eq_unknown h.filter_mem _ hbegun]
      exact .unknownArgument h hnone hbegun
  | some p =>
    have hchosen := (hg.chosen?_eq_some_iff h.filter_mem).1 hp
    have hlen := Slot.length_le_of_fits (fits_of_chosen? g hp)
    dsimp only
    cases hrest : (word :: words).drop p.slots.length with
    | nil => exact .predicate h hchosen (by have := List.drop_eq_nil_iff.1 hrest; omega)
    | cons extra rest => exact .trailingInput h hchosen hrest

/-- A meaning is found: one case for each stage at which the interpretation can stop. -/
theorem meaning_interpret (words : List String) :
    g.Meaning words ((g.interpret words).mapError fun e => e.2.message) := by
  cases words with
  | nil => exact .empty
  | cons name words =>
    cases hf : g.filter? name with
    | none =>
      rw [interpret, hf]
      exact .unknownFilter (filter?_eq_none_iff.1 hf)
    | some f =>
      obtain ⟨hfmem, hname⟩ := hg.filter?_eq_some_iff.1 hf
      cases words with
      | nil =>
        rw [interpret, hf]
        exact .missingOperator hfmem hname
      | cons symbol words =>
        cases ho : g.operator? symbol with
        | none =>
          simp only [interpret, hf, ho]
          exact .unknownOperator hfmem hname (operator?_eq_none_iff.1 ho)
        | some o =>
          obtain ⟨homem, hsymbol⟩ := hg.operator?_eq_some_iff.1 ho
          by_cases hsuits : o.suits f.type = true
          · have hcompares := hg.compares_iff.2 ⟨hf, ho, hsuits⟩
            cases words with
            | nil =>
              simp only [interpret, hf, ho, hsuits, if_true]
              exact .missingArgument hcompares
            | cons word words =>
              rw [hg.interpret_of_compares hcompares]
              exact hg.meaning_interpretArgument hcompares
          · simp only [interpret, hf, ho, hsuits]
            exact .unsuitedOperator hfmem hname homem hsymbol
              fun h => hsuits ((hg.suits_iff hfmem homem).2 h)

theorem interpret_of_meaning {words : List String} {r : Except String Predicate}
    (h : g.Meaning words r) : (g.interpret words).mapError (fun e => e.2.message) = r := by
  cases h with
  | empty => rfl
  | unknownFilter h =>
    rw [interpret, filter?_eq_none_iff.2 h]
    rfl
  | missingOperator hf hname =>
    rw [interpret, hg.filter?_eq_some_iff.2 ⟨hf, hname⟩]
    rfl
  | unknownOperator hf hname h =>
    simp only [interpret, hg.filter?_eq_some_iff.2 ⟨hf, hname⟩, operator?_eq_none_iff.2 h]
    rfl
  | unsuitedOperator hf hname ho hsymbol h =>
    have hsuits := mt (hg.suits_iff hf ho).1 h
    simp only [interpret, hg.filter?_eq_some_iff.2 ⟨hf, hname⟩,
      hg.operator?_eq_some_iff.2 ⟨ho, hsymbol⟩, hsuits]
    rfl
  | missingArgument h =>
    obtain ⟨hf, ho, hsuits⟩ := hg.compares_iff.1 h
    simp only [interpret, hf, ho, hsuits, if_true]
    rfl
  | incompleteArgument h hnone hbegun =>
    rw [hg.interpret_of_compares h, interpretArgument,
      (hg.chosen?_eq_none_iff h.filter_mem).2 hnone,
      (hg.argumentFault_eq_incomplete_iff h.filter_mem _ _).2 hbegun]
    rfl
  | unknownArgument h hnone hbegun =>
    rw [hg.interpret_of_compares h, interpretArgument,
      (hg.chosen?_eq_none_iff h.filter_mem).2 hnone,
      hg.argumentFault_eq_unknown h.filter_mem _ hbegun]
    rfl
  | trailingInput h hp hrest =>
    rw [hg.interpret_of_compares h, interpretArgument, (hg.chosen?_eq_some_iff h.filter_mem).2 hp]
    simp only [hrest]
    rfl
  | predicate h hp hlen =>
    rw [hg.interpret_of_compares h, interpretArgument, (hg.chosen?_eq_some_iff h.filter_mem).2 hp]
    simp only [hlen, List.drop_length]
    rfl

theorem compile_eq_ok_iff {literal : String} {p : Predicate} :
    g.compile literal = .ok p ↔ g.Meaning (Text.words literal) (.ok p) := by
  have hinterpret : g.compile literal = .ok p ↔ g.interpret (Text.words literal) = .ok p := by
    rw [compile_eq_interpret]
    cases g.interpret (Text.words literal) <;> simp [Except.mapError]
  rw [hinterpret]
  constructor
  · intro h
    have hmeaning := hg.meaning_interpret (Text.words literal)
    rwa [h] at hmeaning
  · intro h
    have hmessage := hg.interpret_of_meaning h
    cases hr : g.interpret (Text.words literal) with
    | error e => simp [hr, Except.mapError] at hmessage
    | ok q => simpa [hr, Except.mapError] using hmessage

/-- The words of a literal that compiles, and the phrase that reads all of its argument. -/
theorem of_compile_eq_ok {literal : String} {p : Predicate} (h : g.compile literal = .ok p) :
    ∃ name symbol word words m, Text.words literal = name :: symbol :: word :: words ∧
      g.Compares name symbol p.filter p.operator ∧ g.Chosen p.filter.type (word :: words) m ∧
      m.slots.length = (word :: words).length := by
  have hmeaning := hg.compile_eq_ok_iff.1 h
  generalize hwords : Text.words literal = ws at hmeaning
  cases hmeaning with
  | predicate hcompares hchosen hlen =>
    exact ⟨_, _, _, _, _, rfl, hcompares, hchosen, hlen⟩

end WellFormed

/-- A literal compiles to what its words mean, and to nothing else. -/
theorem compile_eq_iff_meaning {config : Config} {g : Grammar} (h : build config = .ok g)
    (literal : String) (r : Except String Predicate) :
    (g.compile literal).mapError LiteralError.message = r ↔
      g.Meaning (Text.words literal) r := by
  have hg := WellFormed.of_build h
  have hcompile : (g.compile literal).mapError LiteralError.message =
      (g.interpret (Text.words literal)).mapError fun e => e.2.message := by
    rw [compile_eq_interpret]
    cases g.interpret (Text.words literal) <;> rfl
  rw [hcompile]
  constructor
  · rintro rfl
    exact hg.meaning_interpret (Text.words literal)
  · exact hg.interpret_of_meaning

theorem meaning_of_reminder :
    build reminderConfig = .ok reminderGrammar ∧
      reminderGrammar.Meaning (Text.words " due =  12:30 tomorrow")
        (.ok ⟨⟨"due", timeOfDay, ["at"]⟩, ⟨"is", .root, ["="]⟩,
          ⟨timeOfDay, "12:30 tomorrow", .text "12:30 tomorrow"⟩⟩) :=
  ⟨build_reminderConfig, (compile_eq_iff_meaning build_reminderConfig _ _).1 rfl⟩

end Grammar

end SearchBox
