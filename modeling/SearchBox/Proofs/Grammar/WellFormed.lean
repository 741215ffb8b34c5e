import SearchBox.Grammar.Config
import SearchBox.Proofs.Phrase.Templates

namespace SearchBox

theorem firstTaken?_eq_none_iff {taken spellings : List String} :
    firstTaken? taken spellings = none ↔ spellings.Nodup ∧ ∀ s ∈ spellings, s ∉ taken := by
  simp only [firstTaken?, List.find?_eq_none, Bool.or_eq_true, List.contains_iff_mem,
    decide_eq_true_eq, not_or, Nat.not_lt]
  constructor
  · intro h
    refine ⟨List.nodup_iff_count_le_one.2 fun s => ?_, fun s hs => (h s hs).1⟩
    by_cases hs : s ∈ spellings
    · exact (h s hs).2
    · rw [List.count_eq_zero_of_not_mem hs]
      omega
  · rintro ⟨hnodup, hfree⟩ s hs
    exact ⟨hfree s hs, List.nodup_iff_count_le_one.1 hnodup s⟩

/-- What filters and operators are checked for alike. The type of the entry comes back. -/
def TypeRegistry.checkEntry (r : TypeRegistry) (duplicate : String → ConfigError)
    (taken : List String) (type : String) (spellings : List String) :
    Except ConfigError DataType := do
  let t ← r.get type
  match firstTaken? taken spellings with
  | some s => throw (duplicate s)
  | none => return t

theorem checkEntry_eq_ok {r : TypeRegistry} {duplicate : String → ConfigError}
    {taken spellings : List String} {type : String} {t : DataType}
    (h : r.checkEntry duplicate taken type spellings = .ok t) :
    r.get type = .ok t ∧ firstTaken? taken spellings = none := by
  obtain ⟨s, hs, h⟩ := bind_eq_ok.1 h
  split at h
  · cases h
  · rename_i hfree
    obtain rfl := pure_eq_ok.1 h
    exact ⟨hs, hfree⟩

namespace Grammar

/-- What construction guarantees: every type in use is registered, a spelling means one filter and
one operator at most, and phrases have slots and stand in order of precedence. -/
structure WellFormed (g : Grammar) : Prop where
  types : g.types.WellFormed
  filter_type : ∀ f ∈ g.filters, f.type ∈ g.types.types
  operator_type : ∀ o ∈ g.operators, o.type ∈ g.types.types
  phrase_type : ∀ p ∈ g.phrases, p.type ∈ g.types.types
  filter_spellings : (g.filters.flatMap Filter.spellings).Nodup
  operator_spellings : (g.operators.flatMap Operator.spellings).Nodup
  slots_ne_nil : ∀ p ∈ g.phrases, p.slots ≠ []
  sorted : g.phrases.Pairwise fun p q => q.precedence ≤ p.precedence

variable {g g' : Grammar}

theorem addType_eq_ok {d : TypeDecl} (h : g.addType d = .ok g') :
    ∃ t types, g.types.register d = .ok (t, types) ∧ g' = { g with types := types } := by
  obtain ⟨⟨t, types⟩, hr, h⟩ := bind_eq_ok.1 h
  exact ⟨t, types, hr, (pure_eq_ok.1 h).symm⟩

theorem addFilter_eq_map (g : Grammar) (d : FilterDecl) :
    g.addFilter d =
      (fun t => { g with filters := g.filters ++ [⟨d.name, t, d.aliases⟩] }) <$>
        g.types.checkEntry .duplicateFilter (g.filters.flatMap Filter.spellings) d.type
          (d.name :: d.aliases) := by
  unfold addFilter TypeRegistry.checkEntry
  cases g.types.get d.type with
  | error e => rfl
  | ok t =>
    simp only [bind, Except.bind, Filter.spellings]
    cases firstTaken? (g.filters.flatMap Filter.spellings) (d.name :: d.aliases) <;> rfl

theorem addFilter_eq_ok {d : FilterDecl} (h : g.addFilter d = .ok g') :
    ∃ t, g.types.get d.type = .ok t ∧
      firstTaken? (g.filters.flatMap Filter.spellings) (d.name :: d.aliases) = none ∧
      g' = { g with filters := g.filters ++ [⟨d.name, t, d.aliases⟩] } := by
  rw [addFilter_eq_map] at h
  obtain ⟨t, ht, rfl⟩ := map_eq_ok.1 h
  exact ⟨t, (checkEntry_eq_ok ht).1, (checkEntry_eq_ok ht).2, rfl⟩

theorem addOperator_eq_map (g : Grammar) (d : OperatorDecl) :
    g.addOperator d =
      (fun t => { g with operators := g.operators ++ [⟨d.symbol, t, d.aliases⟩] }) <$>
        g.types.checkEntry .duplicateOperator (g.operators.flatMap Operator.spellings) d.type
          (d.symbol :: d.aliases) := by
  unfold addOperator TypeRegistry.checkEntry
  cases g.types.get d.type with
  | error e => rfl
  | ok t =>
    simp only [bind, Except.bind, Operator.spellings]
    cases firstTaken? (g.operators.flatMap Operator.spellings) (d.symbol :: d.aliases) <;> rfl

theorem addOperator_eq_ok {d : OperatorDecl} (h : g.addOperator d = .ok g') :
    ∃ t, g.types.get d.type = .ok t ∧
      firstTaken? (g.operators.flatMap Operator.spellings) (d.symbol :: d.aliases) = none ∧
      g' = { g with operators := g.operators ++ [⟨d.symbol, t, d.aliases⟩] } := by
  rw [addOperator_eq_map] at h
  obtain ⟨t, ht, rfl⟩ := map_eq_ok.1 h
  exact ⟨t, (checkEntry_eq_ok ht).1, (checkEntry_eq_ok ht).2, rfl⟩

theorem compilePhrase_eq_ok {types : TypeRegistry} {d : PhraseDecl} {p : Phrase}
    (h : Phrase.compile types d = .ok p) :
    ∃ t slots, types.get d.type = .ok t ∧ Slot.readAll types d.template = .ok slots ∧
      p = ⟨d.template, t, d.precedence, slots, d.resolver, d.exampler⟩ := by
  obtain ⟨t, ht, h⟩ := bind_eq_ok.1 h
  obtain ⟨slots, hslots, h⟩ := bind_eq_ok.1 h
  exact ⟨t, slots, ht, hslots, (pure_eq_ok.1 h).symm⟩

theorem compilePhrase_of_slots {types : TypeRegistry} {d : PhraseDecl} {t : DataType}
    {slots : List Slot} (ht : types.get d.type = .ok t)
    (hslots : Slot.readAll types d.template = .ok slots) :
    Phrase.compile types d =
      .ok ⟨d.template, t, d.precedence, slots, d.resolver, d.exampler⟩ := by
  simp only [Phrase.compile, ht, hslots, bind, Except.bind, pure, Except.pure]

theorem addPhrase_eq_ok {d : PhraseDecl} (h : g.addPhrase d = .ok g') :
    ∃ p, Phrase.compile g.types d = .ok p ∧
      g' = { g with phrases := Ranked.insert Phrase.precedence p g.phrases } := by
  obtain ⟨p, hp, h⟩ := bind_eq_ok.1 h
  exact ⟨p, hp, (pure_eq_ok.1 h).symm⟩

/-- Phrases that all compile are put in one by one. -/
theorem foldlM_addPhrase_of_compile {ds : List PhraseDecl} {ps : List Phrase}
    (h : List.Forall₂ (fun d p => Phrase.compile g.types d = .ok p) ds ps) :
    ds.foldlM addPhrase g = .ok { g with
      phrases := ps.foldl (fun sorted p => Ranked.insert Phrase.precedence p sorted)
        g.phrases } := by
  induction ds generalizing g ps with
  | nil =>
    cases h
    rfl
  | cons d ds ih =>
    obtain ⟨p, ps, hp, hps, rfl⟩ := List.forall₂_cons_left_iff.1 h
    have hadd : g.addPhrase d =
        .ok { g with phrases := Ranked.insert Phrase.precedence p g.phrases } := by
      simp only [addPhrase, hp, bind, Except.bind, pure, Except.pure]
    rw [List.foldlM_cons, hadd]
    exact ih hps

theorem build_eq_ok {config : Config} (h : build config = .ok g) :
    ∃ g₁ g₂ g₃, config.types.foldlM addType empty = .ok g₁ ∧
      config.filters.foldlM addFilter g₁ = .ok g₂ ∧
      config.operators.foldlM addOperator g₂ = .ok g₃ ∧
      config.phrases.foldlM addPhrase g₃ = .ok g := by
  obtain ⟨g₁, h₁, h⟩ := bind_eq_ok.1 h
  obtain ⟨g₂, h₂, h⟩ := bind_eq_ok.1 h
  obtain ⟨g₃, h₃, h⟩ := bind_eq_ok.1 h
  exact ⟨g₁, g₂, g₃, h₁, h₂, h₃, h⟩

theorem build_of_stages {config : Config} {g₁ g₂ g₃ : Grammar}
    (h₁ : config.types.foldlM addType empty = .ok g₁)
    (h₂ : config.filters.foldlM addFilter g₁ = .ok g₂)
    (h₃ : config.operators.foldlM addOperator g₂ = .ok g₃)
    (h₄ : config.phrases.foldlM addPhrase g₃ = .ok g) : build config = .ok g := by
  simp only [build, h₁, h₂, h₃, h₄, bind, Except.bind]

/-- A new entry whose spellings are free and distinct keeps all spellings distinct. -/
theorem nodup_flatMap_append {α : Type} {spellings : α → List String} {xs : List α} {x : α}
    (hxs : (xs.flatMap spellings).Nodup)
    (hx : firstTaken? (xs.flatMap spellings) (spellings x) = none) :
    ((xs ++ [x]).flatMap spellings).Nodup := by
  obtain ⟨hnodup, hfree⟩ := firstTaken?_eq_none_iff.1 hx
  rw [List.flatMap_append, List.flatMap_singleton, List.nodup_append]
  refine ⟨hxs, hnodup, ?_⟩
  rintro s hs t ht rfl
  exact hfree s ht hs

namespace WellFormed

theorem empty : Grammar.empty.WellFormed where
  types := TypeRegistry.WellFormed.empty
  filter_type := by simp [Grammar.empty]
  operator_type := by simp [Grammar.empty]
  phrase_type := by simp [Grammar.empty]
  filter_spellings := by simp [Grammar.empty]
  operator_spellings := by simp [Grammar.empty]
  slots_ne_nil := by simp [Grammar.empty]
  sorted := by simp [Grammar.empty]

theorem addType {d : TypeDecl} (hg : g.WellFormed) (h : g.addType d = .ok g') :
    g'.WellFormed := by
  obtain ⟨t, types, hr, rfl⟩ := addType_eq_ok h
  have hmem : ∀ s ∈ g.types.types, s ∈ types.types := by
    obtain ⟨-, s, -, -, rfl⟩ := TypeRegistry.register_eq_ok hr
    exact fun u hu => TypeRegistry.mem_insert.2 (.inr hu)
  exact { hg with
    types := hg.types.register hr
    filter_type := fun f hf => hmem _ (hg.filter_type f hf)
    operator_type := fun o ho => hmem _ (hg.operator_type o ho)
    phrase_type := fun p hp => hmem _ (hg.phrase_type p hp) }

theorem addFilter {d : FilterDecl} (hg : g.WellFormed) (h : g.addFilter d = .ok g') :
    g'.WellFormed := by
  obtain ⟨t, ht, hfree, rfl⟩ := addFilter_eq_ok h
  refine { hg with filter_type := ?_, filter_spellings := ?_ }
  · intro f hf
    rcases List.mem_append.1 hf with hf | hf
    · exact hg.filter_type f hf
    · obtain rfl := List.mem_singleton.1 hf
      exact (TypeRegistry.mem_of_get ht).1
  · exact nodup_flatMap_append hg.filter_spellings hfree

theorem addOperator {d : OperatorDecl} (hg : g.WellFormed) (h : g.addOperator d = .ok g') :
    g'.WellFormed := by
  obtain ⟨t, ht, hfree, rfl⟩ := addOperator_eq_ok h
  refine { hg with operator_type := ?_, operator_spellings := ?_ }
  · intro o ho
    rcases List.mem_append.1 ho with ho | ho
    · exact hg.operator_type o ho
    · obtain rfl := List.mem_singleton.1 ho
      exact (TypeRegistry.mem_of_get ht).1
  · exact nodup_flatMap_append hg.operator_spellings hfree

theorem addPhrase {d : PhraseDecl} (hg : g.WellFormed) (h : g.addPhrase d = .ok g') :
    g'.WellFormed := by
  obtain ⟨p, hp, rfl⟩ := addPhrase_eq_ok h
  obtain ⟨t, slots, ht, hslots, rfl⟩ := compilePhrase_eq_ok hp
  refine { hg with phrase_type := ?_, slots_ne_nil := ?_, sorted := ?_ }
  · intro q hq
    rcases (Ranked.mem_insert _).1 hq with rfl | hq
    · exact (TypeRegistry.mem_of_get ht).1
    · exact hg.phrase_type q hq
  · intro q hq
    rcases (Ranked.mem_insert _).1 hq with rfl | hq
    · exact Slot.ne_nil_of_readAll hslots
    · exact hg.slots_ne_nil q hq
  · exact Ranked.pairwise_insert _ _ hg.sorted

/-- Every step of the construction keeps the invariant, and so does the whole of it. -/
theorem of_build {config : Config} (h : build config = .ok g) : g.WellFormed := by
  obtain ⟨g₁, g₂, g₃, h₁, h₂, h₃, h₄⟩ := build_eq_ok h
  have hg₁ : g₁.WellFormed := foldlM_keeps (fun _ _ _ hg h => addType hg h) empty h₁
  have hg₂ : g₂.WellFormed := foldlM_keeps (fun _ _ _ hg h => addFilter hg h) hg₁ h₂
  have hg₃ : g₃.WellFormed := foldlM_keeps (fun _ _ _ hg h => addOperator hg h) hg₂ h₃
  exact foldlM_keeps (fun _ _ _ hg h => addPhrase hg h) hg₃ h₄

end WellFormed

end Grammar

/-- The time of day, for which a word needs a colon. -/
def timeOfDay : DataType := .sub "time" 1 (fun word => word.toList.contains ':') .text .root

/-- A small configuration in which all kinds of parts occur. -/
def reminderConfig : Config where
  types :=
    [{ name := "time", precedence := 1, accepts := fun word => word.toList.contains ':' }]
  filters := [{ name := "due", type := "time", aliases := ["at"] }, { name := "title", type := "*" }]
  operators :=
    [{ symbol := "is", type := "*", aliases := ["="] }, { symbol := "before", type := "time" }]
  phrases :=
    [{ template := "<time> [today|tomorrow]", type := "time" },
      { template := "now", type := "time", precedence := 1 }]

def reminderGrammar : Grammar where
  types := ⟨[timeOfDay, .root]⟩
  filters := [⟨"due", timeOfDay, ["at"]⟩, ⟨"title", .root, []⟩]
  operators := [⟨"is", .root, ["="]⟩, ⟨"before", timeOfDay, []⟩]
  phrases :=
    [⟨"now", timeOfDay, 1, [.keyword ["now"]], none, none⟩,
      ⟨"<time> [today|tomorrow]", timeOfDay, 0,
        [.parameter timeOfDay, .keyword ["today", "tomorrow"]], none, none⟩]

theorem build_reminderConfig : Grammar.build reminderConfig = .ok reminderGrammar := rfl

end SearchBox
