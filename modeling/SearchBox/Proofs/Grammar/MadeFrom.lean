import SearchBox.Proofs.Grammar.WellFormed

namespace SearchBox

def FilterDecl.Makes (types : TypeRegistry) (d : FilterDecl) (f : Filter) : Prop :=
  types.get d.type = .ok f.type ∧ f.name = d.name ∧ f.aliases = d.aliases

def OperatorDecl.Makes (types : TypeRegistry) (d : OperatorDecl) (o : Operator) : Prop :=
  types.get d.type = .ok o.type ∧ o.symbol = d.symbol ∧ o.aliases = d.aliases

theorem FilterDecl.rightUnique_makes (types : TypeRegistry) :
    Relator.RightUnique (FilterDecl.Makes types) := by
  rintro d ⟨name, t, aliases⟩ ⟨name', t', aliases'⟩ ⟨ht, rfl, rfl⟩ ⟨ht', rfl, rfl⟩
  obtain rfl := Except.ok.inj (ht.symm.trans ht')
  rfl

theorem OperatorDecl.rightUnique_makes (types : TypeRegistry) :
    Relator.RightUnique (OperatorDecl.Makes types) := by
  rintro d ⟨symbol, t, aliases⟩ ⟨symbol', t', aliases'⟩ ⟨ht, rfl, rfl⟩ ⟨ht', rfl, rfl⟩
  obtain rfl := Except.ok.inj (ht.symm.trans ht')
  rfl

theorem Phrase.rightUnique_compile (types : TypeRegistry) :
    Relator.RightUnique fun d p => compile types d = .ok p :=
  fun _ _ _ hp hq => Except.ok.inj (hp.symm.trans hq)

theorem Phrase.precedence_of_compile {types : TypeRegistry} {d : PhraseDecl} {p : Phrase}
    (h : compile types d = .ok p) : p.precedence = d.precedence := by
  obtain ⟨t, slots, -, -, rfl⟩ := Grammar.compilePhrase_eq_ok h
  rfl

namespace Grammar

/-- Every declaration makes one entry, and only phrases are put into another order. -/
structure MadeFrom (g : Grammar) (config : Config) : Prop where
  types : config.types.foldlM addType empty = .ok { empty with types := g.types }
  filters : List.Forall₂ (FilterDecl.Makes g.types) config.filters g.filters
  operators : List.Forall₂ (OperatorDecl.Makes g.types) config.operators g.operators
  phrases : ∃ ps, List.Forall₂ (fun d p => Phrase.compile g.types d = .ok p) config.phrases ps ∧
    g.phrases = Ranked.sort Phrase.precedence ps

namespace MadeFrom

variable {g g' : Grammar} {types : List TypeDecl} {filters : List FilterDecl}
  {operators : List OperatorDecl} {phrases : List PhraseDecl}

theorem of_types (h : types.foldlM addType empty = .ok g) : g.MadeFrom { types } := by
  have hg : g = { empty with types := g.types } := by
    refine foldlM_keeps (P := fun b => b = { empty with types := b.types }) ?_ rfl h
    intro b d b' hb hd
    obtain ⟨t, r, -, rfl⟩ := addType_eq_ok hd
    rw [hb]
  rw [hg] at h ⊢
  exact ⟨h, .nil, .nil, [], .nil, rfl⟩

theorem addFilter {d : FilterDecl} (hg : g.MadeFrom { types, filters })
    (h : g.addFilter d = .ok g') : g'.MadeFrom { types, filters := filters ++ [d] } := by
  obtain ⟨t, ht, -, rfl⟩ := addFilter_eq_ok h
  exact { hg with filters := List.rel_append hg.filters (.cons ⟨ht, rfl, rfl⟩ .nil) }

theorem addOperator {d : OperatorDecl} (hg : g.MadeFrom { types, filters, operators })
    (h : g.addOperator d = .ok g') :
    g'.MadeFrom { types, filters, operators := operators ++ [d] } := by
  obtain ⟨t, ht, -, rfl⟩ := addOperator_eq_ok h
  exact { hg with operators := List.rel_append hg.operators (.cons ⟨ht, rfl, rfl⟩ .nil) }

theorem addPhrase {d : PhraseDecl} (hg : g.MadeFrom { types, filters, operators, phrases })
    (h : g.addPhrase d = .ok g') :
    g'.MadeFrom { types, filters, operators, phrases := phrases ++ [d] } := by
  obtain ⟨p, hp, rfl⟩ := addPhrase_eq_ok h
  obtain ⟨ps, hps, hsorted⟩ := hg.phrases
  refine { hg with phrases := ⟨ps ++ [p], List.rel_append hps (.cons hp .nil), ?_⟩ }
  rw [Ranked.sort_append_singleton, hsorted]

theorem of_build {config : Config} (h : build config = .ok g) : g.MadeFrom config := by
  obtain ⟨g₁, g₂, g₃, h₁, h₂, h₃, h₄⟩ := build_eq_ok h
  have hfilters := foldlM_keeps_after
    (I := fun before g => MadeFrom g { types := config.types, filters := before })
    (fun _ _ _ _ hg h => hg.addFilter h) (of_types h₁) h₂
  have hoperators := foldlM_keeps_after
    (I := fun before g =>
      MadeFrom g { types := config.types, filters := config.filters, operators := before })
    (fun _ _ _ _ hg h => hg.addOperator h) hfilters h₃
  exact foldlM_keeps_after (I := fun before g => MadeFrom g { config with phrases := before })
    (fun _ _ _ _ hg h => hg.addPhrase h) hoperators h₄

theorem exists_decl {config : Config} (hg : g.MadeFrom config) {p : Phrase}
    (hp : p ∈ g.phrases) : ∃ d ∈ config.phrases, Phrase.compile g.types d = .ok p := by
  obtain ⟨ps, hps, hsorted⟩ := hg.phrases
  rw [hsorted, Ranked.mem_sort] at hp
  exact exists_mem_of_forall₂ hps hp

theorem words_of_keyword {config : Config} (hg : g.MadeFrom config) {p : Phrase}
    (hp : p ∈ g.phrases) {aliases : List String} (hslot : .keyword aliases ∈ p.slots) {k : String}
    (hk : k ∈ aliases) : Text.words k = [k] := by
  obtain ⟨d, -, hcompile⟩ := hg.exists_decl hp
  obtain ⟨t, slots, -, hslots, rfl⟩ := compilePhrase_eq_ok hcompile
  exact Slot.words_of_readAll hslots hslot hk

end MadeFrom

end Grammar

end SearchBox
