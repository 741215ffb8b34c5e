import SearchBox.Proofs.Grammar.MadeFrom
import SearchBox.Proofs.Predicate.Meaning

namespace SearchBox

/-- What the one registry knows under a name, the other knows under it too. -/
def TypeRegistry.Extends (r' r : TypeRegistry) : Prop :=
  ∀ name t, r.get name = .ok t → r'.get name = .ok t

variable {r r' : TypeRegistry}

theorem TypeRegistry.WellFormed.extends_of_register (hr : r.WellFormed) {d : TypeDecl}
    {t : DataType} (h : r.register d = .ok (t, r')) : r'.Extends r := by
  intro name s hs
  obtain ⟨-, u, -, -, rfl⟩ := register_eq_ok h
  obtain ⟨hmem, hname⟩ := hr.get_eq_ok_iff.1 hs
  exact (hr.register h).get_eq_ok_iff.2 ⟨mem_insert.2 (.inr hmem), hname⟩

/-- More types change no slot that could be read before. -/
theorem Slot.Denotes.of_extends (h : r'.Extends r) {word : String} {slot : Slot}
    (hslot : Denotes r word slot) : Denotes r' word slot := by
  cases hslot with
  | parameter hform ht => exact .parameter hform (h _ _ ht)
  | keyword hform => exact .keyword hform

theorem Phrase.compile_of_extends (h : r'.Extends r) {d : PhraseDecl} {p : Phrase}
    (hp : compile r d = .ok p) : compile r' d = .ok p := by
  obtain ⟨t, slots, ht, hslots, rfl⟩ := Grammar.compilePhrase_eq_ok hp
  obtain ⟨hne, hdenotes⟩ := Slot.readAll_eq_ok_iff.1 hslots
  refine Grammar.compilePhrase_of_slots (h _ t ht) ?_
  exact Slot.readAll_eq_ok_iff.2 ⟨hne, hdenotes.imp fun _ _ => Slot.Denotes.of_extends h⟩

namespace Grammar

/-- The one grammar goes on, in each of its lists, where the other one stops. -/
structure Extends (g' g : Grammar) : Prop where
  filters : g.filters <+: g'.filters
  operators : g.operators <+: g'.operators
  phrases : g.phrases <+: g'.phrases

variable {g g' : Grammar}

namespace Extends

variable (h : g'.Extends g)

include h

theorem compares {name symbol : String} {f : Filter} {o : Operator}
    (hcompares : g.Compares name symbol f o) : g'.Compares name symbol f o :=
  { hcompares with
    filter_mem := h.filters.subset hcompares.filter_mem
    operator_mem := h.operators.subset hcompares.operator_mem }

/-- What comes behind the phrase that was chosen has no say. -/
theorem chosen (hg' : g'.WellFormed) {t : DataType} {words : List String} {p : Phrase}
    (hp : g.Chosen t words p) : g'.Chosen t words p := by
  obtain ⟨before, after, hsplit, htype, hfits, hbefore, -⟩ := hp
  obtain ⟨rest, hrest⟩ := h.phrases
  have hsplit' : g'.phrases = before ++ p :: (after ++ rest) := by
    rw [← hrest, hsplit, List.append_assoc, List.cons_append]
  have hsorted := hg'.sorted
  rw [hsplit', List.pairwise_append, List.pairwise_cons] at hsorted
  exact ⟨before, after ++ rest, hsplit', htype, hfits, hbefore, hsorted.2.1.1⟩

theorem compile_eq_ok (hg : g.WellFormed) (hg' : g'.WellFormed) {literal : String}
    {p : Predicate} (hp : g.compile literal = .ok p) : g'.compile literal = .ok p := by
  rw [hg.compile_eq_ok_iff] at hp
  rw [hg'.compile_eq_ok_iff]
  generalize Text.words literal = words at hp
  cases hp with
  | predicate hcompares hchosen hlen =>
    exact .predicate (h.compares hcompares) (h.chosen hg' hchosen) hlen

end Extends

/-- Every name keeps its type while further types are declared. -/
theorem MadeFrom.types_extends {config extra : Config} (hg : g.MadeFrom config)
    (hg' : g'.MadeFrom (config ++ extra)) (hwf : g.types.WellFormed) :
    g'.types.Extends g.types := by
  have hstep : ∀ (b : Grammar) (d : TypeDecl) (b' : Grammar),
      b.types.WellFormed ∧ b.types.Extends g.types → b.addType d = .ok b' →
        b'.types.WellFormed ∧ b'.types.Extends g.types := by
    rintro b d b' ⟨hb, hext⟩ hd
    obtain ⟨t, types, hr, rfl⟩ := addType_eq_ok hd
    exact ⟨hb.register hr, fun name s hs => hb.extends_of_register hr name s (hext name s hs)⟩
  have hall : (config.types ++ extra.types).foldlM addType empty =
      .ok { empty with types := g'.types } := hg'.types
  rw [List.foldlM_append, hg.types] at hall
  have hrun : extra.types.foldlM addType { empty with types := g.types } =
      .ok { empty with types := g'.types } := hall
  refine (foldlM_keeps hstep ?_ hrun).2
  exact ⟨hwf, fun _ _ hs => hs⟩

/-- Declarations make the same entries as before if all types are still known. -/
theorem extends_of_madeFrom {config extra : Config} (hg : g.MadeFrom config)
    (hg' : g'.MadeFrom (config ++ extra)) (htypes : g'.types.Extends g.types)
    (hprecedence : ∀ q ∈ extra.phrases, ∀ p ∈ config.phrases, q.precedence ≤ p.precedence) :
    g'.Extends g := by
  have hfilters : List.Forall₂ (FilterDecl.Makes g'.types) config.filters g.filters :=
    hg.filters.imp fun _ _ hd => ⟨htypes _ _ hd.1, hd.2⟩
  have hoperators : List.Forall₂ (OperatorDecl.Makes g'.types) config.operators g.operators :=
    hg.operators.imp fun _ _ hd => ⟨htypes _ _ hd.1, hd.2⟩
  obtain ⟨fs, hfs, -⟩ :=
    exists_append_of_forall₂ (FilterDecl.rightUnique_makes _) hfilters hg'.filters
  obtain ⟨os, hos, -⟩ :=
    exists_append_of_forall₂ (OperatorDecl.rightUnique_makes _) hoperators hg'.operators
  obtain ⟨ps, hps, hsorted⟩ := hg.phrases
  obtain ⟨ps', hps', hsorted'⟩ := hg'.phrases
  obtain ⟨qs, rfl, hqs⟩ := exists_append_of_forall₂ (Phrase.rightUnique_compile _)
    (hps.imp fun _ _ hd => Phrase.compile_of_extends htypes hd) hps'
  have hbehind : ∀ q ∈ qs, ∀ p ∈ ps, q.precedence ≤ p.precedence := by
    intro q hq p hp
    obtain ⟨e, he, hcompile⟩ := exists_mem_of_forall₂ hqs hq
    obtain ⟨d, hd, hcompile'⟩ := exists_mem_of_forall₂ hps hp
    rw [Phrase.precedence_of_compile hcompile, Phrase.precedence_of_compile hcompile']
    exact hprecedence e he d hd
  refine ⟨⟨fs, hfs.symm⟩, ⟨os, hos.symm⟩, Ranked.sort Phrase.precedence qs, ?_⟩
  rw [hsorted', hsorted, Ranked.sort_append _ hbehind]

/-- What compiles goes on to compile, and to the same predicate, when a configuration is extended
behind its entries by phrases of no higher precedence and by whatever else. -/
theorem compile_of_extended {config extra : Config} (h : build config = .ok g)
    (h' : build (config ++ extra) = .ok g')
    (hprecedence : ∀ q ∈ extra.phrases, ∀ p ∈ config.phrases, q.precedence ≤ p.precedence)
    {literal : String} {p : Predicate} (hp : g.compile literal = .ok p) :
    g'.compile literal = .ok p := by
  have hg := WellFormed.of_build h
  have hmade := MadeFrom.of_build h
  have hmade' := MadeFrom.of_build h'
  have htypes := hmade.types_extends hmade' hg.types
  exact (extends_of_madeFrom hmade hmade' htypes hprecedence).compile_eq_ok hg
    (WellFormed.of_build h') hp

/-- Phrases that would read more than the reminder grammar does, but rank below all it has. -/
def reminderExtension : Config where
  types := [{ name := "day", precedence := 2, supertype := some "time" }]
  filters := [{ name := "start", type := "day" }]
  operators := [{ symbol := "after", type := "time" }]
  phrases := [{ template := "<*> <*>", type := "*" },
    { template := "<day>", type := "day", precedence := -1 }]

theorem compile_of_extended_reminder :
    ∃ g', build (reminderConfig ++ reminderExtension) = .ok g' ∧
      g'.compile "at = 12:30 today" =
        .ok ⟨⟨"due", timeOfDay, ["at"]⟩, ⟨"is", .root, ["="]⟩,
          ⟨timeOfDay, "12:30 today", .text "12:30 today"⟩⟩ := by
  obtain ⟨g', hg'⟩ : ∃ g', build (reminderConfig ++ reminderExtension) = .ok g' := ⟨_, rfl⟩
  exact ⟨g', hg', compile_of_extended build_reminderConfig hg' (by decide) rfl⟩

end Grammar

end SearchBox
