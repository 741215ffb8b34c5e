import SearchBox.Proofs.Grammar.Registrations

namespace SearchBox

namespace TypeRegistry

variable {r : TypeRegistry}

/-- The root, and behind it the types whose registration was not refused, in order. -/
def registered (ds : List TypeDecl) : List DataType :=
  .root :: ((ds.mapM registerInPlace).run empty).1.filterMap Except.toOption

theorem run_mapM_registerInPlace (r : TypeRegistry) (ds : List TypeDecl) :
    ((ds.mapM registerInPlace).run r).2 = r.afterAll ds := by
  induction ds generalizing r with
  | nil => rfl
  | cons d ds ih =>
    rw [List.mapM_cons]
    exact ih ((registerInPlace d).run r).2

theorem registered_append_singleton (ds : List TypeDecl) (d : TypeDecl) :
    registered (ds ++ [d]) =
      registered ds ++ ((registerInPlace d).run (empty.afterAll ds)).1.toOption.toList := by
  have hanswers : (((ds ++ [d]).mapM registerInPlace).run empty).1 =
      ((ds.mapM registerInPlace).run empty).1 ++
        [((registerInPlace d).run ((ds.mapM registerInPlace).run empty).2).1] := by
    rw [List.mapM_append, List.mapM_cons, List.mapM_nil]
    rfl
  rw [registered, hanswers, run_mapM_registerInPlace, List.filterMap_append]
  cases ((registerInPlace d).run (empty.afterAll ds)).1 <;> rfl

theorem afterAll_append_singleton (r : TypeRegistry) (ds : List TypeDecl) (d : TypeDecl) :
    r.afterAll (ds ++ [d]) = ((registerInPlace d).run (r.afterAll ds)).2 := by
  simp [afterAll]

theorem types_afterAll (ds : List TypeDecl) :
    (empty.afterAll ds).types = Ranked.sort DataType.precedence (registered ds) := by
  induction ds using List.reverseRecOn with
  | nil => rfl
  | append_singleton ds d ih =>
    rw [afterAll_append_singleton, registered_append_singleton]
    cases hregister : (empty.afterAll ds).register d with
    | error e =>
      rw [run_registerInPlace_of_error hregister]
      simpa [Except.toOption] using ih
    | ok result =>
      obtain ⟨t, r'⟩ := result
      obtain ⟨-, s, -, -, rfl⟩ := register_eq_ok hregister
      rw [run_registerInPlace_of_ok hregister]
      simp [Except.toOption, insert, Ranked.sort_append_singleton, ih]

/-- On any registered type list a new type is put where sorting again would put it. -/
theorem types_of_register {ds : List TypeDecl} {d : TypeDecl} {t : DataType} {r' : TypeRegistry}
    (h : (empty.afterAll ds).register d = .ok (t, r')) :
    r'.types =
      ((empty.afterAll ds).types ++ [t]).mergeSort (Ranked.ahead DataType.precedence) := by
  obtain ⟨-, s, -, -, rfl⟩ := register_eq_ok h
  have hsorted := Ranked.pairwise_sort DataType.precedence (registered ds)
  rw [← types_afterAll] at hsorted
  exact Ranked.insert_eq_mergeSort _ _ hsorted

/-- The root accepts every word, so that the search for a type never fails. -/
theorem find?_accepts_of_root_mem (hroot : .root ∈ r.types) (word : String) :
    r.types.find? (·.accepts word) = some (r.infer word) := by
  cases hfind : r.types.find? (·.accepts word) with
  | none => exact absurd rfl (List.find?_eq_none.1 hfind .root hroot)
  | some t => simp [infer, hfind]

/-- What a word is taken for among types that stand in the order of their registration: it accepts
the word, those before it that do rank lower, and those after it no higher. -/
def Prevails (order : List DataType) (word : String) (t : DataType) : Prop :=
  t.accepts word = true ∧ ∃ before after, order = before ++ t :: after ∧
    (∀ s ∈ before, s.accepts word = true → s.precedence < t.precedence) ∧
    ∀ s ∈ after, s.accepts word = true → s.precedence ≤ t.precedence

theorem prevails_infer (ds : List TypeDecl) (word : String) :
    (empty.afterAll ds).types.find? (·.accepts word) = some ((empty.afterAll ds).infer word) ∧
      Prevails (registered ds) word ((empty.afterAll ds).infer word) := by
  have hroot : .root ∈ (empty.afterAll ds).types := by
    rw [types_afterAll, Ranked.mem_sort]
    exact List.mem_cons_self
  have hfind := find?_accepts_of_root_mem hroot word
  refine ⟨hfind, by simpa using List.find?_some hfind, ?_⟩
  rw [types_afterAll] at hfind
  exact Ranked.exists_append_of_find?_sort _ hfind

end TypeRegistry

namespace Grammar

variable {g g' : Grammar} {config : Config}

theorem MadeFrom.types_eq_afterAll (hg : g.MadeFrom config) :
    g.types = TypeRegistry.empty.afterAll config.types := by
  refine foldlM_keeps_after (I := fun before g => g.types = TypeRegistry.empty.afterAll before)
    ?_ rfl hg.types
  intro before b d b' hb hd
  obtain ⟨t, r, hregister, rfl⟩ := addType_eq_ok hd
  rw [TypeRegistry.afterAll_append_singleton, ← hb,
    TypeRegistry.run_registerInPlace_of_ok hregister]

theorem MadeFrom.phrases_eq_mergeSort (hg : g.MadeFrom config) :
    ∃ ps, config.phrases.mapM (Phrase.compile g.types) = .ok ps ∧
      g.phrases = ps.mergeSort (Ranked.ahead Phrase.precedence) := by
  obtain ⟨ps, hps, hsorted⟩ := hg.phrases
  exact ⟨ps, mapM_eq_ok_iff.2 hps, hsorted.trans (Ranked.sort_eq_mergeSort _ ps)⟩

theorem WellFormed.phrases_of_addPhrase (hg : g.WellFormed) {d : PhraseDecl}
    (h : g.addPhrase d = .ok g') :
    ∃ p, Phrase.compile g.types d = .ok p ∧
      g'.phrases = (g.phrases ++ [p]).mergeSort (Ranked.ahead Phrase.precedence) := by
  obtain ⟨p, hp, rfl⟩ := addPhrase_eq_ok h
  exact ⟨p, hp, Ranked.insert_eq_mergeSort _ p hg.sorted⟩

/-- Sorting after every insertion is sorting once. Types stand by descending precedence and
otherwise in the order of registration, the root first; phrases do so in the order of declaration;
and a word is taken for the foremost type that accepts it, which the root makes sure there is. -/
theorem sorted_by_precedence :
    (∀ ds, let r := TypeRegistry.empty.afterAll ds
      r.types = (TypeRegistry.registered ds).mergeSort (Ranked.ahead DataType.precedence) ∧
      (∀ d t r', r.register d = .ok (t, r') →
        r'.types = (r.types ++ [t]).mergeSort (Ranked.ahead DataType.precedence)) ∧
      ∀ word, r.types.find? (·.accepts word) = some (r.infer word) ∧
        TypeRegistry.Prevails (TypeRegistry.registered ds) word (r.infer word)) ∧
    ∀ config g, build config = .ok g →
      g.types = TypeRegistry.empty.afterAll config.types ∧
      (∃ ps, config.phrases.mapM (Phrase.compile g.types) = .ok ps ∧
        g.phrases = ps.mergeSort (Ranked.ahead Phrase.precedence)) ∧
      ∀ d g', g.addPhrase d = .ok g' → ∃ p, Phrase.compile g.types d = .ok p ∧
        g'.phrases = (g.phrases ++ [p]).mergeSort (Ranked.ahead Phrase.precedence) := by
  constructor
  · intro ds r
    have htypes := TypeRegistry.types_afterAll ds
    rw [Ranked.sort_eq_mergeSort] at htypes
    exact ⟨htypes, fun d t r' => TypeRegistry.types_of_register, TypeRegistry.prevails_infer ds⟩
  · intro config g h
    have hmade := MadeFrom.of_build h
    exact ⟨hmade.types_eq_afterAll, hmade.phrases_eq_mergeSort,
      fun d g' => (WellFormed.of_build h).phrases_of_addPhrase⟩

theorem sorted_by_precedence_reminder :
    let ds : List TypeDecl :=
      [{ name := "note", precedence := -1 }, { name := "tag", precedence := 1 },
        { name := "tag", precedence := 7 }, { name := "label", precedence := 1 },
        { name := "draft", precedence := 5, supertype := "page" }]
    let r := TypeRegistry.empty.afterAll ds
    r.names = ["tag", "label", "*", "note"] ∧
    TypeRegistry.Prevails (TypeRegistry.registered ds) "urgent"
      (.sub "tag" 1 (!·.isEmpty) .text .root) ∧
    TypeRegistry.Prevails (TypeRegistry.registered ds) "" .root ∧
    (∃ t r', r.register { name := "flag", precedence := 0 } = .ok (t, r') ∧
      r'.types = (r.types ++ [t]).mergeSort (Ranked.ahead DataType.precedence)) ∧
    build reminderConfig = .ok reminderGrammar ∧
    (∃ ps, reminderConfig.phrases.mapM (Phrase.compile reminderGrammar.types) = .ok ps ∧
      reminderGrammar.phrases = ps.mergeSort (Ranked.ahead Phrase.precedence)) ∧
    ∃ g', reminderGrammar.addPhrase { template := "noon", type := "time", precedence := 1 } =
        .ok g' ∧
      ∃ p, Phrase.compile reminderGrammar.types
          { template := "noon", type := "time", precedence := 1 } = .ok p ∧
        g'.phrases =
          (reminderGrammar.phrases ++ [p]).mergeSort (Ranked.ahead Phrase.precedence) := by
  intro ds r
  obtain ⟨hregistered, hbuilt⟩ := sorted_by_precedence
  obtain ⟨-, hregister, hinfer⟩ := hregistered ds
  obtain ⟨-, hphrases, hadd⟩ := hbuilt reminderConfig reminderGrammar build_reminderConfig
  have hflag := hregister { name := "flag", precedence := 0 } _ _ rfl
  have hnoon := hadd { template := "noon", type := "time", precedence := 1 } _ rfl
  exact ⟨rfl, (hinfer "urgent").2, (hinfer "").2, ⟨_, _, rfl, hflag⟩, build_reminderConfig,
    hphrases, ⟨_, rfl, hnoon⟩⟩

end Grammar

end SearchBox
