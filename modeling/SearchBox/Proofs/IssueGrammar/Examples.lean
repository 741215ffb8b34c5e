import SearchBox.Proofs.Completion.Arguments
import SearchBox.Proofs.IssueGrammar.Parts
import SearchBox.Proofs.Text.Numeral

namespace SearchBox.IssueGrammar

/-! What the phrases show for any typed words, they read themselves. -/

/-- A lone parameter reads the word that it echoes. -/
theorem readsExamples_of_echo {p : Phrase} {t : DataType} {fallback : List Example}
    (hslots : p.slots = [.parameter t]) (hexampler : p.exampler = some (echoOr fallback))
    (hfallback : ∀ e ∈ p.examples [], Text.words e.preview = [e.preview] ∧
      t.accepts e.preview = true) : p.ReadsExamples := by
  intro words hwords e he
  have hpreview : Text.words e.preview = [e.preview] ∧ t.accepts e.preview = true := by
    rw [hslots] at he
    rcases Slot.begun_parameter t [] words with hnil | ⟨word, rest, rfl, haccepts, hbegun⟩
    · rw [hnil] at he
      exact hfallback e he
    · have hecho : p.examples (word :: Slot.begun [] rest) = [{ preview := word }] :=
        Phrase.examples_of_exampler hexampler (List.cons_ne_nil _ _)
      rw [hbegun, hecho] at he
      obtain rfl := List.mem_singleton.1 he
      exact ⟨hwords word List.mem_cons_self, haccepts⟩
  rw [Phrase.Reads, hslots, hpreview.1]
  exact .cons hpreview.2 .nil

theorem plural_mem_units (count : Decimal) (word : String) :
    plural count (unitLike word) ∈ units := by
  unfold plural unitLike
  split <;> split <;> decide

theorem words_of_mem_units {unit : String} (h : unit ∈ units) : Text.words unit = [unit] := by
  have hall : ∀ u ∈ units, Text.words u = [u] := by decide
  exact hall unit h

theorem agoExamples_ne_nil (words : List String) : agoExamples words ≠ [] := by
  unfold agoExamples
  split <;> simp

/-- However far the words go, the span has a number that was typed and a unit of the template. -/
theorem of_mem_agoExamples {words : List String} (hwords : ∀ w ∈ words, Text.words w = [w])
    {e : Example} (he : e ∈ agoExamples (Slot.begun agoSlots words)) :
    ∃ count unit, e.preview = count ++ " " ++ unit ++ " ago" ∧ Text.words count = [count] ∧
      numberWord count = true ∧ unit ∈ units := by
  rcases Slot.begun_parameter numberType [.keyword units, .keyword ["ago"]] words with
    hnil | ⟨count, rest, rfl, hnumber, hbegun⟩
  · rw [agoSlots, hnil] at he
    obtain rfl := List.mem_singleton.1 he
    exact ⟨"3", "days", rfl, by decide, by decide, by decide⟩
  · have hcount := hwords count List.mem_cons_self
    rw [agoSlots, hbegun] at he
    match htyped : Slot.begun [.keyword units, .keyword ["ago"]] rest with
    | [] =>
      rw [htyped] at he
      obtain rfl := List.mem_singleton.1 he
      exact ⟨count, _, rfl, hcount, hnumber, plural_mem_units _ "day"⟩
    | [unit] =>
      rw [htyped] at he
      obtain rfl := List.mem_singleton.1 he
      exact ⟨count, _, rfl, hcount, hnumber, plural_mem_units _ unit⟩
    | unit :: next :: others =>
      rw [htyped] at he
      obtain rfl := List.mem_singleton.1 he
      have hunit := Slot.accepts_of_begun_cons_cons htyped
      exact ⟨count, unit, rfl, hcount, hnumber, by simpa [Slot.accepts] using hunit⟩

theorem readsExamples_of_ago {p : Phrase} (hslots : p.slots = agoSlots)
    (hexampler : p.exampler = some agoExamples) : p.ReadsExamples := by
  intro words hwords e he
  have hago : e ∈ agoExamples (Slot.begun agoSlots words) := by
    rwa [hslots, Phrase.examples_of_exampler hexampler (agoExamples_ne_nil _)] at he
  obtain ⟨count, unit, hpreview, hcount, hnumber, hunit⟩ := of_mem_agoExamples hwords hago
  have hsplit : count ++ " " ++ unit ++ " ago" = count ++ " " ++ unit ++ " " ++ "ago" := by
    rw [@String.append_assoc _ " " "ago"]
    rfl
  rw [Phrase.Reads, hslots, hpreview, hsplit, Text.words_append_space, Text.words_append_space,
    hcount, words_of_mem_units hunit]
  exact .cons hnumber (.cons (by simpa [Slot.accepts] using hunit) (.cons rfl .nil))

theorem readsExamples_of_mem_phrases {now : Int} (hnow : 0 ≤ now) :
    ∀ p ∈ (grammar now).phrases, p.ReadsExamples := by
  obtain ⟨n, rfl⟩ := Int.eq_ofNat_of_zero_le hnow
  refine List.forall_mem_cons.2 ⟨readsExamples_of_ago rfl rfl, ?_⟩
  -- Four phrases are keywords that show themselves.
  iterate 4
    refine List.forall_mem_cons.2 ⟨Phrase.readsExamples_of_keyword rfl rfl fun _ e he => ?_, ?_⟩
    · obtain rfl := List.mem_singleton.1 he
      rfl
  refine List.forall_mem_cons.2 ⟨readsExamples_of_echo rfl rfl fun e he => ?_, ?_⟩
  · obtain rfl := List.mem_singleton.1 he
    exact ⟨Text.words_toString n, Text.allDigits_toString n⟩
  refine List.forall_mem_cons.2 ⟨readsExamples_of_echo rfl rfl fun e he => ?_, ?_⟩
  · rcases List.mem_cons.1 he with rfl | he
    · exact ⟨rfl, rfl⟩
    · obtain rfl := List.mem_singleton.1 he
      exact ⟨rfl, rfl⟩
  refine List.forall_mem_singleton.2 (readsExamples_of_echo rfl rfl fun e he => ?_)
  obtain rfl := List.mem_singleton.1 he
  exact ⟨rfl, rfl⟩

theorem head?_or_length_slots_of_mem_phrases (now : Int) :
    ∀ p ∈ (grammar now).phrases,
      (grammar now).phrases.head? = some p ∨ p.slots.length = 1 := by
  refine List.forall_mem_cons.2 ⟨.inl rfl, fun p hp => .inr ?_⟩
  have hall : (grammar now).phrases.tail.all (·.slots.length == 1) = true := rfl
  simpa using List.all_eq_true.1 hall p hp

/-- The phrase in front is the only one of several words, so what it reads is not taken from it,
and what another phrase reads is a word that only phrases of one word take. -/
theorem exists_chosen?_of_reads {now : Int} {t : DataType} {p : Phrase} {words : List String}
    (hp : p ∈ (grammar now).phrasesFor t) (h : p.Reads words) :
    ∃ m, (grammar now).chosen? t words = some m ∧ m.slots.length = words.length := by
  obtain ⟨hphrase, htype⟩ := List.mem_filter.1 hp
  rcases head?_or_length_slots_of_mem_phrases now p hphrase with hhead | hone
  · obtain ⟨others, hphrases⟩ := List.head?_eq_some_iff.1 hhead
    refine ⟨p, ?_, h.length_eq⟩
    have hfor : (grammar now).phrasesFor t = p :: others.filter fun q => t.isSubtypeOf q.type := by
      rw [Grammar.phrasesFor, hphrases, List.filter_cons, if_pos htype]
    rw [Grammar.chosen?, hfor, List.find?_cons, h.fits]
  · have hsome : ((grammar now).chosen? t words).isSome = true :=
      List.find?_isSome.2 ⟨p, hp, h.fits⟩
    obtain ⟨m, hm⟩ := Option.isSome_iff_exists.1 hsome
    have hg := Grammar.WellFormed.of_build (build_eq_ok now)
    have hmem := List.mem_of_mem_filter (List.mem_of_find?_eq_some hm)
    have hpos := List.length_pos_of_ne_nil (hg.slots_ne_nil m hmem)
    have hle := Slot.length_le_of_fits (Grammar.fits_of_chosen? _ hm)
    have hlen := h.length_eq
    exact ⟨m, hm, by omega⟩

theorem words_of_mem_filters (now : Int) :
    ∀ f ∈ (grammar now).filters, Text.words f.name = [f.name] := by
  have hall : (grammar now).filters.all (fun f => Text.words f.name == [f.name]) = true := rfl
  simpa using List.all_eq_true.1 hall

theorem words_of_mem_operators (now : Int) :
    ∀ o ∈ (grammar now).operators, Text.words o.symbol = [o.symbol] := by
  have hall : (grammar now).operators.all (fun o => Text.words o.symbol == [o.symbol]) = true :=
    rfl
  simpa using List.all_eq_true.1 hall

/-- Every suggested argument can be entered as it stands, whatever was typed. -/
theorem compile_plain_of_suggested {now : Int} (hnow : 0 ≤ now) :
    ∃ g, build now = .ok g ∧
      ∀ s : String, ∀ c ∈ g.suggest s, ∀ t e n, c.argument = .suggested t e n →
        ∃ p, g.compile c.plain = .ok p ∧ p.filter = c.filter ∧ some p.operator = c.operator := by
  refine ⟨grammar now, build_eq_ok now, ?_⟩
  intro s c hc t e n hargument
  have hg := Grammar.WellFormed.of_build (build_eq_ok now)
  rcases hg.isOpen_or_offers hc with ⟨u, hopen⟩ | ⟨f, o, p, shown, hoffers⟩
  · rw [hopen] at hargument
    nomatch hargument
  · obtain ⟨words, htyped, hshown⟩ := hoffers.example_mem
    obtain ⟨weight, rfl⟩ := hoffers.eq_ofExample
    have hphrase := List.mem_of_mem_filter hoffers.phrase_mem
    have hwords : ∀ w ∈ words, Text.words w = [w] :=
      fun w hw => Text.words_of_mem_words (htyped w hw)
    have hreads := readsExamples_of_mem_phrases hnow p hphrase words hwords shown hshown
    obtain ⟨m, hm, hlen⟩ := exists_chosen?_of_reads hoffers.phrase_mem hreads
    obtain ⟨predicate, hcompile, hfilter, hoperator⟩ :=
      hg.compile_plain_of_chosen? hoffers.filter_mem hoffers.operator_mem hoffers.suits
        (words_of_mem_filters now f hoffers.filter_mem)
        (words_of_mem_operators now o hoffers.operator_mem) hm hlen weight
    exact ⟨predicate, hcompile, hfilter, congrArg some hoperator⟩

theorem compile_plain_of_suggested_span :
    ∃ c ∈ (grammar 1700000000000).suggest "created before 1.5 d",
      c.plain = "created before 1.5 days ago" ∧
        ∃ p, (grammar 1700000000000).compile "created before 1.5 days ago" = .ok p ∧
          p.filter = c.filter ∧ some p.operator = c.operator := by
  obtain ⟨g, hbuild, hcompile⟩ :=
    compile_plain_of_suggested (by decide : (0 : Int) ≤ 1700000000000)
  obtain rfl : grammar 1700000000000 = g :=
    Except.ok.inj ((build_eq_ok 1700000000000).symm.trans hbuild)
  have hmem : .ofExample ⟨"created", timestampType, []⟩ ⟨"before", timestampType, []⟩ 4
      { preview := "1.5 days ago" } ∈ (grammar 1700000000000).suggest "created before 1.5 d" :=
    List.mem_of_getElem? (rfl : (Grammar.suggest _ _)[0]? = some _)
  exact ⟨_, hmem, rfl, hcompile "created before 1.5 d" _ hmem _ _ _ rfl⟩

end SearchBox.IssueGrammar
