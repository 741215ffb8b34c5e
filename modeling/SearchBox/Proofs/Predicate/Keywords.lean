import SearchBox.Proofs.Completion.Arguments
import SearchBox.Proofs.Grammar.MadeFrom
import SearchBox.Proofs.Predicate.Reopening

namespace SearchBox

/-- For a single word it makes no difference whether words may be left over. -/
theorem Phrase.fits_singleton_iff {p : Phrase} (hslots : p.slots ≠ []) (word : String) :
    p.Fits [word] ↔ p.Reads [word] := by
  obtain ⟨slot, slots, hp⟩ := List.exists_cons_of_ne_nil hslots
  rw [Phrase.Fits, Phrase.Reads, hp, List.length_cons, List.take_of_length_le (by simp)]

theorem Phrase.reads_of_keyword {p : Phrase} {aliases : List String} {k : String}
    (hslots : p.slots = [.keyword aliases]) (hk : k ∈ aliases) : p.Reads [k] := by
  rw [Phrase.Reads, hslots]
  exact .cons (by simpa [Slot.accepts] using hk) .nil

namespace Grammar

/-- Of the phrases for a type and its supertypes, the first in order of precedence that reads all of
the words. -/
def FirstToRead (g : Grammar) (t : DataType) (words : List String) (p : Phrase) : Prop :=
  ∃ before after, g.phrases = before ++ p :: after ∧ p.type ∈ t.chain ∧ p.Reads words ∧
    (∀ q ∈ before, q.type ∈ t.chain → ¬ q.Reads words) ∧ ∀ q ∈ after, q.precedence ≤ p.precedence

variable {g : Grammar} {f : Filter} {o : Operator}

namespace WellFormed

variable (hg : g.WellFormed)

include hg

theorem chosen_singleton_iff {t : DataType} {word : String} {p : Phrase} :
    g.Chosen t [word] p ↔ g.FirstToRead t [word] p := by
  have hreads : ∀ q ∈ g.phrases, q.Fits [word] ↔ q.Reads [word] :=
    fun q hq => Phrase.fits_singleton_iff (hg.slots_ne_nil q hq) word
  refine exists₂_congr fun before after => and_congr_right fun hsplit => ?_
  have hp := hreads p (by simp [hsplit])
  have hbefore : ∀ q ∈ before, q.Fits [word] ↔ q.Reads [word] :=
    fun q hq => hreads q (by simp [hsplit, hq])
  rw [hp]
  refine and_congr_right fun _ => and_congr_right fun _ => and_congr_left fun _ => ?_
  exact forall₂_congr fun q hq => by rw [hbefore q hq]

/-- A word that some phrase reads is read by the first phrase that does. -/
theorem exists_firstToRead (hf : f ∈ g.filters) {m : Phrase} (hm : m ∈ g.phrases)
    (htype : m.type ∈ f.type.chain) {word : String} (hreads : m.Reads [word]) :
    ∃ q, g.FirstToRead f.type [word] q := by
  have hmem : m ∈ g.phrasesFor f.type :=
    List.mem_filter.2 ⟨hm, (hg.isSubtypeOf_phrase_iff hf hm).2 htype⟩
  have hsome : (g.chosen? f.type [word]).isSome = true :=
    List.find?_isSome.2 ⟨m, hmem, hreads.fits⟩
  obtain ⟨q, hq⟩ := Option.isSome_iff_exists.1 hsome
  exact ⟨q, hg.chosen_singleton_iff.1 ((hg.chosen?_eq_some_iff hf).1 hq)⟩

/-- What is read off a word needs a filter and an operator in front of it and nothing else. -/
theorem compile_of_firstToRead {name symbol word literal : String} {q : Phrase}
    (hwords : Text.words literal = [name, symbol, word]) (hcompares : g.Compares name symbol f o)
    (hq : g.FirstToRead f.type [word] q) :
    g.compile literal = .ok ⟨f, o, ⟨f.type, word, q.resolve [word]⟩⟩ := by
  have hchosen := hg.chosen_singleton_iff.2 hq
  have hlen : q.slots.length = [word].length := by
    obtain ⟨-, -, -, -, hreads, -, -⟩ := hq
    exact hreads.length_eq
  have hmeaning := Meaning.predicate hcompares hchosen hlen
  rw [String.intercalate_singleton, ← hwords] at hmeaning
  exact hg.compile_eq_ok_iff.2 hmeaning

end WellFormed

/-- A keyword behind a filter and an operator compiles, to what the first phrase that reads it makes
of it, exactly when the two spellings in front come apart as two words that name the same filter and
the same operator. Spellings without blanks do. -/
theorem compile_keyword {config : Config} (h : build config = .ok g) {m : Phrase}
    {a b k : String} {aliases : List String} (hf : f ∈ g.filters) (ha : a ∈ f.spellings)
    (ho : o ∈ g.operators) (hb : b ∈ o.spellings) (hotype : o.type ∈ f.type.chain)
    (hm : m ∈ g.phrases) (hmtype : m.type ∈ f.type.chain) (hslots : m.slots = [.keyword aliases])
    (hk : k ∈ aliases) :
    ∃ q, g.FirstToRead f.type [k] q ∧
      (g.compile (a ++ " " ++ b ++ " " ++ k) = .ok ⟨f, o, ⟨f.type, k, q.resolve [k]⟩⟩ ↔
        ∃ name ∈ f.spellings, ∃ symbol ∈ o.spellings,
          Text.words (a ++ " " ++ b) = [name, symbol]) ∧
      (Text.words a = [a] → Text.words b = [b] →
        g.compile (a ++ " " ++ b ++ " " ++ k) = .ok ⟨f, o, ⟨f.type, k, q.resolve [k]⟩⟩) := by
  have hg := WellFormed.of_build h
  have hkey : Text.words k = [k] :=
    (MadeFrom.of_build h).words_of_keyword hm (by simp [hslots]) hk
  obtain ⟨q, hq⟩ := hg.exists_firstToRead hf hm hmtype (Phrase.reads_of_keyword hslots hk)
  have hcompile : ∀ name ∈ f.spellings, ∀ symbol ∈ o.spellings,
      Text.words (a ++ " " ++ b) = [name, symbol] →
        g.compile (a ++ " " ++ b ++ " " ++ k) = .ok ⟨f, o, ⟨f.type, k, q.resolve [k]⟩⟩ := by
    intro name hname symbol hsymbol hwords
    refine hg.compile_of_firstToRead ?_ ⟨hf, hname, ho, hsymbol, hotype⟩ hq
    rw [Text.words_append_space, hwords, hkey]
    rfl
  refine ⟨q, hq, ⟨fun hok => ?_, ?_⟩, fun hwa hwb => ?_⟩
  · obtain ⟨name, symbol, hwords, hcompares⟩ := hg.words_of_compile_eq_ok hok
    rw [Text.words_append_space] at hwords
    exact ⟨name, hcompares.name_mem, symbol, hcompares.symbol_mem, List.append_cancel_right hwords⟩
  · rintro ⟨name, hname, symbol, hsymbol, hwords⟩
    exact hcompile name hname symbol hsymbol hwords
  · refine hcompile a ha b hb ?_
    rw [Text.words_append_space, hwa, hwb]
    rfl

theorem compile_keyword_reminder :
    ∃ q, reminderGrammar.FirstToRead timeOfDay ["now"] q ∧
      reminderGrammar.compile "at = now" = .ok ⟨⟨"due", timeOfDay, ["at"]⟩, ⟨"is", .root, ["="]⟩,
        ⟨timeOfDay, "now", q.resolve ["now"]⟩⟩ := by
  have hfilter : ⟨"due", timeOfDay, ["at"]⟩ ∈ reminderGrammar.filters := List.mem_cons_self
  have hoperator : ⟨"is", .root, ["="]⟩ ∈ reminderGrammar.operators := List.mem_cons_self
  have hphrase : ⟨"now", timeOfDay, 1, [.keyword ["now"]], none, none⟩ ∈ reminderGrammar.phrases :=
    List.mem_cons_self
  have hroot : .root ∈ timeOfDay.chain := List.mem_cons_of_mem _ (List.mem_singleton_self _)
  have hkeyword := compile_keyword build_reminderConfig (a := "at") (b := "=") (k := "now")
    hfilter (by decide) hoperator (by decide) hroot hphrase List.mem_cons_self rfl (by decide)
  obtain ⟨q, hq, -, hcompile⟩ := hkeyword
  exact ⟨q, hq, hcompile (by decide) (by decide)⟩

/-- A spelling of two words is accepted by the grammar and found in no literal. -/
def dueDateConfig : Config where
  filters := [{ name := "due date", type := "*" }]
  operators := [{ symbol := "=", type := "*" }]
  phrases := [{ template := "now", type := "*" }]

theorem compile_dueDate_now :
    ∃ g f o m, build dueDateConfig = .ok g ∧ f ∈ g.filters ∧ "due date" ∈ f.spellings ∧
      o ∈ g.operators ∧ "=" ∈ o.spellings ∧ o.type ∈ f.type.chain ∧ m ∈ g.phrases ∧
      m.type ∈ f.type.chain ∧ m.slots = [.keyword ["now"]] ∧
      g.compile ("due date" ++ " " ++ "=" ++ " " ++ "now") = .error ⟨0, .unknownFilter "due"⟩ := by
  refine ⟨⟨.empty, [⟨"due date", .root, []⟩], [⟨"=", .root, []⟩],
    [⟨"now", .root, 0, [.keyword ["now"]], none, none⟩]⟩, _, _, _, rfl,
    List.mem_singleton_self _, List.mem_singleton_self _, List.mem_singleton_self _,
    List.mem_singleton_self _, List.mem_singleton_self _, List.mem_singleton_self _,
    List.mem_singleton_self _, rfl, rfl⟩

end Grammar

end SearchBox
