import SearchBox.Proofs.Completion.Arguments
import SearchBox.Proofs.Phrase.SlotGrammar

namespace SearchBox

namespace Slot

/-- A slot that its own text fills. -/
structure Typical (slot : Slot) : Prop where
  accepts : slot.accepts slot.toString = true
  words : Text.words slot.toString = [slot.toString]

theorem keyword_ne_nil_of_readAll {types : TypeRegistry} {template : String} {slots : List Slot}
    (h : readAll types template = .ok slots) {aliases : List String}
    (hslot : .keyword aliases ∈ slots) : aliases ≠ [] := by
  obtain ⟨word, -, hdenotes⟩ := exists_mem_of_forall₂ (readAll_eq_ok_iff.1 h).2 hslot
  cases hdenotes with
  | keyword hform =>
    cases hform with
    | choice hne => exact hne
    | plain => exact List.cons_ne_nil _ _

theorem typical_of_readAll {types : TypeRegistry} {template : String} {slots : List Slot}
    (h : readAll types template = .ok slots) {aliases : List String}
    (hslot : .keyword aliases ∈ slots) : (keyword aliases).Typical := by
  obtain ⟨first, others, rfl⟩ := List.exists_cons_of_ne_nil (keyword_ne_nil_of_readAll h hslot)
  exact ⟨by simp [Slot.accepts, Slot.toString], words_of_readAll h hslot List.mem_cons_self⟩

theorem served_zero (slots : List Slot) (words : List String) : Served slots words 0 :=
  fun i hi => absurd hi (Nat.not_lt_zero i)

theorem served_cons_cons {slot : Slot} {slots : List Slot} {word : String} {words : List String}
    {k : Nat} : Served (slot :: slots) (word :: words) (k + 1) ↔
      slot.accepts word = true ∧ Served slots words k := by
  constructor
  · intro h
    obtain ⟨slot', word', hslot, hword, haccepts⟩ := h 0 (Nat.succ_pos k)
    cases hslot
    cases hword
    exact ⟨haccepts, fun i hi => h (i + 1) (Nat.succ_lt_succ hi)⟩
  · rintro ⟨hword, hwords⟩ i hi
    cases i with
    | zero => exact ⟨slot, word, rfl, rfl, hword⟩
    | succ i => exact hwords i (Nat.lt_of_succ_lt_succ hi)

theorem length_begun_le (slots : List Slot) (words : List String) :
    (begun slots words).length ≤ slots.length := by
  induction slots generalizing words with
  | nil => exact Nat.le_refl 0
  | cons slot slots ih =>
    cases words with
    | nil => exact Nat.zero_le _
    | cons word words =>
      rw [begun]
      split
      · exact Nat.succ_le_succ (ih words)
      · split
        · exact Nat.succ_le_succ (Nat.zero_le _)
        · exact Nat.zero_le _

theorem served_of_fits {slots : List Slot} {words : List String}
    (h : fits slots words = true) :
    Served slots (begun slots words) (begun slots words).length := by
  have haccepts := (fits_iff_forall₂ slots words).1 h
  rw [← begun_of_fits h] at haccepts
  simpa using (isGreatest_served haccepts (.slots [])).1

end Slot

namespace Phrase

theorem fill_accepted_iff {slots : List Slot} (htypical : ∀ slot ∈ slots, slot.Typical)
    {matched : List String} (hlength : matched.length ≤ slots.length) :
    List.Forall₂ (fun slot word => slot.accepts word = true) slots (fill slots matched) ↔
      Slot.Served slots matched matched.length := by
  induction slots generalizing matched with
  | nil =>
    obtain rfl : matched = [] := List.length_eq_zero_iff.1 (Nat.le_zero.1 hlength)
    exact iff_of_true .nil (Slot.served_zero _ _)
  | cons slot slots ih =>
    obtain ⟨hslot, hslots⟩ := List.forall_mem_cons.1 htypical
    cases matched with
    | nil =>
      rw [fill, List.forall₂_cons, ih hslots (Nat.zero_le _)]
      exact iff_of_true ⟨hslot.accepts, Slot.served_zero _ _⟩ (Slot.served_zero _ _)
    | cons word matched =>
      rw [fill, List.forall₂_cons, ih hslots (Nat.le_of_succ_le_succ hlength), List.length_cons,
        Slot.served_cons_cons]

theorem words_of_mem_fill {slots : List Slot} (htypical : ∀ slot ∈ slots, slot.Typical)
    {matched : List String} (hmatched : ∀ w ∈ matched, Text.words w = [w]) :
    ∀ w ∈ fill slots matched, Text.words w = [w] := by
  induction slots generalizing matched with
  | nil => simp [fill]
  | cons slot slots ih =>
    obtain ⟨hslot, hslots⟩ := List.forall_mem_cons.1 htypical
    cases matched with
    | nil => exact List.forall_mem_cons.2 ⟨hslot.words, ih hslots hmatched⟩
    | cons word matched =>
      obtain ⟨hword, hrest⟩ := List.forall_mem_cons.1 hmatched
      exact List.forall_mem_cons.2 ⟨hword, ih hslots hrest⟩

/-- The text on its own is an argument of the phrase, from end to end. -/
def Accepts (p : Phrase) (g : Grammar) (text : String) : Prop :=
  let c := Cursor.start g text
  (p.attempt c).1.isSuccess = true ∧ (p.attempt c).2.isDone = true

instance (p : Phrase) (g : Grammar) (text : String) : Decidable (p.Accepts g text) :=
  inferInstanceAs (Decidable (_ ∧ _))

theorem isSuccess_attempt (p : Phrase) (c : Cursor) :
    (p.attempt c).1.isSuccess = Slot.fits p.slots (c.remaining.map Token.lexeme) := by
  rw [attempt_eq, outcome]
  cases hfits : Slot.fits p.slots (c.remaining.map Token.lexeme) <;> rfl

theorem accepts_iff_reads {p : Phrase} {g : Grammar} {text : String} :
    p.Accepts g text ↔ p.Reads (Text.words text) := by
  have hwords : (Cursor.start g text).remaining.map Token.lexeme = Text.words text := by
    rw [Cursor.remaining_start, Token.map_lexeme_scan]
  have hdone : (p.attempt (Cursor.start g text)).2.isDone = true ↔
      (Text.words text).length ≤ Slot.reach p.slots (Text.words text) := by
    rw [attempt_eq, hwords, Cursor.isDone_eq, Cursor.remaining_skip, List.isEmpty_iff,
      List.drop_eq_nil_iff, ← hwords, List.length_map]
  rw [Accepts, isSuccess_attempt, hdone, hwords]
  constructor
  · rintro ⟨hfits, hreach⟩
    rw [Slot.reach_of_fits hfits] at hreach
    rwa [Slot.fits_iff_forall₂, List.take_of_length_le hreach] at hfits
  · intro h
    exact ⟨h.fits, by rw [Slot.reach_of_fits h.fits, h.length_eq]⟩

variable {p : Phrase}

theorem examples_of_exampler_none (h : p.exampler = none) (matched : List String) :
    p.examples matched = [{ preview := " ".intercalate (fill p.slots matched) }] := by
  rw [examples, h]
  rfl

theorem accepts_fill_iff (htypical : ∀ slot ∈ p.slots, slot.Typical) {matched : List String}
    (hmatched : ∀ w ∈ matched, Text.words w = [w]) (hlength : matched.length ≤ p.slots.length)
    (g : Grammar) :
    p.Accepts g (" ".intercalate (fill p.slots matched)) ↔
      Slot.Served p.slots matched matched.length := by
  rw [accepts_iff_reads, Text.words_intercalate (words_of_mem_fill htypical hmatched), Reads,
    fill_accepted_iff htypical hlength]

theorem lexemes_attempt (p : Phrase) (c : Cursor) :
    (p.attempt c).1.lexemes = Slot.begun p.slots (c.remaining.map Token.lexeme) := by
  rw [attempt_eq, lexemes_outcome]

theorem words_of_mem_lexemes_attempt {g : Grammar} {literal : String} {c : Cursor}
    (h : c.tokens = Token.scan g literal) :
    ∀ w ∈ (p.attempt c).1.lexemes, Text.words w = [w] := by
  intro w hw
  rw [lexemes_attempt] at hw
  obtain ⟨t, ht, rfl⟩ := List.mem_map.1 ((Slot.begun_isPrefix _ _).subset hw)
  have hmem := List.mem_map_of_mem (f := Token.lexeme) (List.mem_of_mem_drop ht)
  rw [h, Token.map_lexeme_scan] at hmem
  exact Text.words_of_mem_words hmem

theorem typical_of_compile {types : TypeRegistry} {d : PhraseDecl}
    (h : Phrase.compile types d = .ok p)
    (hkeywords : ∀ slot ∈ p.slots, ∃ aliases, slot = .keyword aliases) :
    ∀ slot ∈ p.slots, slot.Typical := by
  obtain ⟨t, slots, -, hread, rfl⟩ := Grammar.compilePhrase_eq_ok h
  intro slot hslot
  obtain ⟨aliases, rfl⟩ := hkeywords slot hslot
  exact Slot.typical_of_readAll hread hslot

/-- What stands in where a phrase of keywords has no examples of its own is an argument of the
phrase exactly when no word in it is left unfinished. -/
theorem default_accepted_iff {types : TypeRegistry} {d : PhraseDecl} {p : Phrase}
    (h : Phrase.compile types d = .ok p) (hexampler : p.exampler = none)
    (hkeywords : ∀ slot ∈ p.slots, ∃ aliases, slot = .keyword aliases) (g : Grammar) :
    (∃ e, p.examples [] = [e] ∧ p.Accepts g e.preview) ∧
    ∀ (literal : String) (c : Cursor), c.tokens = Token.scan g literal →
      let taken := (p.attempt c).1.lexemes
      ∃ e, p.examples taken = [e] ∧
        (p.Accepts g e.preview ↔ Slot.Served p.slots taken taken.length) ∧
        ((p.attempt c).1.isSuccess = true → p.Accepts g e.preview) := by
  have htypical := typical_of_compile h hkeywords
  constructor
  · refine ⟨_, examples_of_exampler_none hexampler [], ?_⟩
    rw [accepts_fill_iff htypical (by simp) (Nat.zero_le _)]
    exact Slot.served_zero _ _
  · intro literal c hc taken
    have hlength : taken.length ≤ p.slots.length :=
      (congrArg List.length (lexemes_attempt p c)).trans_le (Slot.length_begun_le _ _)
    have haccepted := accepts_fill_iff htypical (words_of_mem_lexemes_attempt hc) hlength g
    refine ⟨_, examples_of_exampler_none hexampler taken, haccepted, fun hsuccess => ?_⟩
    rw [isSuccess_attempt] at hsuccess
    rw [haccepted, lexemes_attempt]
    exact Slot.served_of_fits hsuccess

/-- Only one text is an argument of this phrase. -/
def weekPhrase : Phrase where
  template := "next week"
  type := timeOfDay
  precedence := 0
  slots := [.keyword ["next"], .keyword ["week"]]
  resolver := none
  exampler := none

theorem compile_weekPhrase :
    Phrase.compile reminderGrammar.types { template := "next week", type := "time" } =
      .ok weekPhrase := rfl

theorem forall_keyword_weekPhrase :
    ∀ slot ∈ weekPhrase.slots, ∃ aliases, slot = .keyword aliases := by
  simp [weekPhrase]

theorem default_accepted_iff_week :
    weekPhrase.examples [] = [{ preview := "next week" }] ∧
      weekPhrase.examples ["next"] = [{ preview := "next week" }] ∧
      weekPhrase.Accepts reminderGrammar "next week" := by
  obtain ⟨-, htyped⟩ :=
    default_accepted_iff compile_weekPhrase rfl forall_keyword_weekPhrase reminderGrammar
  obtain ⟨warm, hwarm, haccepted, -⟩ := htyped "next" (Cursor.start reminderGrammar "next") rfl
  have hcoldExample : weekPhrase.examples [] = [{ preview := "next week" }] := rfl
  have hwarmExample : weekPhrase.examples ["next"] = [{ preview := "next week" }] := rfl
  obtain rfl := List.singleton_inj.1 (hwarmExample.symm.trans hwarm)
  refine ⟨hcoldExample, hwarmExample, haccepted.2 ?_⟩
  rintro (_ | i) hi
  · exact ⟨_, _, rfl, rfl, rfl⟩
  · have hone : i + 1 < 1 := hi
    omega

/-- An unfinished word is taken for a whole one. -/
theorem default_unfinished :
    ¬ ∀ (types : TypeRegistry) (d : PhraseDecl) (p : Phrase), Phrase.compile types d = .ok p →
      p.exampler = none → (∀ slot ∈ p.slots, ∃ aliases, slot = .keyword aliases) →
      ∀ (g : Grammar) (literal : String) (c : Cursor), c.tokens = Token.scan g literal →
        (p.attempt c).1.isSuccess = true ∨ (p.attempt c).1.isUnfinished = true →
        ∀ e ∈ p.examples (p.attempt c).1.lexemes, p.Accepts g e.preview := by
  intro hclaim
  have haccepted := hclaim _ _ weekPhrase compile_weekPhrase rfl forall_keyword_weekPhrase
    reminderGrammar "next we" (Cursor.start reminderGrammar "next we") rfl (.inr (by decide))
    { preview := "next we" } (by decide)
  exact absurd haccepted (by decide)

end Phrase

end SearchBox
