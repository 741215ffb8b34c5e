import Mathlib.Order.Bounds.Basic
import SearchBox.Proofs.Grammar.WellFormed
import SearchBox.Proofs.Phrase.Matching

namespace SearchBox

theorem getElem?_append_length {α : Type} (xs ys : List α) : (xs ++ ys)[xs.length]? = ys.head? := by
  rw [List.getElem?_append_right le_rfl, Nat.sub_self, List.head?_eq_getElem?]

namespace Slot

/-- Each of the first `k` slots accepts the word in its place. -/
def Served (slots : List Slot) (words : List String) (k : Nat) : Prop :=
  ∀ i < k, ∃ slot word, slots[i]? = some slot ∧ words[i]? = some word ∧ slot.accepts word = true

section Split

variable {front rest : List Slot} {accepted others : List String}
  (h : List.Forall₂ (fun slot word => slot.accepts word = true) front accepted)

include h

theorem fits_append : fits (front ++ rest) (accepted ++ others) = fits rest others := by
  induction h with
  | nil => rfl
  | cons hword _ ih => simp [fits, hword, ih]

theorem begun_append :
    begun (front ++ rest) (accepted ++ others) = accepted ++ begun rest others := by
  induction h with
  | nil => rfl
  | cons hword _ ih => simp [begun, hword, ih]

theorem reach_append :
    reach (front ++ rest) (accepted ++ others) = accepted.length + reach rest others := by
  induction h with
  | nil => simp
  | cons hword _ ih =>
    simp only [List.cons_append, reach, hword, if_true, ih, List.length_cons]
    omega

end Split

/-- Where words stop serving slots: the slots or the words end, or a word is not accepted. -/
inductive Stop : List Slot → List String → Prop
  | slots (words : List String) : Stop [] words
  | words (slot : Slot) (slots : List Slot) : Stop (slot :: slots) []
  | word {slot : Slot} {word : String} (h : slot.accepts word = false) (slots : List Slot)
      (words : List String) : Stop (slot :: slots) (word :: words)

theorem exists_stop (slots : List Slot) (words : List String) :
    ∃ front rest accepted others, slots = front ++ rest ∧ words = accepted ++ others ∧
      List.Forall₂ (fun slot word => slot.accepts word = true) front accepted ∧
      Stop rest others := by
  induction slots generalizing words with
  | nil => exact ⟨[], [], [], words, rfl, rfl, .nil, .slots words⟩
  | cons slot slots ih =>
    cases words with
    | nil => exact ⟨[], slot :: slots, [], [], rfl, rfl, .nil, .words slot slots⟩
    | cons word words =>
      by_cases hword : slot.accepts word = true
      · obtain ⟨front, rest, accepted, others, rfl, rfl, h, hstop⟩ := ih words
        exact ⟨slot :: front, rest, word :: accepted, others, rfl, rfl, .cons hword h, hstop⟩
      · exact ⟨[], slot :: slots, [], word :: words, rfl, rfl, .nil,
          .word (by simpa using hword) slots words⟩

theorem isGreatest_served {front rest : List Slot} {accepted others : List String}
    (h : List.Forall₂ (fun slot word => slot.accepts word = true) front accepted)
    (hstop : Stop rest others) :
    IsGreatest {k | Served (front ++ rest) (accepted ++ others) k} accepted.length := by
  have hlength := h.length_eq
  constructor
  · intro i hi
    have hi' : i < front.length := by omega
    refine ⟨front[i], accepted[i], ?_, ?_, ?_⟩
    · simp [List.getElem?_append_left hi']
    · simp [List.getElem?_append_left hi]
    · exact (List.forall₂_iff_get.1 h).2 i hi' hi
  · intro k hk
    by_contra hlt
    obtain ⟨slot, word, hslot, hword, haccepts⟩ := hk accepted.length (by omega)
    rw [← hlength, getElem?_append_length] at hslot
    rw [getElem?_append_length] at hword
    cases hstop with
    | slots => simp at hslot
    | words => simp at hword
    | word hreject =>
      obtain rfl : _ = slot := by simpa using hslot
      obtain rfl : _ = word := by simpa using hword
      simp [hreject] at haccepts

end Slot

theorem Attempt.weight_pos_iff {a : Attempt} (h : ∀ t ∈ a.tokens, t.lexeme ≠ "") :
    0 < a.weight ↔ a.tokens ≠ [] := by
  rw [Attempt.weight_eq_letters]
  constructor
  · intro hpos hnil
    simp [Attempt.lexemes, hnil] at hpos
  · intro hne
    refine Text.letters_pos (by simpa [Attempt.lexemes] using hne) ?_
    simpa [Attempt.lexemes] using h

theorem Token.lexeme_ne_empty_of_mem_scan {g : Grammar} {literal : String} {t : Token}
    (h : t ∈ Token.scan g literal) : t.lexeme ≠ "" := by
  have hmem := List.mem_map_of_mem (f := Token.lexeme) h
  rw [Token.map_lexeme_scan] at hmem
  exact Text.ne_empty_of_mem_words hmem

namespace Phrase

variable {p : Phrase} {c : Cursor} {front rest : List Slot} {accepted others : List String}

/-- The slots and words that have come together play no further part. -/
theorem attempt_of_append (hslots : p.slots = front ++ rest)
    (hwords : c.remaining.map Token.lexeme = accepted ++ others)
    (h : List.Forall₂ (fun slot word => slot.accepts word = true) front accepted) :
    p.attempt c =
      (if Slot.fits rest others then
        .success (c.remaining.take (accepted.length + (Slot.begun rest others).length))
          (p.resolve (accepted ++ Slot.begun rest others))
      else
        .failure (c.remaining.take (accepted.length + (Slot.begun rest others).length))
          (!(accepted ++ Slot.begun rest others).isEmpty),
      c.skip (accepted.length + Slot.reach rest others)) := by
  have hbegun : Slot.begun p.slots (c.remaining.map Token.lexeme) =
      accepted ++ Slot.begun rest others := by rw [hslots, hwords, Slot.begun_append h]
  rw [attempt_eq]
  simp only [outcome, isEmpty_take_begun]
  rw [hbegun, hwords, hslots, Slot.fits_append h, Slot.reach_append h, List.length_append]

theorem unfinished_iff_of_attempt {tokens : List Token} {unfinished : Bool}
    (h : (p.attempt c).1 = .failure tokens unfinished) : unfinished = true ↔ tokens ≠ [] := by
  rw [attempt_eq, outcome] at h
  split at h
  · cases h
  · cases h
    simp

theorem weight_pos_iff_of_attempt {g : Grammar} {literal : String}
    (hc : c.tokens = Token.scan g literal) :
    0 < (p.attempt c).1.weight ↔ (p.attempt c).1.tokens ≠ [] := by
  refine Attempt.weight_pos_iff fun t ht => ?_
  rw [attempt_eq, tokens_outcome] at ht
  have hmem : t ∈ c.tokens := List.mem_of_mem_drop (List.mem_of_mem_take ht)
  exact Token.lexeme_ne_empty_of_mem_scan (hc ▸ hmem)

/-- What an attempt finds, and how far it goes, when `k` slots are served and no more. -/
theorem attempt_longest (p : Phrase) (c : Cursor) :
    ∃ k, IsGreatest {k | Slot.Served p.slots (c.remaining.map Token.lexeme) k} k ∧
      (k = p.slots.length → p.attempt c =
        (.success (c.remaining.take k) (p.resolve ((c.remaining.take k).map Token.lexeme)),
          c.skip k)) ∧
      (k < p.slots.length → k = c.remaining.length →
        p.attempt c = (.failure (c.remaining.take k) (decide (0 < k)), c.skip k) ∧
          (c.skip k).isDone = true) ∧
      (∀ slot t, p.slots[k]? = some slot → c.remaining[k]? = some t → slot.Begins t.lexeme →
        p.attempt c = (.failure (c.remaining.take (k + 1)) true, c.skip (k + 1))) ∧
      (∀ slot t, p.slots[k]? = some slot → c.remaining[k]? = some t → ¬ slot.Begins t.lexeme →
        p.attempt c = (.failure (c.remaining.take k) (decide (0 < k)), c.skip (k + 1))) ∧
      (p.attempt c).2.saved = c.saved ∧
      ∀ tokens unfinished, (p.attempt c).1 = .failure tokens unfinished →
        (unfinished = true ↔ tokens ≠ []) ∧
        ∀ g literal, c.tokens = Token.scan g literal →
          (unfinished = true ↔ 0 < (p.attempt c).1.weight) := by
  obtain ⟨front, rest, accepted, others, hslots, hwords, h, hstop⟩ :=
    Slot.exists_stop p.slots (c.remaining.map Token.lexeme)
  have hattempt := attempt_of_append hslots hwords h
  have hlength := h.length_eq
  have hrest : p.slots[accepted.length]? = rest.head? := by
    rw [hslots, ← hlength, getElem?_append_length]
  have hothers : c.remaining[accepted.length]?.map Token.lexeme = others.head? := by
    rw [← List.getElem?_map, hwords, getElem?_append_length]
  have hpositive : decide (0 < accepted.length) = !accepted.isEmpty := by
    rw [Bool.eq_iff_iff]
    simp [List.length_pos_iff]
  -- A slot and a word that stand there both are what the words stopped at.
  have hrejected : ∀ slot t, p.slots[accepted.length]? = some slot →
      c.remaining[accepted.length]? = some t → ∃ slots words, rest = slot :: slots ∧
        others = t.lexeme :: words ∧ slot.accepts t.lexeme = false := by
    intro slot t hslot ht
    rw [hslot] at hrest
    rw [ht] at hothers
    obtain ⟨slots, rfl⟩ := List.head?_eq_some_iff.1 hrest.symm
    obtain ⟨words, rfl⟩ := List.head?_eq_some_iff.1 hothers.symm
    cases hstop with
    | word hreject => exact ⟨slots, words, rfl, rfl, hreject⟩
  refine ⟨accepted.length, ?_, ?_, ?_, ?_, ?_, ?_, ?_⟩
  · rw [hslots, hwords]
    exact Slot.isGreatest_served h hstop
  · intro hk
    rw [hk, List.getElem?_eq_none le_rfl] at hrest
    obtain rfl := List.head?_eq_none_iff.1 hrest.symm
    simpa [Slot.fits, Slot.begun, Slot.reach, List.map_take, hwords] using hattempt
  · intro hk hend
    rw [hend, List.getElem?_eq_none le_rfl] at hothers
    obtain rfl := List.head?_eq_none_iff.1 hothers.symm
    cases hstop with
    | slots => simp [hslots, hlength] at hk
    | words slot slots =>
      rw [hpositive]
      refine ⟨by simpa [Slot.fits, Slot.begun, Slot.reach] using hattempt, ?_⟩
      rw [Cursor.isDone_eq, Cursor.remaining_skip, hend, List.drop_length, List.isEmpty_nil]
  · intro slot t hslot ht hbegins
    obtain ⟨slots, words, rfl, rfl, hreject⟩ := hrejected slot t hslot ht
    have htaken : (accepted ++ [t.lexeme]).isEmpty = false := by simp
    simpa [Slot.fits, Slot.begun, Slot.reach, hreject, hbegins, htaken] using hattempt
  · intro slot t hslot ht hbegins
    obtain ⟨slots, words, rfl, rfl, hreject⟩ := hrejected slot t hslot ht
    rw [hpositive]
    simpa [Slot.fits, Slot.begun, Slot.reach, hreject, hbegins] using hattempt
  · rw [attempt_eq]
    rfl
  · intro tokens unfinished hfailure
    have hunfinished := unfinished_iff_of_attempt hfailure
    refine ⟨hunfinished, fun g literal hc => ?_⟩
    rw [weight_pos_iff_of_attempt hc, hfailure, hunfinished]
    rfl

theorem attempt_longest_unfinished :
    let p : Phrase := ⟨"<time> [today|tomorrow]", timeOfDay, 0,
      [.parameter timeOfDay, .keyword ["today", "tomorrow"]], none, none⟩
    let c := (Cursor.start reminderGrammar "due is 12:30 tom").skip 2
    p.attempt c = (.failure [⟨.word, "12:30", 7⟩, ⟨.word, "tom", 13⟩] true, c.skip 2) ∧
      0 < (p.attempt c).1.weight := by
  intro p c
  obtain ⟨k, hk, -, -, hbegun, -, -, hfailure⟩ := attempt_longest p c
  have hserved : List.Forall₂ (fun slot word => slot.accepts word = true)
      [Slot.parameter timeOfDay] ["12:30"] := .cons rfl .nil
  have hstop : Slot.Stop [.keyword ["today", "tomorrow"]] ["tom"] := .word rfl [] []
  obtain rfl : k = 1 := hk.unique (Slot.isGreatest_served hserved hstop)
  have hattempt := hbegun (.keyword ["today", "tomorrow"]) ⟨.word, "tom", 13⟩ rfl rfl
    ⟨_, rfl, "tomorrow", by decide, by decide⟩
  obtain ⟨-, hweight⟩ := hfailure _ _ (congrArg Prod.fst hattempt)
  exact ⟨hattempt, (hweight reminderGrammar "due is 12:30 tom" rfl).1 rfl⟩

end Phrase

end SearchBox
