import SearchBox.Proofs.Phrase.LongestMatch
import SearchBox.Proofs.Phrase.Templates

namespace SearchBox

namespace Slot

/-- The word is one of the keywords of the slot. -/
def Offers (slot : Slot) (word : String) : Prop :=
  ∃ aliases, slot = keyword aliases ∧ word ∈ aliases

theorem Offers.accepts {slot : Slot} {word : String} (h : slot.Offers word) :
    slot.accepts word = true := by
  obtain ⟨aliases, rfl, hword⟩ := h
  simpa [Slot.accepts] using hword

/-- Whatever is chosen for each slot, joined by spaces, is told apart again and all accepted. -/
theorem attempt_of_offers {types : TypeRegistry} {template : String} {p : Phrase}
    {chosen : List String} (hread : readAll types template = .ok p.slots)
    (h : List.Forall₂ Offers p.slots chosen) (g : Grammar) :
    let c := Cursor.start g (" ".intercalate chosen)
    c.tokens.map Token.lexeme = chosen ∧
      p.attempt c = (.success c.tokens (p.resolve chosen), c.skip c.tokens.length) := by
  intro c
  have hwords : ∀ word ∈ chosen, Text.words word = [word] := by
    intro word hword
    obtain ⟨slot, hslot, aliases, rfl, hmem⟩ := exists_mem_of_forall₂ h hword
    exact words_of_readAll hread hslot hmem
  have hremaining : c.remaining = c.tokens := Cursor.remaining_start g _
  have hlexemes : c.tokens.map Token.lexeme = chosen := by
    rw [Cursor.tokens_start, Token.map_lexeme_scan, Text.words_intercalate hwords]
  have hlength : chosen.length = c.tokens.length := by rw [← hlexemes, List.length_map]
  have haccepts : List.Forall₂ (fun slot word => slot.accepts word = true) p.slots chosen :=
    h.imp fun _ _ => Offers.accepts
  have hattempt := Phrase.attempt_of_append (p := p) (c := c) (List.append_nil p.slots).symm
    (by rw [hremaining, hlexemes, List.append_nil]) haccepts
  refine ⟨hlexemes, ?_⟩
  simpa [Slot.fits, Slot.begun, Slot.reach, hlength, hremaining] using hattempt

/-- What a template is read as, which error it gets otherwise, and what its keywords match. -/
theorem readAll_denotes (types : TypeRegistry) (template : String) :
    (∀ slots, readAll types template = .ok slots ↔
      Text.words template ≠ [] ∧ List.Forall₂ (Denotes types) (Text.words template) slots) ∧
    (∀ e, readAll types template = .error e ↔
      FirstFault (fun _ word e => Fault types.names template word e) (Text.words template) e ∨
        Text.words template = [] ∧ e = .emptyTemplate template) ∧
    ∀ slots, readAll types template = .ok slots →
      (∀ aliases, .keyword aliases ∈ slots →
        ∀ k ∈ aliases, k ≠ "" ∧ ∀ c ∈ k.toList, Text.isBlank c = false) ∧
      ∀ p : Phrase, p.slots = slots → ∀ chosen, List.Forall₂ Offers slots chosen →
        ∀ g, let c := Cursor.start g (" ".intercalate chosen)
          c.tokens.map Token.lexeme = chosen ∧
            p.attempt c = (.success c.tokens (p.resolve chosen), c.skip c.tokens.length) ∧
            (p.attempt c).2.isDone = true := by
  refine ⟨fun slots => readAll_eq_ok_iff, fun e => readAll_eq_error_iff fun _ => Iff.rfl, ?_⟩
  intro slots hread
  constructor
  · intro aliases hslot k hk
    have hword : k ∈ Text.words k := by
      rw [words_of_readAll hread hslot hk]
      exact List.mem_singleton_self k
    exact ⟨Text.ne_empty_of_mem_words hword, Text.isBlank_of_mem_words hword⟩
  · rintro p rfl chosen hchosen g c
    obtain ⟨hlexemes, hattempt⟩ := attempt_of_offers hread hchosen g
    refine ⟨hlexemes, hattempt, ?_⟩
    rw [hattempt, Cursor.isDone_eq, Cursor.remaining_skip, Cursor.remaining_start,
      Cursor.tokens_start, List.drop_length, List.isEmpty_nil]

theorem readAll_denotes_week :
    let types := reminderGrammar.types
    let p : Phrase := ⟨"[this|next] week", timeOfDay, 0,
      [.keyword ["this", "next"], .keyword ["week"]], none, none⟩
    let c := Cursor.start reminderGrammar "next week"
    List.Forall₂ (Denotes types) ["[this|next]", "week"] p.slots ∧
      p.attempt c = (.success c.tokens (.text "next week"), c.skip 2) ∧
      FirstFault (fun _ word e => Fault types.names "[next] <week> []" word e)
        ["[next]", "<week>", "[]"] (.unknownType "week") := by
  intro types p c
  have hread : readAll types "[this|next] week" = .ok p.slots := rfl
  have hchosen : List.Forall₂ Offers p.slots ["next", "week"] :=
    .cons ⟨_, rfl, by decide⟩ (.cons ⟨_, rfl, by decide⟩ .nil)
  obtain ⟨hok, -, hslots⟩ := readAll_denotes types "[this|next] week"
  obtain ⟨-, herror, -⟩ := readAll_denotes types "[next] <week> []"
  obtain ⟨-, hattempt, -⟩ := (hslots p.slots hread).2 p rfl _ hchosen reminderGrammar
  have hfault : readAll types "[next] <week> []" = .error (.unknownType "week") := rfl
  exact ⟨((hok p.slots).1 hread).2, hattempt, ((herror _).1 hfault).resolve_right nofun⟩

end Slot

end SearchBox
