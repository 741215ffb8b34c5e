import SearchBox.Editor.Basic
import SearchBox.Proofs.Predicate.Meaning

namespace SearchBox

theorem Predicate.words_toString (p : Predicate) :
    Text.words p.toString =
      Text.words (p.filter.name ++ " " ++ p.operator.symbol) ++ Text.words p.argument.literal := by
  rw [Predicate.toString, Text.words_append_space]

namespace Grammar.WellFormed

variable {g : Grammar} (hg : g.WellFormed)

include hg

/-- The argument of a predicate keeps all words of its literal but the first two. -/
theorem words_of_compile_eq_ok {literal : String} {p : Predicate}
    (h : g.compile literal = .ok p) :
    ∃ name symbol, Text.words literal = name :: symbol :: Text.words p.argument.literal ∧
      g.Compares name symbol p.filter p.operator := by
  have hmeaning := hg.compile_eq_ok_iff.1 h
  generalize hwords : Text.words literal = ws at hmeaning
  cases hmeaning with
  | @predicate name symbol word words f o m hcompares hchosen hlen =>
    have hargument : ∀ w ∈ word :: words, Text.words w = [w] := by
      intro w hw
      have hmem : w ∈ Text.words literal := by
        rw [hwords]
        exact List.mem_cons_of_mem _ (List.mem_cons_of_mem _ hw)
      exact Text.words_of_mem_words hmem
    exact ⟨name, symbol, by rw [Text.words_intercalate hargument], hcompares⟩

/-- The value of a predicate is what a phrase makes of all words of the argument. -/
theorem value_of_compile_eq_ok {literal : String} {p : Predicate}
    (h : g.compile literal = .ok p) :
    ∃ m, g.Chosen p.filter.type (Text.words p.argument.literal) m ∧
      m.slots.length = (Text.words p.argument.literal).length ∧
      p.argument.value = m.resolve (Text.words p.argument.literal) := by
  obtain ⟨name, symbol, hwords, -⟩ := hg.words_of_compile_eq_ok h
  have hmeaning := hg.compile_eq_ok_iff.1 h
  rw [hwords] at hmeaning
  generalize Text.words p.argument.literal = words at hmeaning ⊢
  cases hmeaning with
  | predicate _ hchosen hlen => exact ⟨_, hchosen, hlen, rfl⟩

/-- Other spellings of the filter and the operator make no difference. -/
theorem compile_eq_ok_of_words {literal literal' name symbol : String} {p : Predicate}
    (h : g.compile literal = .ok p)
    (hwords : Text.words literal' = name :: symbol :: Text.words p.argument.literal)
    (hname : name ∈ p.filter.spellings) (hsymbol : symbol ∈ p.operator.spellings) :
    g.compile literal' = .ok p := by
  obtain ⟨name₀, symbol₀, hwords₀, hcompares₀⟩ := hg.words_of_compile_eq_ok h
  have hcompares : g.Compares name symbol p.filter p.operator :=
    { hcompares₀ with name_mem := hname, symbol_mem := hsymbol }
  have hmeaning := hg.compile_eq_ok_iff.1 h
  rw [hg.compile_eq_ok_iff, hwords]
  rw [hwords₀] at hmeaning
  generalize Text.words p.argument.literal = words at hmeaning
  cases hmeaning with
  | predicate _ hchosen hlen => exact .predicate hcompares hchosen hlen

theorem compile_toString_eq_ok_iff {literal : String} {p : Predicate}
    (h : g.compile literal = .ok p) :
    g.compile p.toString = .ok p ↔
      ∃ name symbol, Text.words (p.filter.name ++ " " ++ p.operator.symbol) = [name, symbol] ∧
        name ∈ p.filter.spellings ∧ symbol ∈ p.operator.spellings := by
  constructor
  · intro hshown
    obtain ⟨name, symbol, hwords, hcompares⟩ := hg.words_of_compile_eq_ok hshown
    rw [p.words_toString] at hwords
    exact ⟨name, symbol, List.append_cancel_right hwords, hcompares.name_mem,
      hcompares.symbol_mem⟩
  · rintro ⟨name, symbol, hwords, hname, hsymbol⟩
    apply hg.compile_eq_ok_of_words h _ hname hsymbol
    rw [p.words_toString, hwords]
    rfl

theorem compile_toString_of_words {literal : String} {p : Predicate}
    (h : g.compile literal = .ok p) (hname : Text.words p.filter.name = [p.filter.name])
    (hsymbol : Text.words p.operator.symbol = [p.operator.symbol]) :
    g.compile p.toString = .ok p := by
  refine (hg.compile_toString_eq_ok_iff h).2 ⟨p.filter.name, p.operator.symbol, ?_,
    List.mem_cons_self, List.mem_cons_self⟩
  rw [Text.words_append_space, hname, hsymbol]
  rfl

end Grammar.WellFormed

namespace Editor

variable {g : Grammar} {e : Editor} {p : Predicate}

theorem input_press_enter_of_compile (h : g.compile e.input.text = .ok p) :
    (e.press g .enter).input = e.input.commit p := by
  rw [press, enter, h]
  rfl

theorem input_press_backspace_of_empty (h : e.input.text.isEmpty = true) :
    (e.press g .backspace).input = e.input.reopen := by
  rw [press, if_pos h]
  rfl

/-- Backspace turns the predicate that Enter has just committed into text. -/
theorem input_press_backspace_of_compile (h : g.compile e.input.text = .ok p) :
    ((e.press g .enter).press g .backspace).input = ⟨p.toString, e.input.committed⟩ := by
  have hentered : (e.press g .enter).input = e.input.commit p := input_press_enter_of_compile h
  have hempty : (e.press g .enter).input.text.isEmpty = true := by
    rw [hentered]
    rfl
  rw [input_press_backspace_of_empty hempty, hentered, EditorInput.reopen_commit]

end Editor

namespace Grammar

/-- What a predicate is shown as compiles to the predicate again exactly if its first two words
name the filter and the operator. So a predicate can be reopened in the editor and entered
again. -/
theorem compile_toString_iff {config : Config} {g : Grammar} (h : build config = .ok g)
    {literal : String} {p : Predicate} (hp : g.compile literal = .ok p) :
    (g.compile p.toString = .ok p ↔
      ∃ name symbol, Text.words (p.filter.name ++ " " ++ p.operator.symbol) = [name, symbol] ∧
        name ∈ p.filter.spellings ∧ symbol ∈ p.operator.spellings) ∧
    (Text.words p.filter.name = [p.filter.name] →
      Text.words p.operator.symbol = [p.operator.symbol] →
      g.compile p.toString = .ok p ∧
        ∀ e : Editor, e.input.text = literal →
          ((e.press g .enter).press g .backspace).input = ⟨p.toString, e.input.committed⟩ ∧
          (((e.press g .enter).press g .backspace).press g .enter).input =
            (e.press g .enter).input) := by
  have hg := WellFormed.of_build h
  refine ⟨hg.compile_toString_eq_ok_iff hp, ?_⟩
  intro hname hsymbol
  have hshown := hg.compile_toString_of_words hp hname hsymbol
  refine ⟨hshown, ?_⟩
  rintro e rfl
  have hreopened := Editor.input_press_backspace_of_compile hp
  refine ⟨hreopened, ?_⟩
  have hagain : g.compile ((e.press g .enter).press g .backspace).input.text = .ok p := by
    rw [hreopened]
    exact hshown
  rw [Editor.input_press_enter_of_compile hagain, hreopened,
    Editor.input_press_enter_of_compile hp]
  rfl

theorem compile_toString_reminder :
    build reminderConfig = .ok reminderGrammar ∧
      reminderGrammar.compile " at =  12:30 today" =
        .ok ⟨⟨"due", timeOfDay, ["at"]⟩, ⟨"is", .root, ["="]⟩,
          ⟨timeOfDay, "12:30 today", .text "12:30 today"⟩⟩ ∧
      reminderGrammar.compile "due is 12:30 today" =
        .ok ⟨⟨"due", timeOfDay, ["at"]⟩, ⟨"is", .root, ["="]⟩,
          ⟨timeOfDay, "12:30 today", .text "12:30 today"⟩⟩ := by
  have hp : reminderGrammar.compile " at =  12:30 today" =
      .ok ⟨⟨"due", timeOfDay, ["at"]⟩, ⟨"is", .root, ["="]⟩,
        ⟨timeOfDay, "12:30 today", .text "12:30 today"⟩⟩ := rfl
  exact ⟨build_reminderConfig, hp, ((compile_toString_iff build_reminderConfig hp).2 rfl rfl).1⟩

end Grammar

end SearchBox
