import SearchBox.Proofs.Completion.Stages
import SearchBox.Proofs.Editor.Consistency
import SearchBox.Proofs.IssueGrammar.Parts
import SearchBox.Proofs.Predicate.Interpretation
import SearchBox.Proofs.Text.Normalize

namespace SearchBox

/-- Where a completion goes on in the letter case of the literal and without capitals, the ghost is
all that the literal lacks. -/
theorem Completion.squeeze_plain_eq {c : Completion} {literal : String} {rest : List Char}
    (h : Text.squeeze c.plain = Text.squeeze literal ++ rest)
    (hlower : ∀ x ∈ rest, Text.lowerChar x = [x]) (hghost : c.ghost literal ≠ "") :
    Text.squeeze c.plain = Text.squeeze literal ++ (c.ghost literal).toList := by
  have hrest : (c.ghost literal).toList = rest := by
    simp only [ghost, Text.toList_normalize, h] at hghost ⊢
    split at hghost
    · rename_i hprefix
      rw [if_pos hprefix, String.toList_ofList, Text.drop_lower_append hlower]
    · exact absurd rfl hghost
  rw [h, hrest]

namespace Editor

variable {g : Grammar} {e : Editor}

theorem Consistent.exists_pending (he : e.Consistent g) {i : Nat}
    (hi : e.advice.pending = some i) :
    ∃ c, e.advice.completions[i]? = some c ∧ e.ghost = c.ghost e.input.text := by
  have hlt := he.pending_lt i hi
  exact ⟨_, List.getElem?_eq_getElem hlt, by rw [ghost, Advice.selected?_eq_some hi hlt]⟩

theorem apply_tab (hghost : e.ghost ≠ "") :
    e.apply g (.key .tab) = e.record g (e.input.setText (e.input.text ++ e.ghost)) := by
  have hempty : e.ghost.isEmpty = false := by simpa [String.isEmpty_iff] using hghost
  rw [apply, press, hempty]
  rfl

theorem apply_pick {i : Nat} {c : Completion} (hc : e.advice.completions[i]? = some c) :
    e.apply g (.pick i) = e.record g (e.input.setText c.plain) := by
  rw [apply, hc]

/-- What is advised and what can be entered depend on the words and on the blank behind them. -/
theorem record_agrees (hg : g.WellFormed) {i j : EditorInput}
    (hwords : Text.words i.text = Text.words j.text)
    (hblank : Text.endsBlank i.text = Text.endsBlank j.text) :
    (e.record g i).advice.completions = (e.record g j).advice.completions ∧
      (g.compile (e.record g i).input.text).mapError LiteralError.message =
        (g.compile (e.record g j).input.text).mapError LiteralError.message :=
  ⟨hg.suggest_of_words_eq hwords hblank, g.mapError_message_compile_of_words_eq hwords⟩

/-- Tab and a pick accept the same completion unless they write it in different letter case: Tab
leaves what was typed and adds the rest in lower case. -/
theorem tab_agrees_with_pick {config : Config} (h : Grammar.build config = .ok g)
    (events : List EditorEvent) {i : Nat} (hi : (run g events).advice.pending = some i)
    (hghost : (run g events).ghost ≠ "") :
    ∃ c, (run g events).advice.completions[i]? = some c ∧
      ∀ rest, Text.squeeze c.plain = Text.squeeze (run g events).input.text ++ rest →
        (∀ x ∈ rest, Text.lowerChar x = [x]) →
        ((run g events).apply g (.key .tab)).advice.completions =
          ((run g events).apply g (.pick i)).advice.completions ∧
        (g.compile ((run g events).apply g (.key .tab)).input.text).mapError
            LiteralError.message =
          (g.compile ((run g events).apply g (.pick i)).input.text).mapError
            LiteralError.message := by
  have hconsistent : (run g events).Consistent g := consistent_foldl (consistent_start g) events
  generalize run g events = e at hi hghost hconsistent ⊢
  obtain ⟨c, hc, hpending⟩ := hconsistent.exists_pending hi
  refine ⟨c, hc, fun rest hrest hlower => ?_⟩
  have hsqueeze := c.squeeze_plain_eq hrest hlower (hpending ▸ hghost)
  have hghost' : (c.ghost e.input.text).toList ≠ [] := by simpa [hpending] using hghost
  rw [apply_tab hghost, apply_pick hc, hpending]
  exact record_agrees (Grammar.WellFormed.of_build h) (Text.words_append_of_squeeze_eq hsqueeze)
    (Text.endsBlank_append_of_squeeze_eq hsqueeze hghost')

theorem tab_agrees_with_pick_reminder :
    Grammar.build reminderConfig = .ok reminderGrammar ∧
      (run reminderGrammar [.change " due   bef"]).advice.pending = some 0 ∧
      (run reminderGrammar [.change " due   bef"]).ghost = "ore " ∧
      ((run reminderGrammar [.change " due   bef"]).apply reminderGrammar
        (.key .tab)).advice.completions =
        ((run reminderGrammar [.change " due   bef"]).apply reminderGrammar
          (.pick 0)).advice.completions ∧
      (reminderGrammar.compile " due   before ").mapError LiteralError.message =
        (reminderGrammar.compile "due before ").mapError LiteralError.message := by
  obtain ⟨c, hc, hagree⟩ := tab_agrees_with_pick build_reminderConfig [.change " due   bef"]
    (rfl : _ = some 0) (by decide)
  obtain rfl : .ofOperator ⟨"due", timeOfDay, ["at"]⟩ ⟨"before", timeOfDay, []⟩ = c :=
    Option.some.inj hc
  have hlower : "ore ".toList.all (fun x => Text.lowerChar x == [x]) = true := rfl
  exact ⟨build_reminderConfig, rfl, rfl, hagree "ore ".toList rfl
    fun x hx => eq_of_beq (List.all_eq_true.1 hlower x hx)⟩

/-- Letter case matters, in what was typed and in what is still to come. -/
theorem tab_differs_from_pick :
    (∃ g, IssueGrammar.build 1700000000000 = .ok g ∧
      (run g [.change "created before 5 D"]).advice.pending = some 0 ∧
      (run g [.change "created before 5 D"]).ghost = "ays ago" ∧
      g.compile ((run g [.change "created before 5 D"]).apply g (.key .tab)).input.text =
        .error ⟨17, .trailingInput "Days"⟩ ∧
      g.isValid ((run g [.change "created before 5 D"]).apply g (.pick 0)).input.text = true) ∧
    ∃ g, Grammar.build ⟨[], [{ name := "dueDate", type := "*" }], [], []⟩ = .ok g ∧
      (run g []).advice.pending = some 0 ∧ (run g []).ghost = "duedate " ∧
      ((run g []).apply g (.key .tab)).advice.completions.length = 0 ∧
      ((run g []).apply g (.pick 0)).advice.completions.length = 1 :=
  ⟨⟨IssueGrammar.grammar 1700000000000, IssueGrammar.build_eq_ok 1700000000000, rfl, rfl, rfl, rfl⟩,
    _, rfl, rfl, rfl, rfl, rfl⟩

end Editor

end SearchBox
