import SearchBox.Proofs.Text.Runs
import SearchBox.Proofs.Token.Remaining

namespace SearchBox

/-- What passes a filter splits the list where it splits the filtered one. -/
theorem exists_append_of_filter_eq {α : Type} {p : α → Bool} {xs front back : List α} {x : α}
    (h : xs.filter p = front ++ x :: back) :
    ∃ before after, xs = before ++ x :: after ∧ p x = true ∧ before.filter p = front ∧
      after.filter p = back := by
  obtain ⟨before, rest, rfl, hfront, hrest⟩ := List.filter_eq_append_iff.1 h
  obtain ⟨skipped, after, rfl, hskipped, hx, hback⟩ := List.filter_eq_cons_iff.1 hrest
  refine ⟨before ++ skipped, after, by simp, hx, ?_, hback⟩
  rw [List.filter_append, hfront, List.filter_eq_nil_iff.2 hskipped, List.append_nil]

namespace Text

/-- Before word number `index` come `n` characters. -/
def WordAt (text : String) (index n : Nat) : Prop :=
  ∃ front word back, Run.split text = front ++ word :: back ∧ word.isWord = true ∧
    (front.filter Run.isWord).length = index ∧ (front.flatMap Run.chars).length = n

/-- Up to the end of the last word there are `n` characters. -/
def WordsStop (text : String) (n : Nat) : Prop :=
  ∃ front word back, Run.split text = front ++ word :: back ∧ word.isWord = true ∧
    back.filter Run.isWord = [] ∧ ((front ++ [word]).flatMap Run.chars).length = n

/-- Two positions, each in its own text, that only blanks can set apart. -/
inductive SamePlace (s t : String) : Nat → Nat → Prop
  | zero (hs : words s = []) (ht : words t = []) : SamePlace s t 0 0
  | word {index m n : Nat} (hs : WordAt s index m) (ht : WordAt t index n) : SamePlace s t m n
  | stop {m n : Nat} (hs : WordsStop s m) (ht : WordsStop t n) : SamePlace s t m n

end Text

namespace Token

variable (g : Grammar) {text : String}

theorem exists_run_of_scan_eq {front back : List Token} {t : Token}
    (h : scan g text = front ++ t :: back) :
    ∃ before r after, Text.Run.split text = before ++ r :: after ∧ r.isWord = true ∧
      (before.filter Text.Run.isWord).length = front.length ∧
      (after.filter Text.Run.isWord).length = back.length ∧
      t.position = (before.flatMap Text.Run.chars).length ∧ t.length = r.chars.length := by
  rw [scan] at h
  obtain ⟨words, rest, hwords, rfl, hrest⟩ := List.map_eq_append_iff.1 h
  obtain ⟨r, others, rfl, rfl, rfl⟩ := List.map_eq_cons_iff.1 hrest
  obtain ⟨before, after, hsplit, hr, hbefore, hafter⟩ := exists_append_of_filter_eq hwords
  have hadjoin := Text.Run.adjoin_runsFrom 0 text.toList
  rw [← Text.Run.split, hsplit] at hadjoin
  refine ⟨before, r, after, hsplit, hr, by simp [hbefore], by simp [hafter], ?_, ?_⟩
  · simpa using hadjoin.position_eq
  · simp [length, Text.Run.lexeme]

theorem wordAt_of_getElem? {index : Nat} {t : Token} (h : (scan g text)[index]? = some t) :
    Text.WordAt text index t.position := by
  obtain ⟨hindex, ht⟩ := List.getElem?_eq_some_iff.1 h
  have hsplit : scan g text = (scan g text).take index ++ t :: (scan g text).drop (index + 1) := by
    rw [← ht, List.getElem_cons_drop, List.take_append_drop]
  obtain ⟨before, r, after, hruns, hr, hbefore, -, hposition, -⟩ := exists_run_of_scan_eq g hsplit
  refine ⟨before, r, after, hruns, hr, ?_, hposition.symm⟩
  rw [hbefore, List.length_take_of_le (Nat.le_of_lt hindex)]

theorem wordsStop_of_getLast? {t : Token} (h : (scan g text).getLast? = some t) :
    Text.WordsStop text t.stop := by
  obtain ⟨front, hfront⟩ := List.getLast?_eq_some_iff.1 h
  obtain ⟨before, r, after, hsplit, hr, -, hafter, hposition, hlength⟩ :=
    exists_run_of_scan_eq g hfront
  refine ⟨before, r, after, hsplit, hr, List.length_eq_zero_iff.1 hafter, ?_⟩
  simp [stop, hposition, hlength]

end Token

end SearchBox
