import SearchBox.Proofs.Grammar.WellFormed

namespace SearchBox

section Spellings

variable {α : Type} {spellings : α → List String} {xs : List α}

/-- Where all spellings are distinct the first entry that is spelled so is the only one. -/
theorem filter_contains_eq_find? (h : (xs.flatMap spellings).Nodup) (word : String) :
    xs.filter (fun x => (spellings x).contains word) =
      (xs.find? fun x => (spellings x).contains word).toList := by
  induction xs with
  | nil => rfl
  | cons x xs ih =>
    rw [List.flatMap_cons, List.nodup_append] at h
    obtain ⟨-, hxs, hdisjoint⟩ := h
    by_cases hx : word ∈ spellings x
    · have hnone : ∀ y ∈ xs, word ∉ spellings y := by
        intro y hy hword
        exact hdisjoint word hx word (List.mem_flatMap.2 ⟨y, hy, hword⟩) rfl
      simpa [hx] using hnone
    · simpa [hx] using ih hxs

theorem find?_contains_eq_some_iff (h : (xs.flatMap spellings).Nodup) {word : String} {x : α} :
    (xs.find? fun x => (spellings x).contains word) = some x ↔ x ∈ xs ∧ word ∈ spellings x := by
  rw [← Option.mem_toList, ← filter_contains_eq_find? h, List.mem_filter, List.contains_iff_mem]

/-- The entry that is spelled so is found in any order of the entries. -/
theorem find?_contains_eq_of_perm {ys : List α} (hperm : xs.Perm ys)
    (h : (xs.flatMap spellings).Nodup) (word : String) :
    (xs.find? fun x => (spellings x).contains word) =
      ys.find? fun x => (spellings x).contains word := by
  have hys : (ys.flatMap spellings).Nodup := (hperm.flatMap_right spellings).nodup_iff.1 h
  refine Option.ext fun x => ?_
  rw [find?_contains_eq_some_iff h, find?_contains_eq_some_iff hys, hperm.mem_iff]

end Spellings

namespace Grammar.WellFormed

variable {g : Grammar} (hg : g.WellFormed)

include hg

theorem filter?_eq_some_iff {word : String} {f : Filter} :
    g.filter? word = some f ↔ f ∈ g.filters ∧ word ∈ f.spellings :=
  find?_contains_eq_some_iff hg.filter_spellings

theorem operator?_eq_some_iff {word : String} {o : Operator} :
    g.operator? word = some o ↔ o ∈ g.operators ∧ word ∈ o.spellings :=
  find?_contains_eq_some_iff hg.operator_spellings

/-- No spelling means two filters. -/
theorem eq_of_filter_spelling {word : String} {f f' : Filter} (hf : f ∈ g.filters)
    (hword : word ∈ f.spellings) (hf' : f' ∈ g.filters) (hword' : word ∈ f'.spellings) :
    f = f' := by
  have hfind := hg.filter?_eq_some_iff.2 ⟨hf, hword⟩
  rw [hg.filter?_eq_some_iff.2 ⟨hf', hword'⟩] at hfind
  exact (Option.some.inj hfind).symm

theorem eq_of_operator_spelling {word : String} {o o' : Operator} (ho : o ∈ g.operators)
    (hword : word ∈ o.spellings) (ho' : o' ∈ g.operators) (hword' : word ∈ o'.spellings) :
    o = o' := by
  have hfind := hg.operator?_eq_some_iff.2 ⟨ho, hword⟩
  rw [hg.operator?_eq_some_iff.2 ⟨ho', hword'⟩] at hfind
  exact (Option.some.inj hfind).symm

theorem filter_isSpelled (word : String) :
    g.filters.filter (·.isSpelled word) = (g.filter? word).toList :=
  filter_contains_eq_find? hg.filter_spellings word

theorem operatorsFor_isSpelled (t : DataType) (word : String) :
    (g.operatorsFor t).filter (·.isSpelled word) =
      ((g.operator? word).filter (·.suits t)).toList := by
  have hspelled : g.operators.filter (·.isSpelled word) = (g.operator? word).toList :=
    filter_contains_eq_find? hg.operator_spellings word
  rw [operatorsFor, List.filter_comm, hspelled]
  cases g.operator? word with
  | none => rfl
  | some o => by_cases ho : o.suits t = true <;> simp [Option.filter, ho]

theorem suits_iff {f : Filter} {o : Operator} (hf : f ∈ g.filters) (ho : o ∈ g.operators) :
    o.suits f.type = true ↔ o.type ∈ f.type.chain :=
  hg.types.isSubtypeOf_iff (hg.filter_type f hf) (hg.operator_type o ho)

theorem isSubtypeOf_phrase_iff {f : Filter} {p : Phrase} (hf : f ∈ g.filters)
    (hp : p ∈ g.phrases) : f.type.isSubtypeOf p.type = true ↔ p.type ∈ f.type.chain :=
  hg.types.isSubtypeOf_iff (hg.filter_type f hf) (hg.phrase_type p hp)

end Grammar.WellFormed

namespace Grammar

variable {g : Grammar}

theorem filter?_eq_none_iff {word : String} :
    g.filter? word = none ↔ ∀ f ∈ g.filters, word ∉ f.spellings := by
  simp [filter?, Filter.isSpelled]

theorem operator?_eq_none_iff {word : String} :
    g.operator? word = none ↔ ∀ o ∈ g.operators, word ∉ o.spellings := by
  simp [operator?, Operator.isSpelled]

end Grammar

end SearchBox
