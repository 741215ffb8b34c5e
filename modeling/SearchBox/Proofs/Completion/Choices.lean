import SearchBox.Proofs.Completion.Stages

namespace SearchBox

/-- The type is `t` or has `t` above it. Types are told apart by name. -/
def DataType.Below (s t : DataType) : Prop := ∃ u ∈ s.chain, u.name = t.name

instance (s t : DataType) : Decidable (s.Below t) :=
  inferInstanceAs (Decidable (∃ u ∈ s.chain, u.name = t.name))

theorem DataType.isSubtypeOf_iff_below {s t : DataType} : s.isSubtypeOf t = true ↔ s.Below t := by
  have hname (u : DataType) : (u == t) = true ↔ u.name = t.name := beq_iff_eq (a := u.name)
  simp only [isSubtypeOf, List.any_eq_true, hname, Below]

/-- The text is the beginning of one of the spellings. -/
def BeginsOne (typed : String) (spellings : List String) : Prop :=
  ∃ s ∈ spellings, typed.toList <+: s.toList

instance (typed : String) (spellings : List String) : Decidable (BeginsOne typed spellings) :=
  inferInstanceAs (Decidable (∃ s ∈ spellings, typed.toList <+: s.toList))

theorem filter_decide_eq {α : Type} (xs : List α) {P : α → Prop} [DecidablePred P]
    {p : α → Bool} (h : ∀ x, P x ↔ p x = true) : xs.filter (fun x => decide (P x)) = xs.filter p :=
  List.filter_congr fun x _ => Bool.eq_iff_iff.2 (decide_eq_true_iff.trans (h x))

theorem any_startsWith_iff {typed : String} {spellings : List String} :
    spellings.any (startsWith typed) = true ↔ BeginsOne typed spellings := by
  simp only [List.any_eq_true, startsWith, List.isPrefixOf_iff_prefix, BeginsOne]

namespace Grammar

variable (g : Grammar)

/-- The operators for a filter, or the filter on its own where there are none. -/
def operatorChoices (f : Filter) : List (Nat × Completion) :=
  match g.operators.filter fun o => f.type.Below o.type with
  | [] => [(0, ⟨f, none, .unknown f.type⟩)]
  | operators => operators.map fun o => (0, ⟨f, some o, .unknown f.type⟩)

/-- The examples of all phrases for an argument of which no word is typed. -/
def openChoices (f : Filter) (o : Operator) : List (Nat × Completion) :=
  (g.phrases.filter fun p => f.type.Below p.type).flatMap fun p =>
    (p.examples []).map fun e => (0, ⟨f, some o, .suggested f.type e 0⟩)

/-- The examples of the phrases that take some of the words of an argument, each with the letters
it takes. -/
def begunChoices (f : Filter) (o : Operator) (words : List String) : List (Nat × Completion) :=
  (g.phrases.filter fun p => f.type.Below p.type).flatMap fun p =>
    let taken := Slot.begun p.slots words
    if taken = [] then []
    else (p.examples taken).map fun e =>
      (Text.letters taken, ⟨f, some o, .suggested f.type e (Text.letters taken)⟩)

/-- What a list of words leaves to choose from, in the order of declaration, each choice with its
weight. The last word may still be growing unless it is `finished`; only where it is and one part of
the grammar begins with it the next part is shown. -/
def choices (finished : Bool) : List String → List (Nat × Completion)
  | [] => g.filters.map fun f => (0, ⟨f, none, .unknown f.type⟩)
  | [typed] =>
    match g.filters.filter fun f => BeginsOne typed f.spellings, finished with
    | [f], true => g.operatorChoices f
    | filters, _ => filters.map fun f => (0, ⟨f, none, .unknown f.type⟩)
  | [name, typed] =>
    (g.filters.filter fun f => name ∈ f.spellings).flatMap fun f =>
      match g.operators.filter fun o => f.type.Below o.type ∧ BeginsOne typed o.spellings,
        finished with
      | [o], true => g.openChoices f o
      | operators, _ => operators.map fun o => (0, ⟨f, some o, .unknown f.type⟩)
  | name :: symbol :: words =>
    (g.filters.filter fun f => name ∈ f.spellings).flatMap fun f =>
      (g.operators.filter fun o => f.type.Below o.type ∧ symbol ∈ o.spellings).flatMap fun o =>
        g.begunChoices f o words

variable {g}

theorem filter_beginsOne (typed : String) :
    (g.filters.filter fun f => BeginsOne typed f.spellings) = g.filtersStartingWith typed :=
  filter_decide_eq _ fun _ => any_startsWith_iff.symm

theorem filter_operators_below (t : DataType) :
    (g.operators.filter fun o => t.Below o.type) = g.operatorsFor t :=
  filter_decide_eq _ fun _ => DataType.isSubtypeOf_iff_below.symm

theorem filter_phrases_below (t : DataType) :
    (g.phrases.filter fun p => t.Below p.type) = g.phrasesFor t :=
  filter_decide_eq _ fun _ => DataType.isSubtypeOf_iff_below.symm

theorem filter_operators_and (t : DataType) (P : Operator → Prop) [DecidablePred P] :
    (g.operators.filter fun o => t.Below o.type ∧ P o) =
      (g.operatorsFor t).filter fun o => decide (P o) := by
  rw [← filter_operators_below, List.filter_filter]
  refine filter_decide_eq _ fun o => ?_
  rw [Bool.and_eq_true, decide_eq_true_iff, decide_eq_true_iff, and_comm]

theorem filter_operators_beginsOne (t : DataType) (typed : String) :
    (g.operators.filter fun o => t.Below o.type ∧ BeginsOne typed o.spellings) =
      (g.operatorsFor t).filter (·.startsWith typed) := by
  rw [filter_operators_and]
  exact filter_decide_eq _ fun _ => any_startsWith_iff.symm

theorem map_snd_operatorChoices (f : Filter) :
    (g.operatorChoices f).map Prod.snd = g.suggestOperators f := by
  rw [operatorChoices, suggestOperators, filter_operators_below]
  cases g.operatorsFor f.type with
  | nil => rfl
  | cons o operators => exact List.map_map

theorem map_snd_openChoices (f : Filter) (o : Operator) :
    (g.openChoices f o).map Prod.snd = g.openCompletions f o := by
  rw [openChoices, openCompletions, filter_phrases_below, List.map_flatMap]
  exact List.flatMap_congr fun p _ => List.map_map

theorem map_snd_begunChoices (f : Filter) (o : Operator) (words : List String) :
    (g.begunChoices f o words).map Prod.snd = g.begunCompletions f o words := by
  rw [begunChoices, begunCompletions, filter_phrases_below, List.map_flatMap]
  refine List.flatMap_congr fun p _ => ?_
  dsimp only
  by_cases hnil : Slot.begun p.slots words = []
  · rw [if_pos hnil, hnil]
    rfl
  · rw [if_neg hnil, if_neg (by simpa using hnil), List.map_map]
    rfl

namespace WellFormed

variable (hg : g.WellFormed)

include hg

theorem filter_filters_spelled (name : String) :
    (g.filters.filter fun f => name ∈ f.spellings) = (g.filter? name).toList := by
  rw [← hg.filter_isSpelled]
  exact filter_decide_eq _ fun _ => List.contains_iff_mem.symm

theorem filter_operators_spelled (t : DataType) (symbol : String) :
    (g.operators.filter fun o => t.Below o.type ∧ symbol ∈ o.spellings) =
      ((g.operator? symbol).filter (·.suits t)).toList := by
  rw [filter_operators_and, ← hg.operatorsFor_isSpelled]
  exact filter_decide_eq _ fun _ => List.contains_iff_mem.symm

/-- The choices are the completions, one stage after the other. -/
theorem map_snd_choices (finished : Bool) (words : List String) :
    (g.choices finished words).map Prod.snd = g.completions finished words := by
  rcases words with _ | ⟨name, _ | ⟨symbol, _ | ⟨word, words⟩⟩⟩
  · exact List.map_map
  · unfold choices completions
    dsimp only
    rw [filter_beginsOne]
    rcases g.filtersStartingWith name with _ | ⟨f, _ | ⟨f', filters⟩⟩
    · rfl
    · cases finished with
      | false => rfl
      | true => exact map_snd_operatorChoices f
    · exact List.map_map
  · unfold choices completions
    dsimp only
    rw [hg.filter_filters_spelled]
    cases g.filter? name with
    | none => rfl
    | some f =>
      rw [Option.toList_some, List.flatMap_singleton]
      dsimp only
      rw [filter_operators_beginsOne]
      generalize (g.operatorsFor f.type).filter (·.startsWith symbol) = operators
      rcases operators with _ | ⟨o, _ | ⟨o', operators⟩⟩
      · rfl
      · cases finished with
        | false => rfl
        | true => exact map_snd_openChoices f o
      · exact List.map_map
  · unfold choices completions
    dsimp only
    rw [hg.filter_filters_spelled]
    cases g.filter? name with
    | none => rfl
    | some f =>
      rw [Option.toList_some, List.flatMap_singleton, hg.filter_operators_spelled]
      cases g.operator? symbol with
      | none => rfl
      | some o =>
        by_cases hsuits : o.suits f.type = true
        · simp only [Option.filter, hsuits, if_true, Option.toList_some, List.flatMap_singleton]
          exact map_snd_begunChoices f o (word :: words)
        · simp [Option.filter, hsuits]

end WellFormed

theorem weight_of_mem_operatorChoices {f : Filter} {x : Nat × Completion}
    (h : x ∈ g.operatorChoices f) : x.2.weight = x.1 := by
  rw [operatorChoices] at h
  split at h
  · rw [List.mem_singleton.1 h]
    rfl
  · obtain ⟨o, -, rfl⟩ := List.mem_map.1 h
    rfl

theorem weight_of_mem_openChoices {f : Filter} {o : Operator} {x : Nat × Completion}
    (h : x ∈ g.openChoices f o) : x.2.weight = x.1 := by
  obtain ⟨p, -, hp⟩ := List.mem_flatMap.1 h
  obtain ⟨e, -, rfl⟩ := List.mem_map.1 hp
  rfl

theorem weight_of_mem_begunChoices {f : Filter} {o : Operator} {words : List String}
    {x : Nat × Completion} (h : x ∈ g.begunChoices f o words) : x.2.weight = x.1 := by
  obtain ⟨p, -, hp⟩ := List.mem_flatMap.1 h
  obtain ⟨-, e, -, rfl⟩ := by simpa using hp
  rfl

/-- The weight of a choice is that of its completion. -/
theorem weight_of_mem_choices {finished : Bool} {words : List String} {x : Nat × Completion}
    (h : x ∈ g.choices finished words) : x.2.weight = x.1 := by
  rcases words with _ | ⟨name, _ | ⟨symbol, _ | ⟨word, words⟩⟩⟩
  · obtain ⟨f, -, rfl⟩ := List.mem_map.1 h
    rfl
  · unfold choices at h
    dsimp only at h
    split at h
    · exact weight_of_mem_operatorChoices h
    · obtain ⟨f, -, rfl⟩ := List.mem_map.1 h
      rfl
  · obtain ⟨f, -, h⟩ := List.mem_flatMap.1 h
    split at h
    · exact weight_of_mem_openChoices h
    · obtain ⟨o, -, rfl⟩ := List.mem_map.1 h
      rfl
  · obtain ⟨f, -, h⟩ := List.mem_flatMap.1 h
    obtain ⟨o, -, h⟩ := List.mem_flatMap.1 h
    exact weight_of_mem_begunChoices h

/-- Suggestions are the choices that the words of a literal leave, the heaviest first, and those of
one weight in the order of declaration. -/
theorem suggest_eq_mergeSort {config : Config} (h : build config = .ok g) (literal : String) :
    g.suggest literal =
      ((g.choices (Text.endsBlank literal) (Text.words literal)).mergeSort
        fun x y => decide (y.1 ≤ x.1)).map Prod.snd := by
  have hg := WellFormed.of_build h
  have hrank : Ranked.ahead (fun c : Completion => (c.weight : Int)) =
      fun a b => decide (b.weight ≤ a.weight) := by
    funext a b
    simp only [Ranked.ahead, Int.ofNat_le]
  rw [hg.suggest_eq, Ranked.sort_eq_mergeSort, hrank, ← hg.map_snd_choices]
  refine (List.map_mergeSort fun x hx y hy => ?_).symm
  rw [weight_of_mem_choices hx, weight_of_mem_choices hy]

/-- Two phrases, of which the one that takes fewer words is tried first. -/
def seatConfig : Config where
  filters := [{ name := "seat", type := "*" }]
  operators := [{ symbol := "is", type := "*" }]
  phrases :=
    [{ template := "<*>", type := "*" },
      { template := "<*> [left|right]", type := "*"
        exampler := some fun words => ["left", "right"].map fun side =>
          { preview := " ".intercalate (words.take 1 ++ [side]) } }]

def seatGrammar : Grammar where
  types := ⟨[.root]⟩
  filters := [⟨"seat", .root, []⟩]
  operators := [⟨"is", .root, []⟩]
  phrases :=
    [⟨"<*>", .root, 0, [.parameter .root], none, none⟩,
      ⟨"<*> [left|right]", .root, 0, [.parameter .root, .keyword ["left", "right"]], none,
        some fun words => ["left", "right"].map fun side =>
          { preview := " ".intercalate (words.take 1 ++ [side]) }⟩]

theorem build_seatConfig : build seatConfig = .ok seatGrammar := rfl

theorem suggest_seat_by_weight :
    let seat (shown : String) (n : Nat) : Completion :=
      ⟨⟨"seat", .root, []⟩, some ⟨"is", .root, []⟩, .suggested .root ⟨shown, none⟩ n⟩
    build seatConfig = .ok seatGrammar ∧
      seatGrammar.choices false ["seat", "is", "12", "l"] =
        [(2, seat "12" 2), (3, seat "12 left" 3), (3, seat "12 right" 3)] ∧
      seatGrammar.suggest "seat is 12 l" = [seat "12 left" 3, seat "12 right" 3, seat "12" 2] := by
  intro seat
  have hchoices : seatGrammar.choices false ["seat", "is", "12", "l"] =
      [(2, seat "12" 2), (3, seat "12 left" 3), (3, seat "12 right" 3)] := rfl
  have hwords : Text.words "seat is 12 l" = ["seat", "is", "12", "l"] := rfl
  have hopen : Text.endsBlank "seat is 12 l" = false := rfl
  have hsuggest := suggest_eq_mergeSort build_seatConfig "seat is 12 l"
  rw [hwords, hopen, hchoices] at hsuggest
  refine ⟨build_seatConfig, hchoices, hsuggest.trans ?_⟩
  simp [List.mergeSort]

end Grammar

end SearchBox
