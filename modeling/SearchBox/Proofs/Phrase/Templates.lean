import SearchBox.Phrase.Slot
import SearchBox.Proofs.Grammar.TypeTree
import SearchBox.Proofs.Text.Words

namespace SearchBox.Slot

theorem pieces_eq_splitOn (separator : Char) (cs : List Char) :
    pieces separator cs = cs.splitOn separator := by
  induction cs with
  | nil => rfl
  | cons c cs ih =>
    obtain ⟨p, ps, hp⟩ := List.exists_cons_of_ne_nil (List.splitOnP_ne_nil (· == separator) cs)
    rw [List.splitOn_eq_splitOnP] at ih ⊢
    rw [pieces, ih, List.splitOnP_cons_eq_if_modifyHead, hp]
    by_cases hc : c = separator <;> simp [hc]

theorem not_mem_of_mem_pieces {separator : Char} {p cs : List Char}
    (h : p ∈ pieces separator cs) : separator ∉ p := by
  rw [pieces_eq_splitOn, List.splitOn_eq_splitOnP] at h
  intro hmem
  simpa using Text.separates_of_mem_splitOnP h separator hmem

theorem mem_intercalate {c separator : Char} {words : List (List Char)} (hc : c ≠ separator) :
    c ∈ [separator].intercalate words ↔ ∃ w ∈ words, c ∈ w := by
  induction words with
  | nil => simp
  | cons w words ih =>
    cases words with
    | nil => simp
    | cons v words =>
      rw [List.intercalate_cons_cons, List.mem_append, List.mem_append, List.mem_singleton, ih]
      simp [hc]

theorem inside?_eq_some_iff {closing : Char} {cs inner : List Char} :
    inside? closing cs = some inner ↔ inner ≠ [] ∧ cs = inner ++ [closing] := by
  constructor
  · intro h
    simp only [inside?, Bool.and_eq_true, decide_eq_true_eq, Bool.not_eq_true',
      List.isEmpty_eq_false_iff, Option.ite_none_right_eq_some, Option.some.injEq] at h
    obtain ⟨⟨hlast, hne⟩, rfl⟩ := h
    exact ⟨hne, (List.dropLast_append_getLast? closing hlast).symm⟩
  · rintro ⟨hne, rfl⟩
    simp [inside?, hne]

/-- A choice of keywords is read back from the way it is written. -/
theorem alternatives?_intercalate {words : List (List Char)} (hne : words ≠ [])
    (hwords : ∀ w ∈ words, w ≠ [] ∧ '|' ∉ w ∧ ']' ∉ w) :
    alternatives? (['|'].intercalate words ++ [']']) = some words := by
  have hpieces : pieces '|' (['|'].intercalate words) = words := by
    rw [pieces_eq_splitOn, List.splitOn_intercalate '|' (fun w hw => (hwords w hw).2.1) hne]
  have hinner : ['|'].intercalate words ≠ [] := by
    intro hnil
    rw [hnil] at hpieces
    exact (hwords [] (by simp [← hpieces, pieces])).1 rfl
  have hclosing : ']' ∉ ['|'].intercalate words := by
    rw [mem_intercalate (by decide)]
    rintro ⟨w, hw, h⟩
    exact (hwords w hw).2.2 h
  have hfull : [] ∉ words := fun hnil => (hwords [] hnil).1 rfl
  have hinside : inside? ']' (['|'].intercalate words ++ [']']) = some _ :=
    inside?_eq_some_iff.2 ⟨hinner, rfl⟩
  simp [alternatives?, hinside, hpieces, hclosing, hfull]

/-- Nothing else is read as a choice of keywords. -/
theorem of_alternatives?_eq_some {cs : List Char} {words : List (List Char)}
    (h : alternatives? cs = some words) :
    words ≠ [] ∧ (∀ w ∈ words, w ≠ [] ∧ '|' ∉ w ∧ ']' ∉ w) ∧
      cs = ['|'].intercalate words ++ [']'] := by
  obtain ⟨inner, hinner, h⟩ := Option.bind_eq_some_iff.1 h
  simp only [Option.ite_none_left_eq_some, Bool.not_eq_true, Bool.or_eq_false_iff,
    Option.some.injEq, List.any_eq_false, List.isEmpty_iff] at h
  obtain ⟨⟨hclosing, hfull⟩, rfl⟩ := h
  have hjoin : ['|'].intercalate (pieces '|' inner) = inner := by
    rw [pieces_eq_splitOn, List.intercalate_splitOn]
  refine ⟨?_, fun w hw => ⟨hfull w hw, not_mem_of_mem_pieces hw, fun hmem => ?_⟩, ?_⟩
  · rw [pieces_eq_splitOn]
    exact List.splitOn_ne_nil _ _
  · have hinside : ']' ∈ inner := hjoin ▸ (mem_intercalate (by decide)).2 ⟨w, hw, hmem⟩
    simp [hinside] at hclosing
  · rw [hjoin]
    exact (inside?_eq_some_iff.1 hinner).2

/-- What a word of a template stands for, the type of a parameter by its name only. -/
inductive Form where
  | parameter (name : String)
  | keyword (aliases : List String)

/-- How slots are written: `<name>`, `[a|b]`, or a keyword that opens neither bracket. -/
inductive Form.Writes : Form → String → Prop
  | parameter {name : String} (hne : name ≠ "") : Writes (.parameter name) ("<" ++ name ++ ">")
  | choice {aliases : List String} (hne : aliases ≠ [])
      (h : ∀ a ∈ aliases, a ≠ "" ∧ '|' ∉ a.toList ∧ ']' ∉ a.toList) :
      Writes (.keyword aliases) ("[" ++ "|".intercalate aliases ++ "]")
  | plain {word : String} (hangle : word.toList.head? ≠ some '<')
      (hbracket : word.toList.head? ≠ some '[') : Writes (.keyword [word]) word

/-- The slot of that form; a parameter needs a type of its name. -/
def Form.slot (types : TypeRegistry) : Form → Except ConfigError Slot
  | parameter name => (types.get name).map Slot.parameter
  | keyword aliases => .ok (Slot.keyword aliases)

variable {types : TypeRegistry} {template word : String}

theorem read_of_writes {form : Form} (h : form.Writes word) :
    read types template word = form.slot types := by
  cases h with
  | @parameter name hne =>
    have hlist : ("<" ++ name ++ ">").toList = '<' :: (name.toList ++ ['>']) := by simp
    have hinside : inside? '>' (name.toList ++ ['>']) = some name.toList :=
      inside?_eq_some_iff.2 ⟨by simpa using hne, rfl⟩
    simp [read, hlist, hinside, Form.slot]
  | @choice aliases hne h =>
    have hlist : ("[" ++ "|".intercalate aliases ++ "]").toList =
        '[' :: (['|'].intercalate (aliases.map String.toList) ++ [']']) := by
      simp [String.toList_intercalate]
    have hchars : ∀ cs ∈ aliases.map String.toList, cs ≠ [] ∧ '|' ∉ cs ∧ ']' ∉ cs := by
      intro cs hcs
      obtain ⟨a, ha, rfl⟩ := List.mem_map.1 hcs
      simpa using h a ha
    have halternatives := alternatives?_intercalate (by simpa using hne) hchars
    simp [read, hlist, halternatives, Form.slot, List.map_map, Function.comp_def]
  | plain hangle hbracket =>
    unfold read
    split
    · rename_i hword
      simp [hword] at hangle
    · rename_i hword
      simp [hword] at hbracket
    · rfl

theorem read_of_not_writes (h : ∀ form : Form, ¬ form.Writes word) :
    read types template word = .error (.malformedSlot template word) := by
  unfold read
  split
  · rename_i rest hword
    cases hinside : inside? '>' rest with
    | none => rfl
    | some name =>
      obtain ⟨hne, rfl⟩ := inside?_eq_some_iff.1 hinside
      have hwritten : word = "<" ++ String.ofList name ++ ">" :=
        String.toList_inj.1 (by simp [hword])
      subst hwritten
      exact (h (.parameter _) (.parameter (by simpa using hne))).elim
  · rename_i rest hword
    cases halternatives : alternatives? rest with
    | none => rfl
    | some words =>
      obtain ⟨hne, hwords, rfl⟩ := of_alternatives?_eq_some halternatives
      have hwritten : word = "[" ++ "|".intercalate (words.map String.ofList) ++ "]" :=
        String.toList_inj.1 (by simp [hword, String.toList_intercalate, Function.comp_def])
      have haliases : ∀ a ∈ words.map String.ofList,
          a ≠ "" ∧ '|' ∉ a.toList ∧ ']' ∉ a.toList := by
        intro a ha
        obtain ⟨w, hw, rfl⟩ := List.mem_map.1 ha
        simpa using hwords w hw
      subst hwritten
      exact (h (.keyword _) (.choice (by simpa using hne) haliases)).elim
  · rename_i hangle hbracket
    refine (h (.keyword [word]) (.plain ?_ ?_)).elim
    · intro hhead
      obtain ⟨rest, hrest⟩ := List.head?_eq_some_iff.1 hhead
      exact hangle rest hrest
    · intro hhead
      obtain ⟨rest, hrest⟩ := List.head?_eq_some_iff.1 hhead
      exact hbracket rest hrest

/-- The word is a way to write the slot; a parameter has the type registered under its name. -/
inductive Denotes (types : TypeRegistry) (word : String) : Slot → Prop
  | parameter {t : DataType} (h : (Form.parameter t.name).Writes word)
      (ht : types.get t.name = .ok t) : Denotes types word (.parameter t)
  | keyword {aliases : List String} (h : (Form.keyword aliases).Writes word) :
      Denotes types word (.keyword aliases)

theorem read_eq_ok_iff {slot : Slot} :
    read types template word = .ok slot ↔ Denotes types word slot := by
  constructor
  · intro h
    by_cases hform : ∃ form : Form, form.Writes word
    · obtain ⟨form, hform⟩ := hform
      rw [read_of_writes hform] at h
      cases form with
      | parameter name =>
        obtain ⟨t, ht, rfl⟩ := map_eq_ok.1 h
        obtain ⟨-, rfl⟩ := TypeRegistry.mem_of_get ht
        exact .parameter hform ht
      | keyword aliases =>
        cases h
        exact .keyword hform
    · rw [read_of_not_writes (not_exists.1 hform)] at h
      cases h
  · intro h
    cases h with
    | parameter hform ht => rw [read_of_writes hform, Form.slot, ht, Except.map]
    | keyword hform => rw [read_of_writes hform, Form.slot]

/-- A template is read if it has words and each of them denotes a slot. -/
theorem readAll_eq_ok_iff {slots : List Slot} :
    readAll types template = .ok slots ↔
      Text.words template ≠ [] ∧ List.Forall₂ (Denotes types) (Text.words template) slots := by
  have hreads : (Text.words template).mapM (read types template) = .ok slots ↔
      List.Forall₂ (Denotes types) (Text.words template) slots := by
    simp only [mapM_eq_ok_iff, read_eq_ok_iff]
  rw [← hreads, readAll, bind_eq_ok]
  constructor
  · rintro ⟨slots', hslots, h⟩
    cases slots' with
    | nil => cases h
    | cons slot rest =>
      obtain rfl := pure_eq_ok.1 h
      exact ⟨mt (eq_nil_iff_of_mapM hslots).2 (List.cons_ne_nil slot rest), hslots⟩
  · rintro ⟨hne, hslots⟩
    cases slots with
    | nil => exact (hne ((eq_nil_iff_of_mapM hslots).1 rfl)).elim
    | cons slot rest => exact ⟨_, hslots, rfl⟩

theorem ne_nil_of_readAll {slots : List Slot} (h : readAll types template = .ok slots) :
    slots ≠ [] := by
  obtain ⟨hne, hslots⟩ := readAll_eq_ok_iff.1 h
  rintro rfl
  exact hne (List.forall₂_nil_right_iff.1 hslots)

/-- No blank gets into a keyword, since none is in the word that it is written in. -/
theorem words_of_writes {aliases : List String} {k : String}
    (h : (Form.keyword aliases).Writes word) (hword : Text.words word = [word])
    (hk : k ∈ aliases) : Text.words k = [k] := by
  have hmem : word ∈ Text.words word := hword ▸ List.mem_singleton_self word
  cases h with
  | choice hne hwords =>
    obtain ⟨hfull, hbar, -⟩ := hwords k hk
    refine Text.words_of_letters hfull fun c hc => Text.isBlank_of_mem_words hmem c ?_
    have hinside : c ∈ ['|'].intercalate (aliases.map String.toList) :=
      (mem_intercalate (by rintro rfl; exact hbar hc)).2 ⟨_, List.mem_map_of_mem hk, hc⟩
    simpa [String.toList_intercalate] using .inr (.inl hinside)
  | plain hangle hbracket =>
    obtain rfl := List.mem_singleton.1 hk
    exact hword

theorem words_of_readAll {slots : List Slot} (h : readAll types template = .ok slots)
    {aliases : List String} (hslot : .keyword aliases ∈ slots) {k : String} (hk : k ∈ aliases) :
    Text.words k = [k] := by
  obtain ⟨word, hword, hdenotes⟩ := exists_mem_of_forall₂ (readAll_eq_ok_iff.1 h).2 hslot
  cases hdenotes with
  | keyword hform => exact words_of_writes hform (Text.words_of_mem_words hword) hk

/-- What is wrong with a word of a template where the types of these names are known. -/
inductive Fault (names : List String) (template word : String) : ConfigError → Prop
  | malformed (h : ∀ form : Form, ¬ form.Writes word) :
      Fault names template word (.malformedSlot template word)
  | unknownType {name : String} (h : (Form.parameter name).Writes word) (hname : name ∉ names) :
      Fault names template word (.unknownType name)

variable {names : List String} {e : ConfigError}

/-- A word of a template that is written as a slot of a known type. -/
structure WellWritten (names : List String) (word : String) : Prop where
  exists_form : ∃ form : Form, form.Writes word
  type_mem : ∀ name, (Form.parameter name).Writes word → name ∈ names

theorem forall_not_fault_iff :
    (∀ e, ¬ Fault names template word e) ↔ WellWritten names word := by
  constructor
  · intro h
    refine ⟨?_, fun name hname => ?_⟩
    · by_contra hnone
      exact h _ (.malformed (not_exists.1 hnone))
    · by_contra hmem
      exact h _ (.unknownType hname hmem)
  · rintro ⟨⟨form, hform⟩, hnames⟩ e (hnone | ⟨hname, hmem⟩)
    · exact hnone form hform
    · exact hmem (hnames _ hname)

theorem read_eq_error_iff (hnames : ∀ name, name ∈ types.names ↔ name ∈ names) :
    read types template word = .error e ↔ Fault names template word e := by
  constructor
  · intro h
    by_cases hform : ∃ form : Form, form.Writes word
    · obtain ⟨form, hform⟩ := hform
      rw [read_of_writes hform] at h
      cases form with
      | parameter name =>
        obtain ⟨hname, rfl⟩ := TypeRegistry.get_eq_error_iff.1 (map_eq_error.1 h)
        exact .unknownType hform (mt (hnames name).2 hname)
      | keyword aliases => cases h
    · rw [read_of_not_writes (not_exists.1 hform)] at h
      cases h
      exact .malformed (not_exists.1 hform)
  · rintro (hform | ⟨hform, hname⟩)
    · exact read_of_not_writes hform
    · rw [read_of_writes hform]
      exact map_eq_error.2 (TypeRegistry.get_eq_error_iff.2 ⟨mt (hnames _).1 hname, rfl⟩)

/-- Words are read from the left, and a template without any is no template. -/
theorem readAll_eq_error_iff (hnames : ∀ name, name ∈ types.names ↔ name ∈ names) :
    readAll types template = .error e ↔
      FirstFault (fun _ word e => Fault names template word e) (Text.words template) e ∨
        Text.words template = [] ∧ e = .emptyTemplate template := by
  have hfirst : (Text.words template).mapM (read types template) = .error e ↔
      FirstFault (fun _ word e => Fault names template word e) (Text.words template) e := by
    simp only [mapM_eq_error_iff, read_eq_error_iff hnames]
  rw [readAll, bind_eq_error, hfirst]
  refine or_congr_right ?_
  constructor
  · rintro ⟨slots, hslots, h⟩
    cases slots with
    | nil => exact ⟨(eq_nil_iff_of_mapM hslots).1 rfl, by cases h; rfl⟩
    | cons slot slots => cases h
  · rintro ⟨hnil, rfl⟩
    exact ⟨[], by rw [hnil]; rfl, rfl⟩

end SearchBox.Slot
