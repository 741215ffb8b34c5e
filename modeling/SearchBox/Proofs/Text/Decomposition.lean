import SearchBox.Proofs.Text.Runs

namespace SearchBox.Text

namespace Run

/-- Put together, `rs` give `text` back. Each of them holds only blanks or only letters, its
neighbours are of the other kind, and its position counts the characters in front of it. -/
structure Decomposes (text : String) (rs : List Run) : Prop where
  join_lexemes : String.join (rs.map lexeme) = text
  lexeme_ne_empty : ∀ r ∈ rs, r.lexeme ≠ ""
  isBlank_iff : ∀ r ∈ rs, ∀ c ∈ r.lexeme.toList, isBlank c = true ↔ r.kind = .blank
  isChain : rs.IsChain fun r s => r.kind ≠ s.kind
  position_eq : ∀ before r after, rs = before ++ r :: after →
    r.position = (String.join (before.map lexeme)).length

variable {n : Nat} {text : String} {r : Run} {rs : List Run}

theorem toList_lexeme (r : Run) : r.lexeme.toList = r.chars := String.toList_ofList

theorem toList_join_lexemes (rs : List Run) :
    (String.join (rs.map lexeme)).toList = rs.flatMap chars := by
  simp [String.toList_join, List.flatMap_map, toList_lexeme]

theorem of_eq_kind_iff {c : Char} : .of c = r.kind ↔ (isBlank c = true ↔ r.kind = .blank) := by
  rw [RunKind.of]
  cases r.kind <;> by_cases hc : isBlank c = true <;> simp [hc]

theorem adjoin_iff : Adjoin n rs ↔ ∀ before r after, rs = before ++ r :: after →
    r.position = n + (before.flatMap chars).length := by
  constructor
  · rintro h before r after rfl
    exact h.position_eq
  · intro h
    induction rs generalizing n with
    | nil => trivial
    | cons r rs ih =>
      refine ⟨h [] r rs rfl, ih fun before s after hrs => ?_⟩
      rw [h (r :: before) s after (by rw [hrs, List.cons_append]), List.flatMap_cons,
        List.length_append, Nat.add_assoc]

theorem decomposes_iff :
    Decomposes text rs ↔ rs.flatMap chars = text.toList ∧ Maximal rs ∧ Adjoin 0 rs := by
  have hlength : ∀ before : List Run,
      (String.join (before.map lexeme)).length = 0 + (before.flatMap chars).length := by
    intro before
    rw [← String.length_toList, toList_join_lexemes, Nat.zero_add]
  rw [← toList_join_lexemes, String.toList_inj, adjoin_iff]
  simp only [← hlength]
  constructor
  · intro h
    refine ⟨h.join_lexemes, ⟨fun r hr hnil => ?_, fun r hr c hc => ?_, h.isChain⟩,
      h.position_eq⟩
    · exact h.lexeme_ne_empty r hr (by simp [lexeme, hnil])
    · exact of_eq_kind_iff.2 (h.isBlank_iff r hr c (by rwa [toList_lexeme]))
  · rintro ⟨hjoin, hmax, hposition⟩
    refine ⟨hjoin, fun r hr hempty => ?_, fun r hr c hc => ?_, hmax.isChain, hposition⟩
    · exact hmax.chars_ne_nil r hr (by rw [← toList_lexeme, hempty, String.toList_empty])
    · exact of_eq_kind_iff.1 (hmax.kind_eq r hr c (by rwa [toList_lexeme] at hc))

/-- Characters of one kind in front of another kind are the first run. -/
theorem runsFrom_append {kind : RunKind} {cs ds : List Char} (hne : cs ≠ [])
    (hcs : ∀ c ∈ cs, .of c = kind) (hds : ∀ d ∈ ds.head?, .of d ≠ kind) :
    runsFrom n (cs ++ ds) = ⟨kind, cs, n⟩ :: runsFrom (n + cs.length) ds := by
  induction cs generalizing n with
  | nil => exact absurd rfl hne
  | cons c cs ih =>
    obtain ⟨hc, hcs⟩ := List.forall_mem_cons.1 hcs
    rw [List.cons_append, runsFrom]
    cases cs with
    | nil =>
      cases ds with
      | nil => simp [runsFrom, cons, hc]
      | cons d ds =>
        obtain ⟨s, ss, hruns, hkind⟩ := exists_head_run (n + 1) d ds
        have hd : .of d ≠ kind := hds d rfl
        simp [hruns, cons, hkind, hc, hd]
    | cons c' cs =>
      rw [ih (by simp) hcs]
      simp [cons, hc, Nat.add_comm, Nat.add_left_comm]

/-- The characters determine the runs: whatever has their form is what splitting finds. -/
theorem Maximal.runsFrom_flatMap_chars (h : Maximal rs) (hn : Adjoin n rs) :
    runsFrom n (rs.flatMap chars) = rs := by
  induction rs generalizing n with
  | nil => rfl
  | cons r rs ih =>
    obtain ⟨hposition, hrest⟩ := hn
    have hback : Maximal ([r] ++ rs) := h
    rw [List.flatMap_cons, runsFrom_append (h.chars_ne_nil r List.mem_cons_self)
      (h.kind_eq r List.mem_cons_self) h.of_head_ne, ih hback.right hrest, ← hposition]

theorem decomposes_split (text : String) : Decomposes text (split text) :=
  decomposes_iff.2
    ⟨flatMap_chars_runsFrom 0 text.toList, .split text, adjoin_runsFrom 0 text.toList⟩

theorem Decomposes.eq_split (h : Decomposes text rs) : rs = split text := by
  obtain ⟨hchars, hmax, hadjoin⟩ := decomposes_iff.1 h
  rw [split, ← hchars, hmax.runsFrom_flatMap_chars hadjoin]

/-- Reads one more character, which stands at `position`: it makes the last run longer, or it
begins a new one. -/
def extend (rs : List Run) (c : Char) (position : Nat) : List Run :=
  match rs.getLast? with
  | none => [⟨.of c, [c], position⟩]
  | some r =>
    if r.kind = .of c then rs.dropLast ++ [{ r with chars := r.chars ++ [c] }]
    else rs ++ [⟨.of c, [c], position⟩]

theorem extend_append_singleton (front : List Run) (r : Run) (c : Char) (position : Nat) :
    extend (front ++ [r]) c position = front ++ extend [r] c position := by
  simp only [extend, List.getLast?_concat, List.getLast?_singleton, List.dropLast_concat,
    List.dropLast_singleton]
  split <;> simp

theorem cons_append_of_ne_nil {front : List Run} (hne : front ≠ []) (m : Nat) (a : Char)
    (back : List Run) : cons m a (front ++ back) = cons m a front ++ back := by
  obtain ⟨r, front, rfl⟩ := List.exists_cons_of_ne_nil hne
  rw [List.cons_append, cons, cons]
  split <;> rfl

/-- One character in front and one behind do not get in each other's way. -/
theorem cons_extend (m n : Nat) (a c : Char) (rs : List Run) :
    cons m a (extend rs c n) = extend (cons m a rs) c n := by
  rcases List.eq_nil_or_concat' rs with rfl | ⟨front, last, rfl⟩
  · simp only [extend, cons, List.getLast?_nil]
    generalize RunKind.of a = before
    generalize RunKind.of c = behind
    cases before <;> cases behind <;> rfl
  · by_cases hfront : front = []
    -- Both characters may belong to the only run there is.
    · subst hfront
      obtain ⟨kind, chars, position⟩ := last
      simp only [extend, cons, List.nil_append, List.getLast?_singleton]
      generalize RunKind.of a = before
      generalize RunKind.of c = behind
      cases kind <;> cases before <;> cases behind <;> rfl
    · rw [extend_append_singleton, cons_append_of_ne_nil hfront, cons_append_of_ne_nil hfront,
        extend_append_singleton]

theorem runsFrom_append_singleton (n : Nat) (cs : List Char) (c : Char) :
    runsFrom n (cs ++ [c]) = extend (runsFrom n cs) c (n + cs.length) := by
  induction cs generalizing n with
  | nil => rfl
  | cons a cs ih =>
    rw [List.cons_append, runsFrom, ih, cons_extend, runsFrom, List.length_cons,
      Nat.add_right_comm, Nat.add_assoc]

theorem foldl_extend (cs : List Char) :
    cs.zipIdx.foldl (fun rs (c, position) => extend rs c position) [] = runsFrom 0 cs := by
  induction cs using List.reverseRecOn with
  | nil => rfl
  | append_singleton cs c ih =>
    rw [List.zipIdx_append, List.foldl_append, ih, runsFrom_append_singleton]
    rfl

end Run

/-- Each word behind its gap, and what is left at the end. -/
def spaced (parts : List (String × String)) (trail : String) : String :=
  String.join (parts.map fun (gap, word) => gap ++ word) ++ trail

/-- Gaps are blank, words are not, and only in front of the first word and behind the last one may
there be nothing. -/
structure Spaced (parts : List (String × String)) (trail : String) : Prop where
  word_ne_empty : ∀ p ∈ parts, p.2 ≠ ""
  isBlank_word : ∀ p ∈ parts, ∀ c ∈ p.2.toList, isBlank c = false
  isBlank_gap : ∀ p ∈ parts, ∀ c ∈ p.1.toList, isBlank c = true
  gap_ne_empty : ∀ p ∈ parts.tail, p.1 ≠ ""
  isBlank_trail : ∀ c ∈ trail.toList, isBlank c = true

theorem toList_spaced_cons (p : String × String) (parts : List (String × String))
    (trail : String) :
    (spaced (p :: parts) trail).toList =
      p.1.toList ++ (p.2.toList ++ (spaced parts trail).toList) := by
  simp [spaced, String.toList_join]

namespace Spaced

variable {p : String × String} {parts : List (String × String)} {trail : String}

theorem tail (h : Spaced (p :: parts) trail) : Spaced parts trail where
  word_ne_empty q hq := h.word_ne_empty q (List.mem_cons_of_mem p hq)
  isBlank_word q hq := h.isBlank_word q (List.mem_cons_of_mem p hq)
  isBlank_gap q hq := h.isBlank_gap q (List.mem_cons_of_mem p hq)
  gap_ne_empty q hq := h.gap_ne_empty q (List.mem_of_mem_tail hq)
  isBlank_trail := h.isBlank_trail

/-- Behind a word comes a blank or nothing. -/
theorem head_isBlank (h : Spaced (p :: parts) trail) :
    (spaced parts trail).toList.head?.all isBlank = true := by
  cases parts with
  | nil =>
    cases htrail : trail.toList with
    | nil => simp [spaced, htrail]
    | cons c cs => simpa [spaced, htrail] using h.isBlank_trail c (by simp [htrail])
  | cons q parts =>
    obtain ⟨c, cs, hgap⟩ := List.exists_cons_of_ne_nil (l := q.1.toList)
      (by simpa using h.gap_ne_empty q (by simp))
    have hc := h.isBlank_gap q (by simp) c (by simp [hgap])
    simp [toList_spaced_cons, hgap, hc]

theorem charWords_spaced (h : Spaced parts trail) :
    charWords (spaced parts trail).toList = parts.map fun p => p.2.toList := by
  induction parts with
  | nil =>
    have htrail := charWords_blanks_append h.isBlank_trail []
    simpa [spaced] using htrail
  | cons p parts ih =>
    have hne : p.2.toList ≠ [] := by simpa using h.word_ne_empty p (by simp)
    rw [toList_spaced_cons, charWords_blanks_append (h.isBlank_gap p (by simp)),
      charWords_append_of_head_blank h.head_isBlank,
      charWords_of_letters hne (h.isBlank_word p (by simp)), ih h.tail, List.map_cons,
      List.singleton_append]

end Spaced

/-- The runs of a text are the only ones that it comes apart into. A scan from its start finds
them, and between gaps they are the words that were put there. -/
theorem decomposes_uniquely (text : String) :
    (∀ rs, Run.Decomposes text rs ↔ rs = Run.split text) ∧
    text.toList.zipIdx.foldl (fun rs (c, position) => Run.extend rs c position) [] =
      Run.split text ∧
    ∀ parts trail, Spaced parts trail → text = spaced parts trail →
      ((Run.split text).filter Run.isWord).map Run.lexeme = parts.map Prod.snd := by
  refine ⟨fun rs => ⟨Run.Decomposes.eq_split, ?_⟩, Run.foldl_extend text.toList, ?_⟩
  · rintro rfl
    exact Run.decomposes_split text
  · rintro parts trail hspaced rfl
    have hwords := words_eq_charWords (spaced parts trail)
    rw [hspaced.charWords_spaced, List.map_map] at hwords
    simpa [words, Function.comp_def] using hwords

theorem decomposes_uniquely_reminder :
    Run.Decomposes "\tdue  is " [⟨.blank, ['\t'], 0⟩, ⟨.word, ['d', 'u', 'e'], 1⟩,
      ⟨.blank, [' ', ' '], 4⟩, ⟨.word, ['i', 's'], 6⟩, ⟨.blank, [' '], 8⟩] ∧
    Spaced [("\t", "due"), ("  ", "is")] " " ∧
    ((Run.split "\tdue  is ").filter Run.isWord).map Run.lexeme = ["due", "is"] := by
  obtain ⟨hiff, -, hwords⟩ := decomposes_uniquely "\tdue  is "
  have hletters : ["due", "is"].all fun word => word.toList.all (!isBlank ·) := by decide
  have hblanks : ["\t", "  "].all fun gap => gap.toList.all isBlank := by decide
  have hspaced : Spaced [("\t", "due"), ("  ", "is")] " " :=
    { word_ne_empty := by decide
      isBlank_word := by simpa using hletters
      isBlank_gap := by simpa using hblanks
      gap_ne_empty := by decide
      isBlank_trail := List.all_eq_true.1 (by decide) }
  exact ⟨(hiff _).2 rfl, hspaced, hwords _ _ hspaced rfl⟩

end SearchBox.Text
