import Mathlib.Data.List.Chain
import SearchBox.Proofs.Text.Words

namespace SearchBox.Text

theorem charWords_blanks_append {cs : List Char} (h : ∀ c ∈ cs, isBlank c = true)
    (ds : List Char) : charWords (cs ++ ds) = charWords ds := by
  induction cs with
  | nil => rfl
  | cons c cs ih =>
    obtain ⟨hc, hcs⟩ := List.forall_mem_cons.1 h
    rw [List.cons_append, charWords_blank hc, ih hcs]

namespace Run

theorem isBlank_eq_not_isWord {r : Run} {c : Char} (h : RunKind.of c = r.kind) :
    isBlank c = !r.isWord := by
  rw [isWord, ← h, RunKind.of]
  by_cases hc : isBlank c = true <;> simp [hc]

theorem isWord_eq_false_iff {r s : Run} (hr : r.isWord = true) :
    s.isWord = false ↔ r.kind ≠ s.kind := by
  obtain ⟨k, -, -⟩ := s
  have hkind : r.kind = .word := by simpa [isWord] using hr
  cases k <;> simp [isWord, hkind]

/-- Runs are never empty, hold characters of one kind, and have neighbours of the other kind. -/
structure Maximal (rs : List Run) : Prop where
  chars_ne_nil : ∀ r ∈ rs, r.chars ≠ []
  kind_eq : ∀ r ∈ rs, ∀ c ∈ r.chars, .of c = r.kind
  isChain : rs.IsChain fun r s => r.kind ≠ s.kind

namespace Maximal

variable {r : Run} {rs front back : List Run}

theorem nil : Maximal [] := ⟨by simp, by simp, .nil⟩

theorem cons (h : Maximal rs) (n : Nat) (c : Char) : Maximal (Run.cons n c rs) := by
  cases rs with
  | nil => exact ⟨by simp [Run.cons], by simp [Run.cons], .singleton _⟩
  | cons r rs =>
    rw [Run.cons]
    by_cases hc : r.kind = .of c
    · rw [if_pos hc]
      obtain ⟨hne, hkind, hchain⟩ := h
      obtain ⟨-, hne⟩ := List.forall_mem_cons.1 hne
      obtain ⟨hr, hkind⟩ := List.forall_mem_cons.1 hkind
      rw [List.isChain_cons] at hchain
      exact ⟨List.forall_mem_cons.2 ⟨List.cons_ne_nil _ _, hne⟩,
        List.forall_mem_cons.2 ⟨List.forall_mem_cons.2 ⟨hc.symm, hr⟩, hkind⟩,
        List.isChain_cons.2 hchain⟩
    · rw [if_neg hc]
      refine ⟨List.forall_mem_cons.2 ⟨List.cons_ne_nil _ _, h.chars_ne_nil⟩,
        List.forall_mem_cons.2 ⟨by simp, h.kind_eq⟩, h.isChain.cons ?_⟩
      simpa using fun hkind => hc hkind.symm

theorem split (text : String) : Maximal (split text) := by
  have h (n : Nat) (cs : List Char) : Maximal (runsFrom n cs) := by
    induction cs generalizing n with
    | nil => exact nil
    | cons c cs ih => exact (ih (n + 1)).cons n c
  exact h 0 text.toList

theorem left (h : Maximal (front ++ back)) : Maximal front :=
  ⟨fun s hs => h.chars_ne_nil s (List.mem_append_left back hs),
    fun s hs => h.kind_eq s (List.mem_append_left back hs), h.isChain.left_of_append⟩

theorem right (h : Maximal (front ++ back)) : Maximal back :=
  ⟨fun s hs => h.chars_ne_nil s (List.mem_append_right front hs),
    fun s hs => h.kind_eq s (List.mem_append_right front hs), h.isChain.right_of_append⟩

theorem isBlank_eq (h : Maximal rs) (hr : r ∈ rs) : ∀ c ∈ r.chars, isBlank c = !r.isWord :=
  fun c hc => isBlank_eq_not_isWord (h.kind_eq r hr c hc)

/-- A run is as long as it can be: what follows it begins with the other kind. -/
theorem of_head_ne (h : Maximal (r :: rs)) : ∀ d ∈ (rs.flatMap chars).head?, .of d ≠ r.kind := by
  cases rs with
  | nil => simp
  | cons s rs =>
    obtain ⟨d, ds, hchars⟩ := List.exists_cons_of_ne_nil (h.chars_ne_nil s (by simp))
    have hd : .of d = s.kind := h.kind_eq s (by simp) d (by simp [hchars])
    have hkind := (List.isChain_cons_cons.1 h.isChain).1
    simpa [hchars, hd] using hkind.symm

/-- A word is followed by a blank or by nothing. -/
theorem head_isBlank (h : Maximal (r :: rs)) (hr : r.isWord = true) :
    (rs.flatMap chars).head?.all isBlank = true := by
  have hkind : r.kind = .word := by simpa [isWord] using hr
  cases hhead : (rs.flatMap chars).head? with
  | none => rfl
  | some d => simpa [RunKind.of, hkind] using h.of_head_ne d hhead

/-- In front of a word stands a blank or nothing. -/
theorem getLast_isBlank (h : Maximal (front ++ r :: back)) (hr : r.isWord = true) :
    (front.flatMap chars).getLast?.all isBlank = true := by
  rcases List.eq_nil_or_concat' front with rfl | ⟨front, s, rfl⟩
  · rfl
  · have hkind : s.kind ≠ r.kind := by
      obtain ⟨-, -, h⟩ := List.isChain_append.1 h.isChain
      exact h s (by simp) r (by simp)
    have hs : s.isWord = false := (isWord_eq_false_iff hr).2 hkind.symm
    have hmem : s ∈ front ++ [s] ++ r :: back := by simp
    obtain ⟨cs, c, hchars⟩ := (List.eq_nil_or_concat' s.chars).resolve_left (h.chars_ne_nil s hmem)
    have hc := h.isBlank_eq hmem c (by simp [hchars])
    simp [hchars, hc, hs]

/-- Put together again, runs come apart into the words among them. -/
theorem charWords_flatMap_chars (h : Maximal rs) :
    charWords (rs.flatMap chars) = (rs.filter isWord).map chars := by
  induction rs with
  | nil => rfl
  | cons r rs ih =>
    have hblank := h.isBlank_eq List.mem_cons_self
    have hback : Maximal ([r] ++ rs) := h
    have hrest := ih hback.right
    rw [List.flatMap_cons]
    by_cases hr : r.isWord = true
    · rw [charWords_append_of_head_blank (h.head_isBlank hr),
        charWords_of_letters (h.chars_ne_nil r List.mem_cons_self) (by simpa [hr] using hblank),
        hrest, List.filter_cons_of_pos hr, List.map_cons, List.singleton_append]
    · rw [charWords_blanks_append (by simpa [hr] using hblank), hrest,
        List.filter_cons_of_neg hr]

end Maximal

/-- The first run stands at `n`, and every other one where the run before it ends. -/
def Adjoin : Nat → List Run → Prop
  | _, [] => True
  | n, r :: rs => r.position = n ∧ Adjoin (n + r.chars.length) rs

theorem adjoin_runsFrom (n : Nat) (cs : List Char) : Adjoin n (runsFrom n cs) := by
  induction cs generalizing n with
  | nil => trivial
  | cons c cs ih =>
    have hrest := ih (n + 1)
    rw [runsFrom]
    cases hruns : runsFrom (n + 1) cs with
    | nil => exact ⟨rfl, trivial⟩
    | cons r rs =>
      rw [hruns] at hrest
      rw [cons]
      by_cases hkind : r.kind = .of c
      · rw [if_pos hkind]
        refine ⟨rfl, ?_⟩
        rw [List.length_cons, Nat.add_comm r.chars.length 1, ← Nat.add_assoc]
        exact hrest.2
      · rw [if_neg hkind]
        exact ⟨rfl, hrest⟩

theorem Adjoin.position_eq {n : Nat} {front back : List Run} {r : Run}
    (h : Adjoin n (front ++ r :: back)) : r.position = n + (front.flatMap chars).length := by
  induction front generalizing n with
  | nil => exact h.1
  | cons s front ih =>
    rw [ih h.2, List.flatMap_cons, List.length_append, Nat.add_assoc]

end Run

/-- Word number `index` of `text` is `word`, and `n` characters come before it. It is as long as it
can be: the characters next to it, if there are any, are blanks. -/
structure StandsAt (text word : String) (index n : Nat) : Prop where
  isPrefix_drop : word.toList <+: text.toList.drop n
  ne_empty : word ≠ ""
  letters : ∀ c ∈ word.toList, isBlank c = false
  blank_before : (text.toList.take n).getLast?.all isBlank = true
  blank_after : (text.toList.drop (n + word.length)).head?.all isBlank = true
  words_before : (words (String.ofList (text.toList.take n))).length = index

/-- The last letter of `text` is character number `n`, counted from one. -/
def LastLetterAt (text : String) (n : Nat) : Prop :=
  ∃ before c after, text.toList = before ++ c :: after ∧ before.length + 1 = n ∧
    isBlank c = false ∧ ∀ d ∈ after, isBlank d = true

variable {text : String} {front back : List Run} {r : Run}

theorem toList_eq_of_split_eq (h : Run.split text = front ++ r :: back) :
    text.toList = front.flatMap Run.chars ++ (r.chars ++ back.flatMap Run.chars) := by
  have hchars := Run.flatMap_chars_runsFrom 0 text.toList
  rw [← Run.split, h] at hchars
  simpa using hchars.symm

theorem standsAt_of_split_eq (h : Run.split text = front ++ r :: back) (hr : r.isWord = true) :
    StandsAt text r.lexeme (front.filter Run.isWord).length
      (front.flatMap Run.chars).length := by
  have hmax : Run.Maximal (front ++ r :: back) := h ▸ Run.Maximal.split text
  have htext := toList_eq_of_split_eq h
  have hmem : r ∈ front ++ r :: back := by simp
  have hlexeme : r.lexeme.toList = r.chars := String.toList_ofList
  have hlength : r.lexeme.length = r.chars.length := by rw [← String.length_toList, hlexeme]
  constructor
  · simp [htext, hlexeme]
  · exact fun hempty => hmax.chars_ne_nil r hmem (by simpa [hempty] using hlexeme.symm)
  · rw [hlexeme]
    simpa [hr] using hmax.isBlank_eq hmem
  · simpa [htext] using hmax.getLast_isBlank hr
  · simpa [htext, hlength, List.drop_append] using hmax.right.head_isBlank hr
  · have hwords := hmax.left.charWords_flatMap_chars
    simp [htext, words_eq_charWords, hwords]

theorem lastLetterAt_of_split_eq (h : Run.split text = front ++ r :: back) (hr : r.isWord = true)
    (hback : back.filter Run.isWord = []) :
    LastLetterAt text ((front ++ [r]).flatMap Run.chars).length := by
  have hmax : Run.Maximal (front ++ r :: back) := h ▸ Run.Maximal.split text
  have hmem : r ∈ front ++ r :: back := by simp
  obtain ⟨cs, c, hchars⟩ := (List.eq_nil_or_concat' r.chars).resolve_left (hmax.chars_ne_nil r hmem)
  have hc := hmax.isBlank_eq hmem c (by simp [hchars])
  refine ⟨front.flatMap Run.chars ++ cs, c, back.flatMap Run.chars, ?_, ?_, ?_, ?_⟩
  · rw [toList_eq_of_split_eq h, hchars]
    simp
  · simp [hchars, Nat.add_assoc]
  · simpa [hr] using hc
  · intro d hd
    obtain ⟨s, hs, hd⟩ := List.mem_flatMap.1 hd
    have hblank : s.isWord = false := by simpa using List.filter_eq_nil_iff.1 hback s hs
    simpa [hblank] using hmax.isBlank_eq (by simp [hs] : s ∈ front ++ r :: back) d hd

end SearchBox.Text
