import SearchBox.Grammar.Spelling
import SearchBox.Text.Run

namespace SearchBox.Text

/-- Whether the last character is a blank, so that the last word is finished. -/
def endsBlank (text : String) : Bool := text.toList.getLast?.any isBlank

/-- What stands between blanks. -/
def charWords (cs : List Char) : List (List Char) := (cs.splitOnP isBlank).filter (!·.isEmpty)

@[simp] theorem charWords_nil : charWords [] = [] := rfl

theorem charWords_append_blank {c : Char} (hc : isBlank c = true) (cs ds : List Char) :
    charWords (cs ++ c :: ds) = charWords cs ++ charWords ds := by
  simp [charWords, List.splitOnP_append_cons cs ds hc]

theorem charWords_blank {c : Char} (hc : isBlank c = true) (cs : List Char) :
    charWords (c :: cs) = charWords cs := charWords_append_blank hc [] cs

theorem charWords_singleton {c : Char} (hc : isBlank c = false) : charWords [c] = [[c]] := by
  have hsplit : [c].splitOnP isBlank = [[c]] := List.splitOnP_eq_singleton (by simpa using hc)
  simp [charWords, hsplit]

theorem charWords_letter {c : Char} {cs : List Char} (hc : isBlank c = false)
    (hcs : cs.head?.all isBlank = true) : charWords (c :: cs) = [c] :: charWords cs := by
  cases cs with
  | nil => exact charWords_singleton hc
  | cons d ds =>
    have hd : isBlank d = true := by simpa using hcs
    have h := charWords_append_blank hd [c] ds
    rw [charWords_singleton hc, List.singleton_append] at h
    rw [h, charWords_blank hd, List.singleton_append]

theorem exists_splitOnP_letter {separates : Char → Bool} {c : Char} (hc : separates c = false)
    (cs : List Char) :
    ∃ p ps, cs.splitOnP separates = p :: ps ∧ (c :: cs).splitOnP separates = (c :: p) :: ps := by
  obtain ⟨p, ps, hp⟩ := List.exists_cons_of_ne_nil (List.splitOnP_ne_nil separates cs)
  exact ⟨p, ps, hp, by simp [List.splitOnP_cons_eq_if_modifyHead, hc, hp]⟩

/-- No separator is left in what stands between separators. -/
theorem separates_of_mem_splitOnP {separates : Char → Bool} {w cs : List Char}
    (h : w ∈ cs.splitOnP separates) : ∀ c ∈ w, separates c = false := by
  induction cs generalizing w with
  | nil =>
    obtain rfl : w = [] := by simpa using h
    simp
  | cons d ds ih =>
    by_cases hd : separates d = true
    · rw [List.splitOnP_cons_eq_if_modifyHead, if_pos hd, List.mem_cons] at h
      rcases h with rfl | h
      · simp
      · exact ih h
    · obtain ⟨p, ps, hpieces, hcons⟩ := exists_splitOnP_letter (by simpa using hd) ds
      rw [hcons, List.mem_cons] at h
      rcases h with rfl | h
      · intro c hc
        rcases List.mem_cons.1 hc with rfl | hc
        · simpa using hd
        · exact ih (by simp [hpieces]) c hc
      · exact ih (by simp [hpieces, h])

/-- A letter in front of a letter makes the first word longer. -/
theorem charWords_letter_letter {c d : Char} (hc : isBlank c = false) (hd : isBlank d = false)
    (cs : List Char) :
    ∃ w ws, charWords (d :: cs) = w :: ws ∧ charWords (c :: d :: cs) = (c :: w) :: ws := by
  obtain ⟨p, ps, -, hp⟩ := exists_splitOnP_letter hd cs
  refine ⟨d :: p, ps.filter (!·.isEmpty), ?_, ?_⟩
  · simp [charWords, hp]
  · simp [charWords, List.splitOnP_cons_eq_if_modifyHead, hc, hp]

theorem ne_nil_of_mem_charWords {w cs : List Char} (h : w ∈ charWords cs) : w ≠ [] := by
  have hw := (List.mem_filter.1 h).2
  rintro rfl
  simp at hw

/-- Joining two texts joins the last piece of the one with the first of the other. The last piece
is empty only if no letter stands before the seam. -/
theorem exists_last_piece (cs : List Char) :
    ∃ front a, cs.splitOnP isBlank = front ++ [a] ∧ (a = [] → cs.getLast?.all isBlank = true) ∧
      ∀ ds b back, ds.splitOnP isBlank = b :: back →
        (cs ++ ds).splitOnP isBlank = front ++ (a ++ b) :: back := by
  induction cs with
  | nil => exact ⟨[], [], rfl, fun _ => rfl, fun ds b back h => h⟩
  | cons c cs ih =>
    obtain ⟨front, a, hpieces, hlast, happend⟩ := ih
    by_cases hc : isBlank c = true
    · refine ⟨[] :: front, a, ?_, fun ha => ?_, fun ds b back h => ?_⟩
      · rw [List.splitOnP_cons_eq_if_modifyHead, if_pos hc, hpieces, List.cons_append]
      · cases cs with
        | nil => simpa using hc
        | cons d cs => simpa using hlast ha
      · rw [List.cons_append, List.splitOnP_cons_eq_if_modifyHead, if_pos hc,
          happend ds b back h, List.cons_append]
    -- The letter goes to the first piece, which is the last one if there is no other.
    · cases front with
      | nil =>
        refine ⟨[], c :: a, ?_, by simp, fun ds b back h => ?_⟩
        · rw [List.splitOnP_cons_eq_if_modifyHead, if_neg hc, hpieces]
          rfl
        · rw [List.cons_append, List.splitOnP_cons_eq_if_modifyHead, if_neg hc,
            happend ds b back h]
          rfl
      | cons f front =>
        refine ⟨(c :: f) :: front, a, ?_, fun ha => ?_, fun ds b back h => ?_⟩
        · rw [List.splitOnP_cons_eq_if_modifyHead, if_neg hc, hpieces]
          rfl
        · cases cs with
          | nil => simp at hpieces
          | cons d cs => simpa using hlast ha
        · rw [List.cons_append, List.splitOnP_cons_eq_if_modifyHead, if_neg hc,
            happend ds b back h]
          rfl

theorem charWords_append_of_head_blank {cs ds : List Char} (h : ds.head?.all isBlank = true) :
    charWords (cs ++ ds) = charWords cs ++ charWords ds := by
  cases ds with
  | nil => simp
  | cons d ds =>
    have hd : isBlank d = true := by simpa using h
    rw [charWords_append_blank hd, charWords_blank hd]

/-- After a blank the words of the one text are followed by the words of the other. -/
theorem charWords_append_of_last_blank {cs ds : List Char}
    (h : cs.getLast?.any isBlank = true) :
    charWords (cs ++ ds) = charWords cs ++ charWords ds := by
  cases hlast : cs.getLast? with
  | none => simp [hlast] at h
  | some c =>
    have hc : isBlank c = true := by simpa [hlast] using h
    obtain ⟨front, rfl⟩ := List.getLast?_eq_some_iff.1 hlast
    have hfront := charWords_append_blank hc front []
    rw [charWords_nil, List.append_nil] at hfront
    rw [List.append_assoc, List.singleton_append, charWords_append_blank hc, hfront]

/-- Between two letters the last word of the one text grows by the first word of the other. -/
theorem charWords_append_of_letters {cs ds : List Char}
    (hcs : cs.getLast?.all isBlank = false) (hds : ds.head?.all isBlank = false) :
    ∃ front a b back, charWords cs = front ++ [a] ∧ charWords ds = b :: back ∧
      charWords (cs ++ ds) = front ++ (a ++ b) :: back := by
  obtain ⟨front, a, hpieces, hlast, happend⟩ := exists_last_piece cs
  have ha : a ≠ [] := fun ha => by simp [hlast ha] at hcs
  obtain ⟨d, ds, rfl⟩ := List.exists_cons_of_ne_nil (l := ds) (by rintro rfl; simp at hds)
  obtain ⟨b, back, -, hback⟩ := exists_splitOnP_letter (by simpa using hds : isBlank d = false) ds
  refine ⟨front.filter (!·.isEmpty), a, d :: b, back.filter (!·.isEmpty), ?_, ?_, ?_⟩
  · simp [charWords, hpieces, ha]
  · simp [charWords, hback]
  · simp [charWords, happend _ _ _ hback]

theorem exists_head_run (n : Nat) (c : Char) (cs : List Char) :
    ∃ r rs, Run.runsFrom n (c :: cs) = r :: rs ∧ r.kind = .of c := by
  rw [Run.runsFrom]
  cases Run.runsFrom (n + 1) cs with
  | nil => exact ⟨_, _, rfl, rfl⟩
  | cons r rs =>
    by_cases h : r.kind = .of c
    · exact ⟨_, _, if_pos h, h⟩
    · exact ⟨_, _, if_neg h, rfl⟩

/-- The words among the runs are what stands between blanks, wherever the text starts. -/
theorem map_chars_runsFrom (n : Nat) (cs : List Char) :
    ((Run.runsFrom n cs).filter Run.isWord).map Run.chars = charWords cs := by
  induction cs generalizing n with
  | nil => rfl
  | cons c cs ih =>
    cases cs with
    | nil =>
      by_cases hc : isBlank c = true
      · rw [charWords_blank hc]
        simp [Run.runsFrom, Run.cons, Run.isWord, RunKind.of, hc]
      · rw [charWords_singleton (by simpa using hc)]
        simp [Run.runsFrom, Run.cons, Run.isWord, RunKind.of, hc]
    | cons d ds =>
      obtain ⟨r, rs, hr, hkind⟩ := exists_head_run (n + 1) d ds
      have h := ih (n + 1)
      rw [Run.runsFrom, hr, Run.cons]
      rw [hr] at h
      -- Only a letter in front of a letter joins a run and a word.
      by_cases hc : isBlank c = true <;> by_cases hd : isBlank d = true
      · rw [charWords_blank hc, ← h]
        simp [Run.isWord, RunKind.of, hkind, hc, hd]
      · rw [charWords_blank hc, ← h]
        simp [Run.isWord, RunKind.of, hkind, hc, hd]
      · rw [charWords_letter (by simpa using hc) (by simpa using hd), ← h]
        simp [Run.isWord, RunKind.of, hkind, hc, hd]
      · obtain ⟨w, ws, hw, hcw⟩ :=
          charWords_letter_letter (by simpa using hc) (by simpa using hd : isBlank d = false) ds
        rw [hw] at h
        rw [hcw]
        simp [Run.isWord, RunKind.of, hkind, hc, hd] at h ⊢
        exact h

theorem words_eq_charWords (text : String) :
    words text = (charWords text.toList).map String.ofList := by
  rw [← map_chars_runsFrom 0, List.map_map]
  rfl

theorem ne_empty_of_mem_words {w text : String} (h : w ∈ words text) : w ≠ "" := by
  rw [words_eq_charWords, List.mem_map] at h
  obtain ⟨cs, hcs, rfl⟩ := h
  exact fun he => ne_nil_of_mem_charWords hcs (by simpa using he)

theorem charWords_of_letters {cs : List Char} (hne : cs ≠ []) (h : ∀ c ∈ cs, isBlank c = false) :
    charWords cs = [cs] := by
  simp [charWords, List.splitOnP_eq_singleton h, hne]

theorem isBlank_of_mem_words {w text : String} (h : w ∈ words text) :
    ∀ c ∈ w.toList, isBlank c = false := by
  rw [words_eq_charWords, List.mem_map] at h
  obtain ⟨cs, hcs, rfl⟩ := h
  rw [String.toList_ofList]
  exact separates_of_mem_splitOnP (List.mem_filter.1 hcs).1

theorem words_of_letters {w : String} (hne : w ≠ "") (h : ∀ c ∈ w.toList, isBlank c = false) :
    words w = [w] := by
  rw [words_eq_charWords, charWords_of_letters (by simpa using hne) h]
  simp

/-- A word is the only word in it. -/
theorem words_of_mem_words {w text : String} (h : w ∈ words text) : words w = [w] :=
  words_of_letters (ne_empty_of_mem_words h) (isBlank_of_mem_words h)

theorem words_append_space (s t : String) : words (s ++ " " ++ t) = words s ++ words t := by
  have hspace : isBlank ' ' = true := by decide
  have hlist : (s ++ " " ++ t).toList = s.toList ++ ' ' :: t.toList := by simp
  rw [words_eq_charWords, hlist, charWords_append_blank hspace, List.map_append,
    ← words_eq_charWords, ← words_eq_charWords]

/-- Joined by spaces, words are told apart again. -/
theorem words_intercalate {ws : List String} (h : ∀ w ∈ ws, words w = [w]) :
    words (" ".intercalate ws) = ws := by
  induction ws with
  | nil => rfl
  | cons w ws ih =>
    have hw := h w List.mem_cons_self
    cases ws with
    | nil => rw [String.intercalate_singleton, hw]
    | cons v vs =>
      rw [String.intercalate_cons_cons, words_append_space, hw,
        ih fun u hu => h u (List.mem_cons_of_mem w hu), List.singleton_append]

theorem getLast?_runsFrom (n : Nat) (cs : List Char) :
    (Run.runsFrom n cs).getLast?.map Run.kind = cs.getLast?.map RunKind.of := by
  induction cs generalizing n with
  | nil => rfl
  | cons c cs ih =>
    cases cs with
    | nil => rfl
    | cons d ds =>
      obtain ⟨r, rs, hr, hkind⟩ := exists_head_run (n + 1) d ds
      have h := ih (n + 1)
      rw [Run.runsFrom, List.getLast?_cons_cons, ← h, hr, Run.cons]
      by_cases hc : r.kind = .of c
      · rw [if_pos hc]
        cases rs with
        | nil => rfl
        | cons s ss => simp
      · rw [if_neg hc, List.getLast?_cons_cons]

/-- A continued text keeps its words, but the last one may grow while no blank finishes it. -/
theorem words_of_isPrefix {s t : String} (h : s.toList <+: t.toList) :
    (∃ rest, words t = words s ++ rest) ∨
      endsBlank s = false ∧ ∃ done typed word rest, words s = done ++ [typed] ∧
        words t = done ++ word :: rest ∧ startsWith typed word = true ∧ typed ≠ word := by
  obtain ⟨u, hu⟩ := h
  simp only [words_eq_charWords, ← hu, endsBlank]
  cases hlast : s.toList.getLast? with
  | none =>
    rw [List.getLast?_eq_none_iff.1 hlast]
    exact .inl ⟨_, rfl⟩
  | some c =>
    by_cases hc : isBlank c = true
    · exact .inl ⟨_, by rw [charWords_append_of_last_blank (by simpa [hlast] using hc),
        List.map_append]⟩
    · by_cases hhead : u.head?.all isBlank = true
      · exact .inl ⟨_, by rw [charWords_append_of_head_blank hhead, List.map_append]⟩
      · have hletter : s.toList.getLast?.all isBlank = false := by simpa [hlast] using hc
        obtain ⟨front, a, b, back, hs, hb, hsu⟩ :=
          charWords_append_of_letters hletter (by simpa using hhead)
        have hne : b ≠ [] := ne_nil_of_mem_charWords (by simp [hb] : b ∈ charWords u)
        refine .inr ⟨by simpa using hc, front.map String.ofList, String.ofList a,
          String.ofList (a ++ b), back.map String.ofList, by simp [hs], by simp [hsu], ?_, ?_⟩
        · exact startsWith_iff.2 ⟨b, by simp⟩
        · intro he
          have hab : a = a ++ b := by simpa using congrArg String.toList he
          exact hne (by simpa using hab)

theorem isBlank_of_charWords_eq_nil {cs : List Char} (h : charWords cs = []) :
    ∀ c ∈ cs, isBlank c = true := by
  induction cs with
  | nil => simp
  | cons c cs ih =>
    by_cases hc : isBlank c = true
    · rw [charWords_blank hc] at h
      exact List.forall_mem_cons.2 ⟨hc, ih h⟩
    · obtain ⟨p, ps, -, hp⟩ := exists_splitOnP_letter (by simpa using hc) cs
      simp [charWords, hp] at h

/-- Where a blank has finished the words, a text without more of them still ends in a blank. -/
theorem endsBlank_of_words_eq {s u : String} (hs : endsBlank s = true)
    (h : words (s ++ u) = words s) : endsBlank (s ++ u) = true := by
  rw [words_eq_charWords, words_eq_charWords, String.toList_append,
    charWords_append_of_last_blank hs, List.map_append] at h
  have hu : charWords u.toList = [] := by simpa using h
  cases hlast : u.toList.getLast? with
  | none => simpa [endsBlank, List.getLast?_append, hlast] using hs
  | some c =>
    have hc := isBlank_of_charWords_eq_nil hu c (List.mem_of_getLast? hlast)
    simp [endsBlank, List.getLast?_append, hlast, hc]

/-- How a list of words looks while it is typed: it stops after a word or inside one. -/
inductive Typing : List String → List String → Prop
  | nil (words : List String) : Typing [] words
  | last {typed word : String} (h : startsWith typed word = true) (words : List String) :
      Typing [typed] (word :: words)
  | cons (word : String) {typed words : List String} (h : Typing typed words) :
      Typing (word :: typed) (word :: words)

namespace Typing

theorem append {typed words : List String} (h : Typing typed words) (done : List String) :
    Typing (done ++ typed) (done ++ words) := by
  induction done with
  | nil => exact h
  | cons word done ih => exact .cons word ih

theorem of_isPrefix {s t : String} (h : s.toList <+: t.toList) : Typing (words s) (words t) := by
  rcases words_of_isPrefix h with ⟨rest, hrest⟩ | ⟨-, done, typed, word, rest, hs, ht, hstart, -⟩
  · have hwhole := (nil rest).append (words s)
    rwa [List.append_nil, ← hrest] at hwhole
  · rw [hs, ht]
    exact (last hstart rest).append done

theorem head {typed word : String} {rest words : List String}
    (h : Typing (typed :: rest) (word :: words)) : startsWith typed word = true := by
  cases h with
  | last hstart => exact hstart
  | cons _ _ => exact startsWith_self typed

theorem exists_cons {typed : String} {rest words : List String} (h : Typing (typed :: rest) words) :
    ∃ word others, words = word :: others ∧ startsWith typed word = true := by
  cases h with
  | last hstart others => exact ⟨_, others, rfl, hstart⟩
  | cons _ hrest => exact ⟨typed, _, rfl, startsWith_self typed⟩

theorem exists_cons_cons {word typed : String} {rest words : List String}
    (h : Typing (word :: typed :: rest) words) :
    ∃ next others, words = word :: next :: others ∧ startsWith typed next = true := by
  cases h with
  | cons _ hrest =>
    obtain ⟨next, others, rfl, hstart⟩ := hrest.exists_cons
    exact ⟨next, others, rfl, hstart⟩

/-- A word with another one after it is whole. -/
theorem tail {typed next word : String} {rest words : List String}
    (h : Typing (typed :: next :: rest) (word :: words)) :
    typed = word ∧ Typing (next :: rest) words := by
  cases h with
  | cons _ hrest => exact ⟨rfl, hrest⟩

end Typing

end SearchBox.Text
