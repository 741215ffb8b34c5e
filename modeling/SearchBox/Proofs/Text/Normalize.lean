import Mathlib.Data.List.Forall2
import SearchBox.Proofs.Text.Words
import SearchBox.Text.Normalize

namespace SearchBox.Text

/-- Each run of blanks becomes one space. -/
def collapse : List Char → List Char
  | [] => []
  | c :: cs =>
    if isBlank c then if cs.head?.any isBlank then collapse cs else ' ' :: collapse cs
    else c :: collapse cs

/-- A text as it is normalized, but in its own letter case. -/
def squeeze (text : String) : List Char := collapse (dropBlanks text.toList)

theorem flatMap_squeezed_runsFrom (n : Nat) (cs : List Char) :
    (Run.runsFrom n cs).flatMap Run.squeezed = collapse cs := by
  induction cs generalizing n with
  | nil => rfl
  | cons c cs ih =>
    rw [collapse, ← ih (n + 1), Run.runsFrom]
    cases cs with
    | nil =>
      by_cases hc : isBlank c = true <;>
        simp [Run.runsFrom, Run.cons, Run.squeezed, RunKind.of, hc]
    | cons d ds =>
      obtain ⟨r, rs, hr, hkind⟩ := exists_head_run (n + 1) d ds
      rw [hr, Run.cons]
      by_cases hc : isBlank c = true <;> by_cases hd : isBlank d = true <;>
        simp [Run.squeezed, RunKind.of, hkind, hc, hd]

/-- Only the places of the runs change when the blanks in front go. -/
theorem dropWhile_runsFrom (n : Nat) (cs : List Char) :
    ∃ m, (Run.runsFrom n cs).dropWhile (!·.isWord) = Run.runsFrom m (dropBlanks cs) := by
  induction cs generalizing n with
  | nil => exact ⟨n, rfl⟩
  | cons c cs ih =>
    by_cases hc : isBlank c = true
    · have hof : RunKind.of c = .blank := by simp [RunKind.of, hc]
      obtain ⟨m, hm⟩ := ih (n + 1)
      refine ⟨m, ?_⟩
      rw [dropBlanks, List.dropWhile_cons_of_pos hc, ← dropBlanks, ← hm, Run.runsFrom]
      cases Run.runsFrom (n + 1) cs with
      | nil => simp [Run.cons, Run.isWord, hof]
      | cons r rs => cases hr : r.kind <;> simp [Run.cons, Run.isWord, hof, hr]
    · obtain ⟨r, rs, hr, hkind⟩ := exists_head_run n c cs
      refine ⟨n, ?_⟩
      rw [dropBlanks, List.dropWhile_cons_of_neg hc, hr, List.dropWhile_cons_of_neg]
      simp [Run.isWord, hkind, RunKind.of, hc]

theorem toList_normalize (s : String) : (normalize s).toList = lower (squeeze s) := by
  obtain ⟨m, hm⟩ := dropWhile_runsFrom 0 s.toList
  rw [normalize, Run.split, hm, flatMap_squeezed_runsFrom, String.toList_ofList, squeeze]

/-- Collapsing changes no word, not even where other text touches it. -/
theorem charWords_collapse (front cs back : List Char) :
    charWords (front ++ (collapse cs ++ back)) = charWords (front ++ (cs ++ back)) := by
  induction cs generalizing front with
  | nil => rfl
  | cons c cs ih =>
    rw [collapse]
    by_cases hc : isBlank c = true
    · have hsplit : charWords (front ++ (c :: cs ++ back)) =
          charWords front ++ charWords (cs ++ back) := charWords_append_blank hc front (cs ++ back)
      rw [if_pos hc, hsplit]
      split
      · rename_i hhead
        rw [ih front, charWords_append_of_head_blank]
        cases cs with
        | nil => cases hhead
        | cons d ds => simpa using hhead
      · have hspace : isBlank ' ' = true := by decide
        rw [List.cons_append, charWords_append_blank hspace]
        exact congrArg _ (ih [])
    · rw [if_neg hc]
      have hstep := ih (front ++ [c])
      simpa using hstep

theorem charWords_dropBlanks (cs back : List Char) :
    charWords (dropBlanks cs ++ back) = charWords (cs ++ back) := by
  induction cs with
  | nil => rfl
  | cons c cs ih =>
    by_cases hc : isBlank c = true
    · rw [dropBlanks, List.dropWhile_cons_of_pos hc, ← dropBlanks, ih, List.cons_append,
        charWords_blank hc]
    · rw [dropBlanks, List.dropWhile_cons_of_neg hc]

theorem charWords_squeeze_append (s : String) (back : List Char) :
    charWords (squeeze s ++ back) = charWords (s.toList ++ back) := by
  rw [squeeze, ← charWords_dropBlanks s.toList back]
  exact charWords_collapse [] (dropBlanks s.toList) back

theorem collapse_ne_nil {cs : List Char} (h : cs ≠ []) : collapse cs ≠ [] := by
  induction cs with
  | nil => exact absurd rfl h
  | cons c cs ih =>
    rw [collapse]
    split
    · split
      · rename_i hhead
        exact ih (by rintro rfl; cases hhead)
      · exact List.cons_ne_nil _ _
    · exact List.cons_ne_nil _ _

theorem getLast?_collapse (cs : List Char) :
    (collapse cs).getLast?.any isBlank = cs.getLast?.any isBlank := by
  induction cs with
  | nil => rfl
  | cons c cs ih =>
    cases cs with
    | nil =>
      have hspace : isBlank ' ' = true := by decide
      by_cases hc : isBlank c = true <;> simp [collapse, hc, hspace]
    | cons d ds =>
      have hrest : collapse (d :: ds) ≠ [] := collapse_ne_nil (List.cons_ne_nil d ds)
      have hlast (x : Char) : (x :: collapse (d :: ds)).getLast? = (collapse (d :: ds)).getLast? :=
        List.getLast?_cons_of_ne_nil hrest
      rw [collapse, List.getLast?_cons_cons, ← ih]
      by_cases hc : isBlank c = true <;> by_cases hd : isBlank d = true <;> simp [hc, hd, hlast]

theorem endsBlank_eq_of_squeeze_ne_nil {s : String} (h : squeeze s ≠ []) :
    endsBlank s = (squeeze s).getLast?.any isBlank := by
  obtain ⟨front, hfront⟩ := List.dropWhile_suffix isBlank (l := s.toList)
  have hne : dropBlanks s.toList ≠ [] := by
    intro hnil
    rw [squeeze, hnil] at h
    exact h rfl
  have hlast := List.getLast?_append_of_ne_nil front hne
  rw [dropBlanks, hfront] at hlast
  rw [squeeze, getLast?_collapse, endsBlank, hlast, dropBlanks]

/-- Whatever completes a squeezed text completes the text. -/
theorem words_append_of_squeeze_eq {s t rest : String} (h : squeeze t = squeeze s ++ rest.toList) :
    words (s ++ rest) = words t := by
  have ht := charWords_squeeze_append t []
  rw [List.append_nil, List.append_nil] at ht
  rw [words_eq_charWords, words_eq_charWords, String.toList_append, ← charWords_squeeze_append,
    ← h, ht]

theorem endsBlank_append_of_squeeze_eq {s t rest : String}
    (h : squeeze t = squeeze s ++ rest.toList) (hrest : rest.toList ≠ []) :
    endsBlank (s ++ rest) = endsBlank t := by
  have ht : squeeze t ≠ [] := by
    rw [h]
    exact List.append_ne_nil_of_right_ne_nil _ hrest
  rw [endsBlank_eq_of_squeeze_ne_nil ht, h, endsBlank, String.toList_append,
    List.getLast?_append_of_ne_nil _ hrest, List.getLast?_append_of_ne_nil _ hrest]

/-- What is lowered may depend on what follows, but not how long it gets. -/
theorem exists_lowerAfter_append (before cs ds : List Char) :
    ∃ front, lowerAfter before (cs ++ ds) = front ++ lowerAfter (cs.reverse ++ before) ds ∧
      front.length = (lowerAfter before cs).length := by
  induction cs generalizing before with
  | nil => exact ⟨[], rfl, rfl⟩
  | cons c cs ih =>
    obtain ⟨front, happend, hlength⟩ := ih (c :: before)
    refine ⟨(if c = 'Σ' && meetsCased before && !meetsCased (cs ++ ds) then ['ς'] else
      lowerChar c) ++ front, ?_, ?_⟩
    · rw [List.cons_append, lowerAfter, happend, List.append_assoc, List.reverse_cons,
        List.append_assoc, List.singleton_append]
    · rw [lowerAfter, List.length_append, List.length_append, hlength]
      by_cases hc : c = 'Σ'
      · subst hc
        have hone : (lowerChar 'Σ').length = 1 := by decide
        congr 1
        split <;> split <;> simp [hone]
      · simp [hc]

/-- The lower case of `c` is `d` wherever it stands. -/
def LowersTo (c d : Char) : Prop := c ≠ 'Σ' ∧ lowerChar c = [d]

instance (c d : Char) : Decidable (LowersTo c d) := inferInstanceAs (Decidable (_ ∧ _))

theorem lowersTo_self {c : Char} (h : lowerChar c = [c]) : LowersTo c c := by
  refine ⟨?_, h⟩
  rintro rfl
  exact absurd h (by decide)

theorem lowerAfter_append_of_lowersTo {cs ds : List Char} (h : List.Forall₂ LowersTo cs ds)
    (before rest : List Char) :
    lowerAfter before (cs ++ rest) = ds ++ lowerAfter (cs.reverse ++ before) rest := by
  induction h generalizing before with
  | nil => rfl
  | cons hc _ ih =>
    obtain ⟨hsigma, hlower⟩ := hc
    rw [List.cons_append, lowerAfter, ih, hlower]
    simp [hsigma]

theorem lowerAfter_of_lowersTo {cs ds : List Char} (h : List.Forall₂ LowersTo cs ds)
    (before : List Char) : lowerAfter before cs = ds := by
  simpa [lowerAfter] using lowerAfter_append_of_lowersTo h before []

theorem lowerAfter_fixed_append {cs : List Char} (h : ∀ c ∈ cs, lowerChar c = [c])
    (before ds : List Char) :
    lowerAfter before (cs ++ ds) = cs ++ lowerAfter (cs.reverse ++ before) ds :=
  lowerAfter_append_of_lowersTo (List.forall₂_same.2 fun c hc => lowersTo_self (h c hc)) before ds

theorem lowerAfter_of_fixed {cs : List Char} (h : ∀ c ∈ cs, lowerChar c = [c])
    (before : List Char) : lowerAfter before cs = cs :=
  lowerAfter_of_lowersTo (List.forall₂_same.2 fun c hc => lowersTo_self (h c hc)) before

/-- A rest without capitals is still there after lower-casing, at the same distance. -/
theorem drop_lower_append {cs rest : List Char} (h : ∀ c ∈ rest, lowerChar c = [c]) :
    (lower (cs ++ rest)).drop (lower cs).length = rest := by
  obtain ⟨front, happend, hlength⟩ := exists_lowerAfter_append [] cs rest
  rw [lower, lower, happend, ← hlength, List.drop_left, lowerAfter_of_fixed h]

end SearchBox.Text
