import Mathlib.Data.List.Chain
import SearchBox.Proofs.Text.LowerCase
import SearchBox.Proofs.Text.Normalize

namespace SearchBox.Text

/-- Blanks stand alone, and each of them is a space. -/
structure Collapsed (cs : List Char) : Prop where
  isChain : cs.IsChain fun c d => isBlank c = true → isBlank d = false
  eq_space : ∀ c ∈ cs, isBlank c = true → c = ' '

variable {before cs ds : List Char}

theorem Collapsed.right_of_append (h : Collapsed (cs ++ ds)) : Collapsed ds :=
  ⟨h.isChain.right_of_append, fun c hc => h.eq_space c (List.mem_append_right cs hc)⟩

/-- No blank stands in front, and none behind another. -/
theorem Collapsed.head?_of_append (h : Collapsed (cs ++ ds))
    (hhead : (cs ++ ds).head?.any isBlank = false) (hlast : cs.getLast?.all isBlank = true) :
    ds.head?.any isBlank = false := by
  by_cases hcs : cs = []
  · rwa [hcs, List.nil_append] at hhead
  · have hget := List.getLast?_eq_some_getLast hcs
    obtain ⟨-, -, hseam⟩ := List.isChain_append.1 h.isChain
    rw [hget, Option.all_some] at hlast
    exact (Option.any_eq_false _ _).2 fun d hd => hseam _ hget d hd hlast

/-- A letter is none of the spaces that runs of blanks become. -/
theorem mem_of_mem_collapse {c : Char} (hc : isBlank c = false) (h : c ∈ collapse cs) :
    c ∈ cs := by
  have hspace : c ≠ ' ' := by
    rintro rfl
    exact absurd hc (by decide)
  induction cs with
  | nil => exact h
  | cons d ds ih =>
    rw [collapse] at h
    split at h
    · split at h
      · exact List.mem_cons_of_mem d (ih h)
      · exact List.mem_cons_of_mem d (ih (List.mem_of_ne_of_mem hspace h))
    · rcases List.mem_cons.1 h with rfl | h
      · exact List.mem_cons_self
      · exact List.mem_cons_of_mem d (ih h)

theorem head?_collapse (cs : List Char) :
    (collapse cs).head?.any isBlank = cs.head?.any isBlank := by
  have hspace : isBlank ' ' = true := by decide
  induction cs with
  | nil => rfl
  | cons c cs ih =>
    rw [collapse]
    split
    · rename_i hc
      split
      · rename_i hhead
        simp [ih, hhead, hc]
      · simp [hspace, hc]
    · rfl

theorem collapsed_collapse (cs : List Char) : Collapsed (collapse cs) := by
  induction cs with
  | nil => exact ⟨.nil, by simp [collapse]⟩
  | cons c cs ih =>
    rw [collapse]
    split
    · split
      · exact ih
      · rename_i hhead
        rw [← head?_collapse, Bool.not_eq_true, Option.any_eq_false] at hhead
        exact ⟨List.isChain_cons.2 ⟨fun d hd _ => hhead d hd, ih.isChain⟩,
          List.forall_mem_cons.2 ⟨fun _ => rfl, ih.eq_space⟩⟩
    · rename_i hc
      exact ⟨List.isChain_cons.2 ⟨fun _ _ h => absurd h hc, ih.isChain⟩,
        List.forall_mem_cons.2 ⟨fun h => absurd h hc, ih.eq_space⟩⟩

theorem Collapsed.collapse_eq (h : Collapsed cs) : collapse cs = cs := by
  induction cs with
  | nil => rfl
  | cons c cs ih =>
    obtain ⟨hhead, hchain⟩ := List.isChain_cons.1 h.isChain
    obtain ⟨hspace, hspaces⟩ := List.forall_mem_cons.1 h.eq_space
    rw [collapse, ih ⟨hchain, hspaces⟩]
    split
    · rename_i hc
      have hnext := (Option.any_eq_false isBlank cs.head?).2 fun d hd => hhead d hd hc
      rw [hnext, hspace hc]
      rfl
    · rfl

/-- The blanks on the two sides of a seam must not meet. -/
theorem collapse_append (hds : Collapsed ds)
    (hseam : cs.getLast?.any isBlank = true → ds.head?.any isBlank = false) :
    collapse (cs ++ ds) = collapse cs ++ ds := by
  induction cs with
  | nil => exact hds.collapse_eq
  | cons c cs ih =>
    rw [List.cons_append, collapse, collapse]
    cases cs with
    | nil =>
      by_cases hc : isBlank c = true
      · simp [collapse, hds.collapse_eq, hc, hseam (by simpa using hc)]
      · simp [collapse, hds.collapse_eq, hc]
    | cons d cs =>
      rw [ih (by simpa using hseam)]
      by_cases hc : isBlank c = true <;> by_cases hd : isBlank d = true <;> simp [hc, hd]

theorem dropBlanks_of_head (h : cs.head?.any isBlank = false) : dropBlanks cs = cs := by
  cases cs with
  | nil => rfl
  | cons c cs => exact List.dropWhile_cons_of_neg (by simpa using h)

theorem head?_squeeze (s : String) : (squeeze s).head?.any isBlank = false := by
  have hhead := List.head?_dropWhile_not isBlank s.toList
  rw [squeeze, head?_collapse, dropBlanks, Option.any_eq_false]
  intro c hc
  simpa [hc] using hhead

/-- What is put behind a text stays as it is, unless its blanks meet those of the text. -/
theorem squeeze_append {s : String} (hds : Collapsed ds)
    (hseam : (squeeze s).getLast?.all isBlank = true → ds.head?.any isBlank = false) :
    squeeze (s ++ String.ofList ds) = squeeze s ++ ds := by
  rw [squeeze, String.toList_append, String.toList_ofList, dropBlanks, List.dropWhile_append,
    ← dropBlanks, ← dropBlanks]
  by_cases hnil : dropBlanks s.toList = []
  · have hs : squeeze s = [] := by rw [squeeze, hnil, collapse]
    rw [hs] at hseam
    rw [hnil, List.isEmpty_nil, if_pos rfl, dropBlanks_of_head (hseam rfl), hds.collapse_eq, hs,
      List.nil_append]
  · rw [if_neg (by simpa using hnil), collapse_append hds, squeeze]
    intro hlast
    rw [← getLast?_collapse, ← squeeze] at hlast
    obtain ⟨c, hlast, hc⟩ := (Option.any_eq_true _ _).1 hlast
    exact hseam (by rw [hlast]; exact hc)

theorem lowerChar_of_mem_lowerAfter {d : Char} (h : d ∈ lowerAfter before cs) :
    lowerChar d = [d] := by
  induction cs generalizing before with
  | nil => cases h
  | cons c cs ih =>
    obtain ⟨ds, hds, happend⟩ := exists_lowerCaseOf before c cs
    rw [happend, List.mem_append] at h
    exact h.elim (hds.fixed d) ih

/-- What follows a text without a capital sigma does not change its lower case. -/
theorem lowerAfter_append_of_fixed (hcs : 'Σ' ∉ cs) (hds : ∀ d ∈ ds, lowerChar d = [d]) :
    lowerAfter before (cs ++ ds) = lowerAfter before cs ++ ds := by
  induction cs generalizing before with
  | nil => exact lowerAfter_of_fixed hds before
  | cons c cs ih =>
    obtain ⟨hc, hcs⟩ := not_or.1 (mt List.mem_cons.2 hcs)
    rw [List.cons_append, lowerAfter, lowerAfter, ih hcs]
    simp [Ne.symm hc]

theorem lowerAfter_ne_nil (h : cs ≠ []) : lowerAfter before cs ≠ [] := by
  obtain ⟨c, cs, rfl⟩ := List.exists_cons_of_ne_nil h
  obtain ⟨ds, hds, happend⟩ := exists_lowerCaseOf before c cs
  rw [happend]
  exact List.append_ne_nil_of_left_ne_nil hds.ne_nil _

theorem head?_lowerAfter : (lowerAfter before cs).head?.any isBlank = cs.head?.any isBlank := by
  cases cs with
  | nil => rfl
  | cons c cs =>
    obtain ⟨ds, hds, happend⟩ := exists_lowerCaseOf before c cs
    obtain ⟨d, ds', rfl⟩ := List.exists_cons_of_ne_nil hds.ne_nil
    simpa [happend] using hds.isBlank_eq d

theorem getLast?_lowerAfter :
    (lowerAfter before cs).getLast?.all isBlank = cs.getLast?.all isBlank := by
  induction cs generalizing before with
  | nil => rfl
  | cons c cs ih =>
    obtain ⟨ds, hds, happend⟩ := exists_lowerCaseOf before c cs
    rw [happend]
    cases cs with
    | nil =>
      have hlast := hds.isBlank_eq _ (List.getLast_mem hds.ne_nil)
      simpa [lowerAfter, List.getLast?_eq_some_getLast hds.ne_nil] using hlast
    | cons d cs =>
      rw [List.getLast?_append_of_ne_nil _ (lowerAfter_ne_nil (List.cons_ne_nil d cs)), ih,
        List.getLast?_cons_cons]

theorem Collapsed.lowerAfter (h : Collapsed cs) : Collapsed (lowerAfter before cs) := by
  induction cs generalizing before with
  | nil => exact h
  | cons c cs ih =>
    obtain ⟨ds, hds, happend⟩ := exists_lowerCaseOf before c cs
    obtain ⟨hhead, hchain⟩ := List.isChain_cons.1 h.isChain
    obtain ⟨hspace, hspaces⟩ := List.forall_mem_cons.1 h.eq_space
    have hcs : Collapsed (Text.lowerAfter (c :: before) cs) := ih ⟨hchain, hspaces⟩
    rw [happend]
    by_cases hc : isBlank c = true
    · have hnext : (Text.lowerAfter (c :: before) cs).head?.any isBlank = false := by
        rw [head?_lowerAfter, Option.any_eq_false]
        exact fun d hd => hhead d hd hc
      rw [Option.any_eq_false] at hnext
      rw [hds.eq_of_isBlank hc]
      exact ⟨List.isChain_cons.2 ⟨fun d hd _ => hnext d hd, hcs.isChain⟩,
        List.forall_mem_cons.2 ⟨hspace, hcs.eq_space⟩⟩
    · have hletters : ∀ d ∈ ds, ¬ isBlank d = true := fun d hd => by rwa [hds.isBlank_eq d hd]
      refine ⟨List.isChain_append.2 ⟨?_, hcs.isChain, ?_⟩, ?_⟩
      · exact (List.pairwise_of_forall_mem_list fun d hd _ _ h => absurd h (hletters d hd)).isChain
      · exact fun d hd _ _ h => absurd h (hletters d (List.mem_of_getLast? hd))
      · intro d hd h
        rcases List.mem_append.1 hd with hd | hd
        · exact absurd h (hletters d hd)
        · exact hcs.eq_space d hd h

theorem collapsed_normalize (s : String) : Collapsed (normalize s).toList := by
  rw [toList_normalize]
  exact (collapsed_collapse _).lowerAfter

/-- A text that is normalized to the beginning of another may be completed by the rest of that. -/
theorem normalize_append {s t : String} (hs : 'Σ' ∉ s.toList) {rest : List Char}
    (h : (normalize t).toList = (normalize s).toList ++ rest) :
    normalize (s ++ String.ofList rest) = normalize t := by
  have hcollapsed := collapsed_normalize t
  have hhead : (normalize t).toList.head?.any isBlank = false := by
    rw [toList_normalize, lower, head?_lowerAfter, head?_squeeze]
  have hfixed : ∀ c ∈ rest, lowerChar c = [c] := by
    intro c hc
    have hmem : c ∈ (normalize t).toList := h ▸ List.mem_append_right _ hc
    rw [toList_normalize] at hmem
    exact lowerChar_of_mem_lowerAfter hmem
  have hsigma : 'Σ' ∉ squeeze s := by
    intro hmem
    exact hs ((List.dropWhile_suffix isBlank).subset (mem_of_mem_collapse (by decide) hmem))
  rw [toList_normalize s] at h
  rw [h] at hcollapsed hhead
  have hseam : (squeeze s).getLast?.all isBlank = true → rest.head?.any isBlank = false := by
    intro hlast
    have hlower : (lower (squeeze s)).getLast?.all isBlank = true := by
      rwa [lower, getLast?_lowerAfter]
    exact hcollapsed.head?_of_append hhead hlower
  rw [← String.toList_inj, toList_normalize, squeeze_append hcollapsed.right_of_append hseam,
    lower, lowerAfter_append_of_fixed hsigma hfixed, h, lower]

/-- What has been normalized stays as it is. -/
theorem normalize_normalize (s : String) : normalize (normalize s) = normalize s := by
  have hempty : normalize "" = "" := rfl
  have h : normalize ("" ++ String.ofList (normalize s).toList) = normalize s :=
    normalize_append (by simp) (by rw [hempty]; simp)
  simpa using h

end SearchBox.Text
