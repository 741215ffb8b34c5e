import SearchBox.Proofs.Text.Collapsed

namespace SearchBox.Text

variable {c : Char} {cs : List Char}

theorem dropBlanks_cons (hc : isBlank c = true) (cs : List Char) :
    dropBlanks (c :: cs) = dropBlanks cs :=
  List.dropWhile_cons_of_pos hc

theorem dropBlanks_append (h : dropBlanks cs ≠ []) (ds : List Char) :
    dropBlanks (cs ++ ds) = dropBlanks cs ++ ds := by
  unfold dropBlanks at h ⊢
  rw [List.dropWhile_append, if_neg (by simpa using h)]

theorem dropBlanks_append_of_nil (h : dropBlanks cs = []) (ds : List Char) :
    dropBlanks (cs ++ ds) = dropBlanks ds := by
  unfold dropBlanks at h ⊢
  rw [List.dropWhile_append, if_pos (by simpa using h)]

theorem isBlank_of_head?_dropBlanks (h : (dropBlanks cs).head? = some c) : isBlank c = false := by
  have hhead := List.head?_dropWhile_not isBlank cs
  rw [← dropBlanks, h] at hhead
  exact hhead

theorem trim_cons (hc : isBlank c = true) (cs : List Char) : trim (c :: cs) = trim cs := by
  rw [trim, trim, dropBlanks_cons hc]

theorem trim_append_singleton (hc : isBlank c = true) (cs : List Char) :
    trim (cs ++ [c]) = trim cs := by
  by_cases hcs : dropBlanks cs = []
  · rw [trim, trim, dropBlanks_append_of_nil hcs, dropBlanks_cons hc, hcs]
    rfl
  · rw [trim, trim, dropBlanks_append hcs, List.reverse_append, List.reverse_singleton,
      List.singleton_append, dropBlanks_cons hc]

theorem head?_trim (cs : List Char) : (trim cs).head? = (dropBlanks cs).head? := by
  cases hcs : dropBlanks cs with
  | nil =>
    rw [trim, hcs]
    rfl
  | cons c ds =>
    have hc : isBlank c = false := isBlank_of_head?_dropBlanks (by rw [hcs, List.head?_cons])
    have hlast : dropBlanks [c] = [c] := dropBlanks_of_head (by simpa using hc)
    rw [trim, hcs, List.reverse_cons]
    by_cases hds : dropBlanks ds.reverse = []
    · rw [dropBlanks_append_of_nil hds, hlast]
      rfl
    · rw [dropBlanks_append hds, List.reverse_append]
      rfl

theorem trim_of_ends (hfirst : cs.head?.any isBlank = false)
    (hlast : cs.getLast?.any isBlank = false) : trim cs = cs := by
  rw [← List.head?_reverse] at hlast
  rw [trim, dropBlanks_of_head hfirst, dropBlanks_of_head hlast, List.reverse_reverse]

theorem trim_of_letters (h : ∀ c ∈ cs, isBlank c = false) : trim cs = cs := by
  refine trim_of_ends ?_ ?_
  · exact (Option.any_eq_false _ _).2 fun c hc => by simp [h c (List.mem_of_head? hc)]
  · exact (Option.any_eq_false _ _).2 fun c hc => by simp [h c (List.mem_of_getLast? hc)]

end SearchBox.Text
