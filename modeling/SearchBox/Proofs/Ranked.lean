import Mathlib.Data.List.Induction
import Mathlib.Data.List.Sort
import SearchBox.Ranked

namespace SearchBox.Ranked

variable {α : Type} (rank : α → Int)

/-- Highest rank first, as a relation between neighbours. -/
def ahead (a b : α) : Bool := decide (rank b ≤ rank a)

theorem mem_insert {x y : α} {ys : List α} : y ∈ insert rank x ys ↔ y = x ∨ y ∈ ys := by
  rw [(insert_perm rank x ys).mem_iff, List.mem_cons]

/-- Insertion cuts a sorted list in two. -/
theorem exists_insert_eq (x : α) {ys : List α} (h : ys.Pairwise fun a b => rank b ≤ rank a) :
    ∃ front back, ys = front ++ back ∧ insert rank x ys = front ++ x :: back ∧
      (∀ y ∈ front, rank x ≤ rank y) ∧ ∀ y ∈ back, rank y < rank x := by
  induction ys with
  | nil => exact ⟨[], [], rfl, rfl, by simp, by simp⟩
  | cons y ys ih =>
    obtain ⟨hy, hys⟩ := List.pairwise_cons.1 h
    by_cases hlt : rank y < rank x
    · refine ⟨[], y :: ys, rfl, if_pos hlt, by simp, ?_⟩
      exact List.forall_mem_cons.2 ⟨hlt, fun z hz => (hy z hz).trans_lt hlt⟩
    · obtain ⟨front, back, rfl, hinsert, hfront, hback⟩ := ih hys
      refine ⟨y :: front, back, rfl, ?_, List.forall_mem_cons.2 ⟨by omega, hfront⟩, hback⟩
      rw [insert, if_neg hlt, hinsert, List.cons_append]

theorem pairwise_insert (x : α) {ys : List α}
    (h : ys.Pairwise fun a b => rank b ≤ rank a) :
    (insert rank x ys).Pairwise fun a b => rank b ≤ rank a := by
  obtain ⟨front, back, rfl, hinsert, hfront, hback⟩ := exists_insert_eq rank x h
  obtain ⟨hsorted, hsortedBack, hcross⟩ := List.pairwise_append.1 h
  rw [hinsert, List.pairwise_append, List.pairwise_cons]
  refine ⟨hsorted, ⟨fun y hy => (hback y hy).le, hsortedBack⟩, fun y hy z hz => ?_⟩
  rcases List.mem_cons.1 hz with rfl | hz
  · exact hfront y hy
  · exact hcross y hy z hz

theorem insert_append (x : α) {front : List α} (h : ∀ y ∈ front, rank x ≤ rank y)
    (back : List α) : insert rank x (front ++ back) = front ++ insert rank x back := by
  induction front with
  | nil => rfl
  | cons y front ih =>
    obtain ⟨hy, hfront⟩ := List.forall_mem_cons.1 h
    rw [List.cons_append, insert, if_neg (by omega), ih hfront, List.cons_append]

/-- It does not matter which of two comes first if the one goes behind its equals and the other
in front of them. -/
theorem insert_orderedInsert (x a : α) (ys : List α) :
    insert rank x (ys.orderedInsert (fun b c => rank c ≤ rank b) a) =
      (insert rank x ys).orderedInsert (fun b c => rank c ≤ rank b) a := by
  induction ys with
  | nil =>
    simp only [List.orderedInsert_nil, insert, List.orderedInsert_cons]
    by_cases h : rank a < rank x
    · rw [if_pos h, if_neg (by omega)]
    · rw [if_neg h, if_pos (by omega)]
  | cons y ys ih =>
    by_cases hya : rank y ≤ rank a
    · by_cases hax : rank a < rank x
      · have hyx : rank y < rank x := by omega
        have hxa : ¬ rank x ≤ rank a := by omega
        simp [insert, hya, hax, hyx, hxa]
      · by_cases hyx : rank y < rank x
        · have hxa : rank x ≤ rank a := by omega
          simp [insert, hya, hax, hyx, hxa]
        · simp [insert, hya, hax, hyx]
    · by_cases hyx : rank y < rank x
      · have hxa : ¬ rank x ≤ rank a := by omega
        simp [insert, hya, hyx, hxa]
      · simp [insert, hya, hyx, ih]

theorem sort_cons (a : α) (xs : List α) :
    sort rank (a :: xs) = (sort rank xs).orderedInsert (fun b c => rank c ≤ rank b) a := by
  -- The fold may start from any list that `a` has been put into.
  have hfold : ∀ ys, xs.foldl (fun sorted x => insert rank x sorted)
      (ys.orderedInsert (fun b c => rank c ≤ rank b) a) =
      (xs.foldl (fun sorted x => insert rank x sorted) ys).orderedInsert
        (fun b c => rank c ≤ rank b) a := by
    induction xs with
    | nil => exact fun ys => rfl
    | cons x xs ih =>
      intro ys
      rw [List.foldl_cons, List.foldl_cons, insert_orderedInsert, ih]
  exact hfold []

theorem orderedInsert_append {a : α} {front back : List α}
    (hfront : ∀ b ∈ front, ¬ rank b ≤ rank a) (hback : ∀ b ∈ back, rank b ≤ rank a) :
    (front ++ back).orderedInsert (fun b c => rank c ≤ rank b) a = front ++ a :: back := by
  induction front with
  | nil =>
    cases back with
    | nil => rfl
    | cons b back => exact List.orderedInsert_cons_of_le _ back (hback b List.mem_cons_self)
  | cons b front ih =>
    rw [List.cons_append, List.orderedInsert_cons, if_neg (hfront b List.mem_cons_self),
      ih fun c hc => hfront c (List.mem_cons_of_mem b hc), List.cons_append]

theorem ahead_trans (a b c : α) (hab : ahead rank a b = true) (hbc : ahead rank b c = true) :
    ahead rank a c = true := by
  simp only [ahead, decide_eq_true_eq] at hab hbc ⊢
  omega

theorem ahead_total (a b : α) : (ahead rank a b || ahead rank b a) = true := by
  simp only [ahead, Bool.or_eq_true, decide_eq_true_eq]
  omega

/-- Inserting one by one is the stable sort by descending rank. -/
theorem sort_eq_mergeSort (xs : List α) : sort rank xs = xs.mergeSort (ahead rank) := by
  induction xs with
  | nil => simp [sort]
  | cons a xs ih =>
    obtain ⟨front, back, hcons, hxs, hfront⟩ :=
      List.mergeSort_cons (ahead_trans rank) (ahead_total rank) a xs
    have hsorted := List.pairwise_mergeSort (ahead_trans rank) (ahead_total rank) (a :: xs)
    rw [hcons, List.pairwise_append] at hsorted
    obtain ⟨-, hback, -⟩ := hsorted
    rw [sort_cons, ih, hxs, hcons]
    apply orderedInsert_append
    · intro b hb
      simpa [ahead] using hfront b hb
    · intro b hb
      simpa [ahead] using (List.pairwise_cons.1 hback).1 b hb

theorem sort_perm (xs : List α) : (sort rank xs).Perm xs := by
  rw [sort_eq_mergeSort]
  exact List.mergeSort_perm xs (ahead rank)

theorem mem_sort {x : α} {xs : List α} : x ∈ sort rank xs ↔ x ∈ xs :=
  (sort_perm rank xs).mem_iff

/-- What ranks no higher than all before it stays behind them. -/
theorem sort_append {xs ys : List α} (h : ∀ y ∈ ys, ∀ x ∈ xs, rank y ≤ rank x) :
    sort rank (xs ++ ys) = sort rank xs ++ sort rank ys := by
  induction ys using List.reverseRecOn with
  | nil => simp [sort]
  | append_singleton ys y ih =>
    have hy : ∀ x ∈ sort rank xs, rank y ≤ rank x :=
      fun x hx => h y (by simp) x ((mem_sort rank).1 hx)
    rw [← List.append_assoc, sort_append_singleton, sort_append_singleton,
      ih fun z hz => h z (by simp [hz]), insert_append rank y hy]

theorem pairwise_sort (xs : List α) :
    (sort rank xs).Pairwise fun a b => rank b ≤ rank a := by
  rw [sort_eq_mergeSort]
  have hsorted := List.pairwise_mergeSort (ahead_trans rank) (ahead_total rank) xs
  exact hsorted.imp fun h => by simpa [ahead] using h

/-- Among sorted entries, inserting is appending and sorting again. -/
theorem insert_eq_mergeSort (x : α) {ys : List α} (h : ys.Pairwise fun a b => rank b ≤ rank a) :
    insert rank x ys = (ys ++ [x]).mergeSort (ahead rank) := by
  have hsorted : sort rank ys = ys := by
    rw [sort_eq_mergeSort]
    exact List.mergeSort_of_pairwise (h.imp fun hab => by simpa [ahead] using hab)
  rw [← sort_eq_mergeSort, sort_append_singleton, hsorted]

/-- The first entry of a kind in a list with `z` inserted is the first one without it, or `z`
where `z` ranks above all of that kind. -/
theorem find?_insert_eq_some {p : α → Bool} {x z : α} {ys : List α}
    (hys : ys.Pairwise fun a b => rank b ≤ rank a) (h : (insert rank z ys).find? p = some x) :
    (ys.find? p = some x ∧ (p z = true → rank z ≤ rank x)) ∨
      x = z ∧ ∀ y ∈ ys, p y = true → rank y < rank z := by
  obtain ⟨front, back, rfl, hinsert, hfront, hback⟩ := exists_insert_eq rank z hys
  rw [hinsert, List.find?_append] at h
  rw [List.find?_append]
  cases hfind : front.find? p with
  | some y =>
    obtain rfl : y = x := by simpa [hfind] using h
    exact .inl ⟨rfl, fun _ => hfront y (List.mem_of_find?_eq_some hfind)⟩
  | none =>
    rw [hfind, Option.none_or] at h
    by_cases hz : p z = true
    · rw [List.find?_cons_of_pos hz] at h
      refine .inr ⟨(Option.some.inj h).symm, fun y hy hpy => ?_⟩
      rcases List.mem_append.1 hy with hy | hy
      · exact absurd hpy (List.find?_eq_none.1 hfind y hy)
      · exact hback y hy
    · rw [List.find?_cons_of_neg hz] at h
      exact .inl ⟨h, fun hpz => absurd hpz hz⟩

/-- The first entry of a kind after sorting ranks above those of its kind that came before it, and
no lower than those that came after it. -/
theorem exists_append_of_find?_sort {p : α → Bool} {x : α} {xs : List α}
    (h : (sort rank xs).find? p = some x) :
    ∃ before after, xs = before ++ x :: after ∧
      (∀ y ∈ before, p y = true → rank y < rank x) ∧
      ∀ y ∈ after, p y = true → rank y ≤ rank x := by
  induction xs using List.reverseRecOn with
  | nil => simp [sort] at h
  | append_singleton xs z ih =>
    rw [sort_append_singleton] at h
    rcases find?_insert_eq_some rank (pairwise_sort rank xs) h with ⟨hx, hz⟩ | ⟨rfl, hbelow⟩
    · obtain ⟨before, after, rfl, hbefore, hafter⟩ := ih hx
      refine ⟨before, after ++ [z], by simp, hbefore, fun y hy hpy => ?_⟩
      rcases List.mem_append.1 hy with hy | hy
      · exact hafter y hy hpy
      · obtain rfl := List.mem_singleton.1 hy
        exact hz hpy
    · exact ⟨xs, [], rfl, fun y hy => hbelow y ((mem_sort rank).2 hy), by simp⟩

end SearchBox.Ranked
