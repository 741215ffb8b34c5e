namespace SearchBox.Ranked

variable {α : Type}

/-- Puts `x` behind everything that ranks at least as high. -/
def insert (rank : α → Int) (x : α) : List α → List α
  | [] => [x]
  | y :: ys => if rank y < rank x then x :: y :: ys else y :: insert rank x ys

/-- Highest rank first; equal ranks keep their order. -/
def sort (rank : α → Int) (xs : List α) : List α :=
  xs.foldl (fun sorted x => insert rank x sorted) []

theorem insert_perm (rank : α → Int) (x : α) (ys : List α) : (insert rank x ys).Perm (x :: ys) := by
  induction ys with
  | nil => exact .refl _
  | cons y ys ih =>
    rw [insert]
    split
    · exact .refl _
    · exact (ih.cons y).trans (.swap x y ys)

theorem sort_append_singleton (rank : α → Int) (xs : List α) (x : α) :
    sort rank (xs ++ [x]) = insert rank x (sort rank xs) := by
  simp [sort]

end SearchBox.Ranked
