import Mathlib.Data.List.Basic
import Mathlib.Data.List.Forall2
import Mathlib.Data.List.Induction

namespace SearchBox

section Except

variable {α β ε : Type} {x : Except ε α} {f : α → Except ε β} {a a' : α} {b : β}
  {e e' : ε}

theorem bind_eq_ok : x >>= f = .ok b ↔ ∃ a, x = .ok a ∧ f a = .ok b := by
  cases x <;> simp [bind, Except.bind]

theorem bind_eq_error :
    x >>= f = .error e ↔ x = .error e ∨ ∃ a, x = .ok a ∧ f a = .error e := by
  cases x <;> simp [bind, Except.bind]

theorem pure_eq_ok : (pure a : Except ε α) = .ok a' ↔ a = a' := by
  simp [pure, Except.pure]

theorem pure_ne_error : (pure a : Except ε α) ≠ .error e := by
  simp [pure, Except.pure]

theorem throw_eq_error : (throw e : Except ε α) = .error e' ↔ e = e' := by
  simp [throw, throwThe, MonadExceptOf.throw]

theorem map_eq_ok {g : α → β} : g <$> x = .ok b ↔ ∃ a, x = .ok a ∧ b = g a := by
  cases x <;> simp [Functor.map, Except.map, eq_comm]

theorem map_eq_error {g : α → β} : g <$> x = .error e ↔ x = .error e := by
  cases x <;> simp [Functor.map, Except.map]

theorem throw_bind : (throw e : Except ε α) >>= f = .error e := rfl

theorem exists_eq_ok_iff : (∃ a, x = .ok a) ↔ ∀ e, x ≠ .error e := by
  cases x <;> simp

/-- What a successful step keeps of a run after each of its entries, a successful run keeps. -/
theorem foldlM_keeps_after {I : List α → β → Prop} {step : β → α → Except ε β}
    (hstep : ∀ before b a b', I before b → step b a = .ok b' → I (before ++ [a]) b')
    {xs : List α} {b b' : β} (hb : I [] b) (h : xs.foldlM step b = .ok b') : I xs b' := by
  induction xs using List.reverseRecOn generalizing b' with
  | nil =>
    obtain rfl := pure_eq_ok.1 h
    exact hb
  | append_singleton xs x ih =>
    rw [List.foldlM_append] at h
    obtain ⟨c, hc, h⟩ := bind_eq_ok.1 h
    exact hstep xs c x b' (ih hc) (by simpa using h)

theorem foldlM_keeps {P : β → Prop} {step : β → α → Except ε β}
    (hstep : ∀ b a b', P b → step b a = .ok b' → P b') {xs : List α} {b b' : β} (hb : P b)
    (h : xs.foldlM step b = .ok b') : P b' :=
  foldlM_keeps_after (I := fun _ b => P b) (fun _ b a b' => hstep b a b') hb h

theorem mapM_eq_ok_iff {xs : List α} {ys : List β} :
    xs.mapM f = .ok ys ↔ List.Forall₂ (fun x y => f x = .ok y) xs ys := by
  induction xs generalizing ys with
  | nil => rw [List.mapM_nil, pure_eq_ok, List.forall₂_nil_left_iff, eq_comm]
  | cons x xs ih =>
    simp only [List.mapM_cons, bind_eq_ok, pure_eq_ok, List.forall₂_cons_left_iff, ih]
    constructor
    · rintro ⟨y, hy, ys, hys, rfl⟩
      exact ⟨y, ys, hy, hys, rfl⟩
    · rintro ⟨y, ys, hy, hys, rfl⟩
      exact ⟨y, hy, ys, hys, rfl⟩

end Except

section Forall₂

variable {α β : Type} {R : α → β → Prop} {xs xs' : List α} {ys zs : List β}

theorem exists_mem_of_forall₂ (h : List.Forall₂ R xs ys) {y : β} (hy : y ∈ ys) :
    ∃ x ∈ xs, R x y := by
  induction h with
  | nil => cases hy
  | cons hxy _ ih =>
    rcases List.mem_cons.1 hy with rfl | hy
    · exact ⟨_, List.mem_cons_self, hxy⟩
    · obtain ⟨x, hx, hxy⟩ := ih hy
      exact ⟨x, List.mem_cons_of_mem _ hx, hxy⟩

/-- Where every entry determines its partner, more entries add their partners behind. -/
theorem exists_append_of_forall₂ (hR : Relator.RightUnique R) (h : List.Forall₂ R xs ys)
    (h' : List.Forall₂ R (xs ++ xs') zs) : ∃ ys', zs = ys ++ ys' ∧ List.Forall₂ R xs' ys' := by
  induction h generalizing zs with
  | nil => exact ⟨zs, rfl, h'⟩
  | cons hxy _ ih =>
    obtain ⟨z, zs, hz, hzs, rfl⟩ := List.forall₂_cons_left_iff.1 h'
    obtain ⟨ys', rfl, hys'⟩ := ih hzs
    exact ⟨ys', by rw [hR hxy hz, List.cons_append], hys'⟩

end Forall₂

section EachAfter

variable {α : Type} {xs before after : List α} {x y : α}

theorem append_singleton_eq_append_cons_iff :
    xs ++ [x] = before ++ y :: after ↔
      (xs = before ∧ x = y ∧ after = []) ∨
        ∃ rest, after = rest ++ [x] ∧ xs = before ++ y :: rest := by
  constructor
  · intro h
    rcases List.eq_nil_or_concat after with rfl | ⟨rest, z, rfl⟩
    · obtain ⟨hxs, hx⟩ := List.append_inj' h rfl
      exact .inl ⟨hxs, by simpa using hx, rfl⟩
    · have h' : xs ++ [x] = (before ++ y :: rest) ++ [z] := by simpa using h
      obtain ⟨hxs, hx⟩ := List.append_inj' h' rfl
      obtain rfl : x = z := by simpa using hx
      exact .inr ⟨rest, by simp, hxs⟩
  · rintro (⟨rfl, rfl, rfl⟩ | ⟨rest, rfl, rfl⟩)
    · rfl
    · simp

/-- Every entry is good after the entries before it. -/
def EachAfter (Good : List α → α → Prop) (xs : List α) : Prop :=
  ∀ before x after, xs = before ++ x :: after → Good before x

variable {P Q : List α → α → Prop}

namespace EachAfter

theorem nil : EachAfter P [] := by
  intro before x after h
  simp at h

theorem append_singleton_iff : EachAfter P (xs ++ [x]) ↔ EachAfter P xs ∧ P xs x := by
  simp only [EachAfter, append_singleton_eq_append_cons_iff]
  constructor
  · intro h
    exact ⟨fun before y after hxs => h before y _ (.inr ⟨after, rfl, hxs⟩),
      h xs x [] (.inl ⟨rfl, rfl, rfl⟩)⟩
  · rintro ⟨hxs, hx⟩ before y after (⟨rfl, rfl, -⟩ | ⟨rest, -, h⟩)
    · exact hx
    · exact hxs before y rest h

theorem congr (h : ∀ before x, P before x ↔ Q before x) : EachAfter P xs ↔ EachAfter Q xs := by
  simp only [EachAfter, h]

theorem and_iff :
    EachAfter (fun before x => P before x ∧ Q before x) xs ↔ EachAfter P xs ∧ EachAfter Q xs := by
  simp only [EachAfter, imp_and, forall_and]

theorem const_iff {P : α → Prop} : EachAfter (fun _ x => P x) xs ↔ ∀ x ∈ xs, P x := by
  constructor
  · intro h x hx
    obtain ⟨before, after, rfl⟩ := List.append_of_mem hx
    exact h before x after rfl
  · rintro h before x after rfl
    exact h x (by simp)

/-- What the entries bring is all distinct if none brings anything twice or again. -/
theorem nodup_flatMap_iff {β : Type} {f : α → List β} (start : List β) (xs : List α) :
    (start ++ xs.flatMap f).Nodup ↔ start.Nodup ∧
      EachAfter (fun before x => (f x).Nodup ∧ ∀ b ∈ f x, b ∉ start ++ before.flatMap f) xs := by
  induction xs using List.reverseRecOn with
  | nil => simp [nil]
  | append_singleton xs x ih =>
    rw [append_singleton_iff, ← and_assoc, ← ih, List.flatMap_append, List.flatMap_singleton,
      ← List.append_assoc, List.nodup_append]
    refine and_congr_right fun _ => and_congr_right fun _ => ?_
    exact ⟨fun h b hb hstart => h b hstart b hb rfl,
      fun h a ha b hb hab => h b hb (hab ▸ ha)⟩

end EachAfter

end EachAfter

section FirstFault

variable {α β ε : Type}

def Faultless (Fault : List α → α → ε → Prop) (xs : List α) : Prop :=
  EachAfter (fun before x => ∀ e, ¬ Fault before x e) xs

/-- `e` is what is wrong with the first bad entry. A fault may depend on the entries before. -/
def FirstFault (Fault : List α → α → ε → Prop) (xs : List α) (e : ε) : Prop :=
  ∃ before x after, xs = before ++ x :: after ∧ Faultless Fault before ∧ Fault before x e

variable {Fault : List α → α → ε → Prop} {xs : List α} {x : α} {e : ε}

theorem faultless_append_singleton_iff :
    Faultless Fault (xs ++ [x]) ↔ Faultless Fault xs ∧ ∀ e, ¬ Fault xs x e :=
  EachAfter.append_singleton_iff

theorem firstFault_append_singleton_iff :
    FirstFault Fault (xs ++ [x]) e ↔
      FirstFault Fault xs e ∨ Faultless Fault xs ∧ Fault xs x e := by
  simp only [FirstFault, append_singleton_eq_append_cons_iff]
  constructor
  · rintro ⟨before, y, after, ⟨rfl, rfl, -⟩ | ⟨rest, -, h⟩, hbefore, hy⟩
    · exact .inr ⟨hbefore, hy⟩
    · exact .inl ⟨before, y, rest, h, hbefore, hy⟩
  · rintro (⟨before, y, rest, h, hbefore, hy⟩ | ⟨hxs, hx⟩)
    · exact ⟨before, y, _, .inr ⟨rest, rfl, h⟩, hbefore, hy⟩
    · exact ⟨xs, x, [], .inl ⟨rfl, rfl, rfl⟩, hxs, hx⟩

theorem not_firstFault_nil : ¬ FirstFault Fault [] e := by
  simp [FirstFault]

theorem faultless_iff : Faultless Fault xs ↔ ∀ e, ¬ FirstFault Fault xs e := by
  induction xs using List.reverseRecOn with
  | nil => exact iff_of_true EachAfter.nil fun _ => not_firstFault_nil
  | append_singleton xs x ih =>
    simp only [firstFault_append_singleton_iff, faultless_append_singleton_iff, not_or,
      forall_and, ← ih]
    exact and_congr_right fun hxs => ⟨fun hx e h => hx e h.2, fun hx e h => hx e ⟨hxs, h⟩⟩

/-- Nothing is wrong first with the entries and then with the rest. -/
theorem forall_not_firstFault_or_iff {Rest : ε → Prop} :
    (∀ e, ¬ (FirstFault Fault xs e ∨ Faultless Fault xs ∧ Rest e)) ↔
      Faultless Fault xs ∧ ∀ e, ¬ Rest e := by
  simp only [not_or, forall_and, ← faultless_iff]
  exact and_congr_right fun hxs => ⟨fun h e hrest => h e ⟨hxs, hrest⟩, fun h e hrest => h e hrest.2⟩

/-- What follows a check counts only where the check finds nothing. -/
theorem bind_eq_error_of_firstFault {c : Except ε β} {f : β → Except ε β} {Rest : Prop}
    (hc : ∀ e, c = .error e ↔ FirstFault Fault xs e)
    (hrest : ∀ b, c = .ok b → (f b = .error e ↔ Rest)) :
    c >>= f = .error e ↔ FirstFault Fault xs e ∨ Faultless Fault xs ∧ Rest := by
  have hok : (∃ b, c = .ok b) ↔ Faultless Fault xs := by
    rw [exists_eq_ok_iff, faultless_iff]
    exact forall_congr' fun e => not_congr (hc e)
  rw [bind_eq_error, hc, ← hok]
  refine or_congr_right ⟨?_, ?_⟩
  · rintro ⟨b, hb, h⟩
    exact ⟨⟨b, hb⟩, (hrest b hb).1 h⟩
  · rintro ⟨⟨b, hb⟩, h⟩
    exact ⟨b, hb, (hrest b hb).2 h⟩

variable {I : List α → β → Prop} {step : β → α → Except ε β} {b : β}

/-- A run that checks entry by entry, against what it has built from the entries before, ends at
the first fault. -/
theorem foldlM_firstFault
    (hkeep : ∀ before b x b', I before b → step b x = .ok b' → I (before ++ [x]) b')
    (hfault : ∀ before b x e, I before b → (step b x = .error e ↔ Fault before x e))
    (hb : I [] b) (xs : List α) :
    (∀ b', xs.foldlM step b = .ok b' → I xs b') ∧
      ∀ e, xs.foldlM step b = .error e ↔ FirstFault Fault xs e := by
  refine ⟨fun b' => foldlM_keeps_after hkeep hb, ?_⟩
  -- From the end of the list: the last entry is the one that all others stand before.
  induction xs using List.reverseRecOn with
  | nil => exact fun e => iff_of_false (by simp [pure_ne_error]) not_firstFault_nil
  | append_singleton xs x ih =>
    intro e
    have hfold : (xs ++ [x]).foldlM step b = xs.foldlM step b >>= (step · x) := by
      simp [List.foldlM_append]
    rw [hfold, firstFault_append_singleton_iff]
    exact bind_eq_error_of_firstFault ih fun c hc =>
      hfault xs c x e (foldlM_keeps_after hkeep hb hc)

/-- Reading a list ends at the first entry that cannot be read. -/
theorem mapM_eq_error_iff {f : α → Except ε β} :
    xs.mapM f = .error e ↔ FirstFault (fun _ x e => f x = .error e) xs e := by
  induction xs using List.reverseRecOn generalizing e with
  | nil => exact iff_of_false pure_ne_error not_firstFault_nil
  | append_singleton xs x ih =>
    rw [List.mapM_append, firstFault_append_singleton_iff]
    exact bind_eq_error_of_firstFault (fun e => ih) fun ys _ => by simp [map_eq_error]

theorem eq_nil_iff_of_mapM {f : α → Except ε β} {ys : List β} (h : xs.mapM f = .ok ys) :
    ys = [] ↔ xs = [] := by
  have hlen := (mapM_eq_ok_iff.1 h).length_eq
  rw [← List.length_eq_zero_iff, ← hlen, List.length_eq_zero_iff]

end FirstFault

end SearchBox
