import SearchBox.Proofs.Token.Remaining
import SearchBox.Token.CursorStep

namespace SearchBox

namespace Cursor

variable {c : Cursor}

/-- Saved places never lie ahead of newer ones, nor the newest ahead of the pointer, and the
pointer stays within the tokens. -/
structure Ordered (c : Cursor) : Prop where
  descends : (c.pointer :: c.saved).Pairwise (· ≥ ·)
  pointer_le : c.pointer ≤ c.tokens.length

theorem Ordered.length_remaining (h : c.Ordered) :
    c.pointer + c.remaining.length = c.tokens.length := by
  have hle := h.pointer_le
  rw [remaining, List.length_drop]
  omega

theorem ordered_start (tokens : List Token) (endsBlank : Bool) :
    Ordered { tokens, endsBlank } :=
  ⟨List.pairwise_singleton _ _, Nat.zero_le _⟩

/-- What holds of a cursor however it is moved. -/
structure Kept (P : Cursor → Prop) : Prop where
  next : ∀ c, P c → P c.next.2
  save : ∀ c, P c → P c.save
  undo : ∀ c, P c → P c.undo
  commit : ∀ c, P c → P c.commit

theorem kept_ordered : Kept Ordered where
  next c h := by
    cases hpeek : c.peek with
    | none => simpa only [next, hpeek] using h
    | some t =>
      have hlt : c.pointer < c.tokens.length := (List.getElem?_eq_some_iff.1 hpeek).1
      obtain ⟨hnewest, hsaved⟩ := List.pairwise_cons.1 h.descends
      simp only [next, hpeek]
      exact ⟨List.pairwise_cons.2 ⟨fun n hn => Nat.le_succ_of_le (hnewest n hn), hsaved⟩, hlt⟩
  save c h := by
    obtain ⟨hnewest, -⟩ := List.pairwise_cons.1 h.descends
    refine ⟨List.pairwise_cons.2 ⟨?_, h.descends⟩, h.pointer_le⟩
    exact List.forall_mem_cons.2 ⟨Nat.le_refl _, hnewest⟩
  undo c h := by
    cases hsaved : c.saved with
    | nil => simpa only [undo, hsaved] using h
    | cons place saved =>
      obtain ⟨hnewest, hdescends⟩ := List.pairwise_cons.1 (hsaved ▸ h.descends)
      have hback : place ≤ c.pointer := hnewest place List.mem_cons_self
      simp only [undo, hsaved]
      exact ⟨hdescends, Nat.le_trans hback h.pointer_le⟩
  commit c h :=
    ⟨h.descends.sublist ((List.tail_sublist _).cons_cons _), h.pointer_le⟩

theorem kept_text (tokens : List Token) (endsBlank : Bool) :
    Kept fun c => c.tokens = tokens ∧ c.endsBlank = endsBlank where
  next c h := by
    unfold next
    split <;> exact h
  save _ h := h
  undo c h := by
    unfold undo
    split <;> exact h
  commit _ h := h

end Cursor

namespace CursorStep

open Cursor (Kept Ordered)

section Kept

variable {P : Cursor → Prop}

mutual

theorem run_of_kept (hP : Kept P) : ∀ step c, P c → P (run step c).2
  | next, c, h => hP.next c h
  | peek, _, h => h
  | save, c, h => hP.save c h
  | undo, c, h => hP.undo c h
  | commit, c, h => hP.commit c h
  | remaining, _, h => h
  | tokens, _, h => h
  | checkpoint body true, c, h =>
    hP.commit _ (runAll_of_kept hP body c.save (hP.save c h))
  | checkpoint body false, c, h =>
    hP.undo _ (runAll_of_kept hP body c.save (hP.save c h))

theorem runAll_of_kept (hP : Kept P) : ∀ steps c, P c → P (runAll steps c).2
  | [], _, h => h
  | step :: steps, c, h => runAll_of_kept hP steps (run step c).2 (run_of_kept hP step c h)

end

end Kept

/-- The cursors that a run comes by, before, between and after its steps and those of its
checkpoints. -/
inductive Passes : List CursorStep → Cursor → Cursor → Prop
  | here (steps : List CursorStep) (c : Cursor) : Passes steps c c
  | after {step : CursorStep} {steps : List CursorStep} {c d : Cursor}
      (h : Passes steps (run step c).2 d) : Passes (step :: steps) c d
  | inside {body : List CursorStep} {keep : Bool} {steps : List CursorStep} {c d : Cursor}
      (h : Passes body c.save d) : Passes (.checkpoint body keep :: steps) c d

/-- Where the run ends is one of them. -/
theorem passes_runAll (steps : List CursorStep) (c : Cursor) :
    Passes steps c (runAll steps c).2 := by
  induction steps generalizing c with
  | nil => exact .here [] c
  | cons step steps ih => exact .after (ih (run step c).2)

theorem Passes.of_kept {P : Cursor → Prop} (hP : Kept P) {steps : List CursorStep}
    {c d : Cursor} (h : Passes steps c d) (hc : P c) : P d := by
  induction h with
  | here => exact hc
  | @after step _ c _ _ ih => exact ih (run_of_kept hP step c hc)
  | @inside _ _ _ c _ _ ih => exact ih (hP.save c hc)

/-- With `n` saves open before the steps, every undo and every commit closes an open one, and none
is open after the steps. The bodies of checkpoints are balanced in themselves. -/
inductive Balanced : Nat → List CursorStep → Prop
  | nil : Balanced 0 []
  | next {n : Nat} {steps : List CursorStep} (h : Balanced n steps) : Balanced n (.next :: steps)
  | peek {n : Nat} {steps : List CursorStep} (h : Balanced n steps) : Balanced n (.peek :: steps)
  | remaining {n : Nat} {steps : List CursorStep} (h : Balanced n steps) :
      Balanced n (.remaining :: steps)
  | tokens {n : Nat} {steps : List CursorStep} (h : Balanced n steps) :
      Balanced n (.tokens :: steps)
  | save {n : Nat} {steps : List CursorStep} (h : Balanced (n + 1) steps) :
      Balanced n (.save :: steps)
  | undo {n : Nat} {steps : List CursorStep} (h : Balanced n steps) :
      Balanced (n + 1) (.undo :: steps)
  | commit {n : Nat} {steps : List CursorStep} (h : Balanced n steps) :
      Balanced (n + 1) (.commit :: steps)
  | checkpoint {n : Nat} {body steps : List CursorStep} (keep : Bool) (hbody : Balanced 0 body)
      (h : Balanced n steps) : Balanced n (.checkpoint body keep :: steps)

/-- Balanced steps use up the saves that were open, and leave alone what was saved below them. -/
theorem Balanced.saved_runAll {n : Nat} {steps : List CursorStep} (h : Balanced n steps)
    (c : Cursor) {opened below : List Nat} (hsaved : c.saved = opened ++ below)
    (hn : opened.length = n) : (runAll steps c).2.saved = below := by
  induction h generalizing c opened below with
  | nil =>
    obtain rfl := List.length_eq_zero_iff.1 hn
    exact hsaved
  | next _ ih => exact ih c.next.2 ((Cursor.saved_next c).trans hsaved) hn
  | peek _ ih => exact ih c hsaved hn
  | remaining _ ih => exact ih c hsaved hn
  | tokens _ ih => exact ih c hsaved hn
  | save _ ih =>
    have hpushed : c.save.saved = (c.pointer :: opened) ++ below := congrArg (c.pointer :: ·) hsaved
    exact ih c.save hpushed (congrArg (· + 1) hn)
  | undo _ ih =>
    obtain ⟨place, opened, rfl⟩ := List.exists_cons_of_length_eq_add_one hn
    have hpopped : c.undo.saved = opened ++ below := by
      simp only [Cursor.undo, hsaved, List.cons_append]
    exact ih c.undo hpopped (Nat.succ.inj hn)
  | commit _ ih =>
    obtain ⟨place, opened, rfl⟩ := List.exists_cons_of_length_eq_add_one hn
    have hpopped : c.commit.saved = opened ++ below := by
      simp only [Cursor.commit, hsaved, List.cons_append, List.tail_cons]
    exact ih c.commit hpopped (Nat.succ.inj hn)
  | @checkpoint _ body steps keep _ _ ihbody ih =>
    have hbody : (runAll body c.save).2.saved = c.pointer :: c.saved :=
      ihbody c.save (List.nil_append _).symm rfl
    refine ih (run (.checkpoint body keep) c).2 ?_ hn
    -- Either way the place that the checkpoint saved itself is taken off.
    cases keep with
    | true => simpa only [run, if_true, Cursor.commit, hbody, List.tail_cons] using hsaved
    | false => simpa [run, Cursor.undo, hbody] using hsaved

/-- A balanced body moves the pointer and changes nothing else. -/
theorem Balanced.runAll_save {body : List CursorStep} (h : Balanced 0 body) (c : Cursor) :
    (runAll body c.save).2 = { c.save with pointer := (runAll body c.save).2.pointer } := by
  have hsaved : (runAll body c.save).2.saved = c.save.saved :=
    h.saved_runAll c.save (List.nil_append _).symm rfl
  obtain ⟨htokens, hblank⟩ :=
    runAll_of_kept (Cursor.kept_text c.tokens c.endsBlank) body c.save ⟨rfl, rfl⟩
  generalize (runAll body c.save).2 = reached at hsaved htokens hblank
  obtain ⟨tokens, pointer, saved, endsBlank⟩ := reached
  simp only at hsaved htokens hblank
  rw [hsaved, htokens, hblank]
  rfl

/-- A run never leaves the tokens or loses the order of its saved places, balanced or not. A
checkpoint around a balanced body takes back the pointer, or keeps it, and either way the places
saved before are as they were. -/
theorem backtracking (tokens : List Token) (endsBlank : Bool) :
    (∀ steps c, Passes steps { tokens, endsBlank } c →
      c.tokens = tokens ∧ c.Ordered ∧ c.pointer + c.remaining.length = tokens.length) ∧
    ∀ body, Balanced 0 body → ∀ c : Cursor,
      (run (.checkpoint body false) c).2 = c ∧
      (run (.checkpoint body true) c).2 = { c with pointer := (runAll body c.save).2.pointer } := by
  refine ⟨fun steps c hpasses => ?_, fun body hbody c => ?_⟩
  · have hordered : c.Ordered :=
      hpasses.of_kept Cursor.kept_ordered (Cursor.ordered_start tokens endsBlank)
    obtain ⟨htokens, -⟩ := hpasses.of_kept (Cursor.kept_text tokens endsBlank) ⟨rfl, rfl⟩
    exact ⟨htokens, hordered, htokens ▸ hordered.length_remaining⟩
  · have hreached := hbody.runAll_save c
    constructor
    · change (runAll body c.save).2.undo = c
      rw [hreached]
      rfl
    · change (runAll body c.save).2.commit = _
      rw [hreached]
      rfl

/-- On the way through unbalanced steps, in front of a block that saves, nests and undoes. -/
theorem backtracking_nested :
    ∃ tokens body c, Balanced 0 body ∧
      Passes [.undo, .save, .next, .save, .checkpoint body true, .commit, .commit, .commit]
        { tokens } c ∧
      c.saved = [1, 0] ∧ c.Ordered ∧ c.remaining.map Token.lexeme = ["b", "c"] ∧
      (run (.checkpoint body false) c).2 = c ∧
      (run (.checkpoint body true) c).2 = { c with pointer := 2 } := by
  let tokens : List Token := [⟨.word, "a", 0⟩, ⟨.word, "b", 2⟩, ⟨.word, "c", 4⟩]
  let body : List CursorStep := [.save, .next, .checkpoint [.next, .next] false, .undo, .next]
  let c : Cursor := { tokens, pointer := 1, saved := [1, 0] }
  have hbody : Balanced 0 body :=
    .save (.next (.checkpoint false (.next (.next .nil)) (.undo (.next .nil))))
  have hpasses : Passes [.undo, .save, .next, .save, .checkpoint body true, .commit, .commit,
      .commit] { tokens } c := .after (.after (.after (.after (.here _ c))))
  obtain ⟨hrun, hblock⟩ := backtracking tokens false
  obtain ⟨hdrop, hkeep⟩ := hblock body hbody c
  exact ⟨tokens, body, c, hbody, hpasses, rfl, (hrun _ c hpasses).2.1, rfl, hdrop, hkeep⟩

end CursorStep

end SearchBox
