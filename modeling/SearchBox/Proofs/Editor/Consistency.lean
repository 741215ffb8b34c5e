import SearchBox.Editor.Basic

namespace SearchBox

namespace Advice

theorem lt_length_of_pending {pending : Option Nat} {completions : List Completion} {i : Nat}
    (h : (Advice.of pending completions).pending = some i) : i < completions.length := by
  cases completions with
  | nil => simp [Advice.of] at h
  | cons c completions =>
    obtain ⟨j, -, hi⟩ : ∃ j, pending = some j ∧ min j completions.length = i := by
      simpa [Advice.of] using h
    rw [List.length_cons]
    omega

theorem selected?_eq_some {a : Advice} {i : Nat} (hi : a.pending = some i)
    (h : i < a.completions.length) : a.selected? = some a.completions[i] := by
  rw [selected?, hi, Option.bind_some, List.getElem?_eq_getElem h]

end Advice

/-- Every committed predicate was once written as a literal. -/
def EditorInput.Compiled (g : Grammar) (i : EditorInput) : Prop :=
  ∀ p ∈ i.committed, ∃ literal, g.compile literal = .ok p

namespace EditorInput.Compiled

variable {g : Grammar} {i : EditorInput} (hi : i.Compiled g)

include hi

theorem setText (text : String) : (i.setText text).Compiled g := hi

theorem commit {literal : String} {p : Predicate} (h : g.compile literal = .ok p) :
    (i.commit p).Compiled g := by
  intro q hq
  rcases List.mem_append.1 hq with hq | hq
  · exact hi q hq
  · obtain rfl := List.mem_singleton.1 hq
    exact ⟨literal, h⟩

theorem reopen : i.reopen.Compiled g := by
  unfold EditorInput.reopen
  cases i.committed.getLast? with
  | none => simp [EditorInput.Compiled]
  | some p => exact fun q hq => hi q (List.dropLast_subset _ hq)

end EditorInput.Compiled

namespace Editor

/-- All that an event can do to the editor. -/
inductive Transition (g : Grammar) (e : Editor) : Editor → Prop
  | stay : Transition g e e
  | select (m : Move) : Transition g e (e.select m)
  | refuse {error : LiteralError} (h : g.compile e.input.text = .error error) :
      Transition g e { e with error := some error }
  | write (text : String) : Transition g e (e.record g (e.input.setText text))
  | commit {p : Predicate} (h : g.compile e.input.text = .ok p) :
      Transition g e (e.record g (e.input.commit p))
  | reopen : Transition g e (e.record g e.input.reopen)
  | undo {input : EditorInput} {past : List EditorInput} (h : e.past = input :: past) :
      Transition g e (visit g past (e.input :: e.future) input)
  | redo {input : EditorInput} {future : List EditorInput} (h : e.future = input :: future) :
      Transition g e (visit g (e.input :: e.past) future input)

variable {g : Grammar}

theorem transition_enter (e : Editor) : Transition g e (e.enter g) := by
  unfold enter
  cases h : g.compile e.input.text with
  | error error => exact .refuse h
  | ok p => exact .commit h

theorem transition_undo (e : Editor) : Transition g e (e.undo g) := by
  unfold undo
  cases h : e.past with
  | nil => exact .stay
  | cons input past => exact .undo h

theorem transition_redo (e : Editor) : Transition g e (e.redo g) := by
  unfold redo
  cases h : e.future with
  | nil => exact .stay
  | cons input future => exact .redo h

theorem transition_press (e : Editor) (k : Key) : Transition g e (e.press g k) := by
  cases k with
  | tab =>
    rw [press]
    split
    · exact .stay
    · exact .write _
  | enter => exact transition_enter e
  | up => exact .select .up
  | down => exact .select .down
  | esc => exact .select .clear
  | undo => exact transition_undo e
  | redo => exact transition_redo e
  | backspace =>
    rw [press]
    split
    · exact .reopen
    · exact .stay

theorem transition_apply (e : Editor) (event : EditorEvent) :
    Transition g e (e.apply g event) := by
  cases event with
  | change text => exact .write text
  | key k => exact transition_press e k
  | pick index =>
    rw [apply]
    split
    · exact .write _
    · exact .stay

/-- The advice fits the text, the selection is one of its completions, an error is what the
compiler says of the text, and whatever was committed once compiled. -/
structure Consistent (g : Grammar) (e : Editor) : Prop where
  completions_eq : e.advice.completions = g.suggest e.input.text
  pending_lt : ∀ i, e.advice.pending = some i → i < e.advice.completions.length
  compile_eq : ∀ error, e.error = some error → g.compile e.input.text = .error error
  compiled : ∀ i ∈ e.timeline, i.Compiled g

theorem mem_timeline {e : Editor} {i : EditorInput} :
    i ∈ e.timeline ↔ i = e.input ∨ i ∈ e.past ∨ i ∈ e.future := by
  simp only [timeline, List.mem_append, List.mem_reverse, List.mem_cons]
  exact or_left_comm

/-- Arriving at an input leaves nothing behind but the history. -/
theorem consistent_visit {past future : List EditorInput} {input : EditorInput}
    (h : ∀ i ∈ (visit g past future input).timeline, i.Compiled g) :
    (visit g past future input).Consistent g where
  completions_eq := rfl
  pending_lt := fun _ hi => Advice.lt_length_of_pending hi
  compile_eq := fun _ herror => nomatch herror
  compiled := h

namespace Consistent

variable {e : Editor} (he : e.Consistent g)

include he

theorem select (m : Move) : (e.select m).Consistent g :=
  { he with pending_lt := fun _ hi => Advice.lt_length_of_pending hi }

theorem refuse {error : LiteralError} (h : g.compile e.input.text = .error error) :
    ({ e with error := some error } : Editor).Consistent g :=
  { he with compile_eq := fun _ herror => Option.some.inj herror ▸ h }

theorem record {input : EditorInput} (h : input.Compiled g) :
    (e.record g input).Consistent g := by
  apply consistent_visit
  intro i hi
  rw [mem_timeline] at hi
  rcases hi with rfl | hpast | hfuture
  · exact h
  · apply he.compiled
    rw [mem_timeline]
    rcases List.mem_cons.1 hpast with rfl | hpast
    · exact .inl rfl
    · exact .inr (.inl hpast)
  · cases hfuture

/-- Going back or forth keeps the timeline. -/
theorem visit_of_timeline_eq {past future : List EditorInput} {input : EditorInput}
    (h : (visit g past future input).timeline = e.timeline) :
    (visit g past future input).Consistent g :=
  consistent_visit fun i hi => he.compiled i (h ▸ hi)

theorem of_transition {e' : Editor} (h : Transition g e e') : e'.Consistent g := by
  have hinput : e.input.Compiled g := he.compiled _ (mem_timeline.2 (.inl rfl))
  cases h with
  | stay => exact he
  | select m => exact he.select m
  | refuse h => exact he.refuse h
  | write text => exact he.record (hinput.setText text)
  | commit h => exact he.record (hinput.commit h)
  | reopen => exact he.record hinput.reopen
  | undo h => exact he.visit_of_timeline_eq (by simp [timeline, visit, h])
  | redo h => exact he.visit_of_timeline_eq (by simp [timeline, visit, h])

theorem selected?_isSome : e.advice.selected?.isSome = e.advice.pending.isSome := by
  cases hi : e.advice.pending with
  | none =>
    rw [Advice.selected?, hi]
    rfl
  | some i =>
    rw [Advice.selected?_eq_some hi (he.pending_lt i hi)]
    rfl

end Consistent

theorem consistent_start (g : Grammar) : (start g).Consistent g :=
  consistent_visit (by simp [timeline, visit, EditorInput.Compiled])

theorem consistent_foldl {e : Editor} (he : e.Consistent g) (events : List EditorEvent) :
    (events.foldl (apply g) e).Consistent g := by
  induction events generalizing e with
  | nil => exact he
  | cons event events ih => exact ih (he.of_transition (transition_apply e event))

/-- Whatever happens to an editor, it stays consistent, and what it has selected can be looked
up. -/
theorem consistent_run (g : Grammar) (events : List EditorEvent) :
    (run g events).Consistent g ∧
      (run g events).advice.selected?.isSome = (run g events).advice.pending.isSome := by
  have h := consistent_foldl (consistent_start g) events
  exact ⟨h, h.selected?_isSome⟩

end Editor

end SearchBox
