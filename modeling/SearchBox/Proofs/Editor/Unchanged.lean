import SearchBox.Proofs.Editor.Timeline

namespace SearchBox

namespace EditorInput

variable {i j : EditorInput}

theorem text_eq_of_beq (h : (i == j) = true) : i.text = j.text :=
  eq_of_beq (Bool.and_eq_true_iff.1 h).1

theorem length_committed_of_beq (h : (i == j) = true) :
    i.committed.length = j.committed.length :=
  List.length_eq_of_beq (Bool.and_eq_true_iff.1 h).2

theorem length_committed_commit (i : EditorInput) (p : Predicate) :
    (i.commit p).committed.length = i.committed.length + 1 := by
  simp [commit]

theorem length_committed_reopen (h : i.committed ≠ []) :
    i.reopen.committed.length + 1 = i.committed.length := by
  have hlength : 0 < i.committed.length := List.length_pos_iff.2 h
  rw [reopen, List.getLast?_eq_some_getLast h]
  simp only [List.length_dropLast]
  omega

end EditorInput

namespace Editor

variable {g : Grammar} {e : Editor} {event : EditorEvent}

/-- The events that write the text that is there already. -/
inductive Restates (e : Editor) : EditorEvent → Prop
  | change : Restates e (.change e.input.text)
  | pick {index : Nat} {c : Completion} (h : e.advice.completions[index]? = some c)
      (htext : c.plain = e.input.text) : Restates e (.pick index)

/-- A deletion where there is nothing left to delete. -/
def DeletesNothing (e : Editor) (event : EditorEvent) : Prop :=
  event = .key .backspace ∧ e.input.text = "" ∧ e.input.committed = []

/-- Restating is not told from writing: the input is recorded and what was undone is lost. -/
theorem history_apply_of_restates (h : Restates e event) :
    (e.apply g event).history = (e.input :: e.past, e.input, []) := by
  cases h with
  | change => rfl
  | pick h htext =>
    rw [apply_of_writes (.pick h), htext]
    rfl

/-- Every other write changes the text or how many predicates are committed. -/
theorem restates_of_writes {input : EditorInput} (h : Writes g e event input)
    (hdeletes : ¬ DeletesNothing e event) (hsame : (input == e.input) = true) :
    Restates e event := by
  have htext := EditorInput.text_eq_of_beq hsame
  have hlength := EditorInput.length_committed_of_beq hsame
  cases h with
  | change text =>
    obtain rfl : text = e.input.text := htext
    exact .change
  | pick h => exact .pick h htext
  | tab h =>
    have hadded : e.input.text ++ e.ghost = e.input.text := htext
    exact absurd (by simpa using hadded) h
  | enter h =>
    rw [EditorInput.length_committed_commit] at hlength
    omega
  | backspace h =>
    have hcommitted : e.input.committed ≠ [] := fun hnone => hdeletes ⟨rfl, h, hnone⟩
    have hless := EditorInput.length_committed_reopen hcommitted
    omega

theorem history_apply_of_input_beq (htravels : ¬ Travels event)
    (hdeletes : ¬ DeletesNothing e event) (hrestates : ¬ Restates e event)
    (h : ((e.apply g event).input == e.input) = true) :
    (e.apply g event).history = e.history := by
  by_cases hidle : Idle g e event
  · exact history_apply_of_idle hidle
  · obtain ⟨input, hwrites⟩ := exists_writes htravels hidle
    rw [apply_of_writes hwrites] at h
    exact absurd (restates_of_writes hwrites hdeletes h) hrestates

/-- An event that leaves the input as it was leaves past and future alone, unless it writes the text
that is there already, which is recorded like any other change, or finds nothing to delete. -/
theorem history_of_unchanged_input (g : Grammar) (e : Editor) :
    (∀ event, ¬ Travels event → ¬ DeletesNothing e event → ¬ Restates e event →
      ((e.apply g event).input == e.input) = true →
      (e.apply g event).past = e.past ∧ (e.apply g event).future = e.future) ∧
    ∀ event, Restates e event →
      (e.apply g event).input = e.input ∧ (e.apply g event).past = e.input :: e.past ∧
        (e.apply g event).future = [] := by
  constructor
  · intro event htravels hdeletes hrestates hsame
    have hhistory := history_apply_of_input_beq htravels hdeletes hrestates hsame
    simp only [history, Prod.mk.injEq] at hhistory
    obtain ⟨hpast, -, hfuture⟩ := hhistory
    exact ⟨hpast, hfuture⟩
  · intro event h
    have hhistory := history_apply_of_restates (g := g) h
    simp only [history, Prod.mk.injEq] at hhistory
    obtain ⟨hpast, hinput, hfuture⟩ := hhistory
    exact ⟨hinput, hpast, hfuture⟩

theorem history_of_unchanged_input_reminder :
    let e := run reminderGrammar [.change "due", .change "x", .key .undo]
    (¬ Travels (.key .enter) ∧ ¬ DeletesNothing e (.key .enter) ∧ ¬ Restates e (.key .enter) ∧
      ((e.apply reminderGrammar (.key .enter)).input == e.input) = true) ∧
    ((e.apply reminderGrammar (.key .enter)).past = e.past ∧
      (e.apply reminderGrammar (.key .enter)).future = e.future) ∧
    Restates e (.change "due") ∧ (e.apply reminderGrammar (.change "due")).future = [] := by
  intro e
  have htravels : ¬ Travels (.key .enter) := by rintro ⟨⟩
  have hdeletes : ¬ DeletesNothing e (.key .enter) := fun h => absurd h.1 (by decide)
  have hrestates : ¬ Restates e (.key .enter) := by rintro ⟨⟩
  have hsame : ((e.apply reminderGrammar (.key .enter)).input == e.input) = true := by decide
  have hrestate : Restates e (.change "due") := .change
  obtain ⟨hkept, hrecorded⟩ := history_of_unchanged_input reminderGrammar e
  obtain ⟨-, -, hfuture⟩ := hrecorded _ hrestate
  exact ⟨⟨htravels, hdeletes, hrestates, hsame⟩, hkept _ htravels hdeletes hrestates hsame,
    hrestate, hfuture⟩

/-- Writing the empty text where it stands already takes away what could be redone. -/
theorem restating_forgets_future :
    ¬ ∀ (g : Grammar) (events : List EditorEvent) (event : EditorEvent), ¬ Travels event →
      (((run g events).apply g event).input == (run g events).input) = true →
      ((run g events).apply g event).past = (run g events).past ∧
        ((run g events).apply g event).future = (run g events).future := by
  intro hclaim
  have htravels : ¬ Travels (.change "") := by rintro ⟨⟩
  obtain ⟨-, hfuture⟩ :=
    hclaim reminderGrammar [.change "due", .key .undo] (.change "") htravels (by decide)
  exact absurd (congrArg List.length hfuture) (by decide)

/-- Events that all leave the input as it was without writing it once more. -/
inductive Quiet (g : Grammar) : Editor → List EditorEvent → Prop
  | nil {e : Editor} : Quiet g e []
  | cons {e : Editor} {event : EditorEvent} {events : List EditorEvent}
      (htravels : ¬ Travels event) (hdeletes : ¬ DeletesNothing e event)
      (hrestates : ¬ Restates e event) (hsame : ((e.apply g event).input == e.input) = true)
      (hrest : Quiet g (e.apply g event) events) : Quiet g e (event :: events)

theorem history_foldl_of_quiet {events : List EditorEvent} (h : Quiet g e events) :
    (events.foldl (apply g) e).history = e.history := by
  induction h with
  | nil => rfl
  | cons htravels hdeletes hrestates hsame _ ih =>
    rw [List.foldl_cons, ih]
    exact history_apply_of_input_beq htravels hdeletes hrestates hsame

theorem history_undo {input : EditorInput} {past : List EditorInput} (h : e.past = input :: past) :
    (e.undo g).history = (past, input, e.input :: e.future) := by
  rw [undo, h]
  rfl

theorem history_redo {input : EditorInput} {future : List EditorInput}
    (h : e.future = input :: future) :
    (e.redo g).history = (e.input :: e.past, input, future) := by
  rw [redo, h]
  rfl

/-- What was undone can be redone after any number of such events. -/
theorem history_redo_of_quiet {events : List EditorEvent} (hpast : e.past ≠ [])
    (h : Quiet g (e.undo g) events) :
    ((events.foldl (apply g) (e.undo g)).redo g).history = e.history := by
  obtain ⟨input, past, hcons⟩ := List.exists_cons_of_ne_nil hpast
  have hkept := (history_foldl_of_quiet h).trans (history_undo hcons)
  generalize events.foldl (apply g) (e.undo g) = e' at hkept ⊢
  simp only [history, Prod.mk.injEq] at hkept
  obtain ⟨hpast', hinput', hfuture'⟩ := hkept
  rw [history_redo hfuture', hinput', hpast', ← hcons]
  rfl

end Editor

end SearchBox
