import SearchBox.Editor.Basic
import SearchBox.Proofs.Grammar.WellFormed

namespace SearchBox.Editor

/-- The inputs to return to on both sides of the present one. -/
def history (e : Editor) : List EditorInput × EditorInput × List EditorInput :=
  (e.past, e.input, e.future)

/-- The cursor of the timeline: how many inputs stand before the present one. -/
def place (e : Editor) : Nat := e.past.length

theorem length_timeline (e : Editor) : e.timeline.length = e.place + 1 + e.future.length := by
  simp only [timeline, place, List.length_append, List.length_reverse, List.length_cons]
  omega

theorem getElem?_timeline_place (e : Editor) : e.timeline[e.place]? = some e.input := by
  simp [timeline, place]

theorem timeline_eq (e : Editor) : e.timeline = (e.past.reverse ++ [e.input]) ++ e.future := by
  simp [timeline]

/-- A timeline and a place in it are all there is to a history. -/
theorem history_eq_of_timeline_eq {e e' : Editor} (h : e.timeline = e'.timeline)
    (hplace : e.place = e'.place) : e.history = e'.history := by
  have hlength : (e.past.reverse ++ [e.input]).length = (e'.past.reverse ++ [e'.input]).length := by
    simpa [place] using hplace
  rw [timeline_eq, timeline_eq] at h
  obtain ⟨hbefore, hfuture⟩ := List.append_inj h hlength
  obtain ⟨hpast, hinput⟩ := List.append_inj' hbefore rfl
  rw [history, history, List.reverse_injective hpast, List.singleton_inj.1 hinput, hfuture]

variable {g : Grammar}

theorem timeline_undo (e : Editor) : (e.undo g).timeline = e.timeline := by
  cases h : e.past with
  | nil => rw [undo, h]
  | cons input past => simp [undo, h, timeline, visit]

theorem timeline_redo (e : Editor) : (e.redo g).timeline = e.timeline := by
  cases h : e.future with
  | nil => rw [redo, h]
  | cons input future => simp [redo, h, timeline, visit]

theorem place_undo {e : Editor} (h : e.past ≠ []) : (e.undo g).place + 1 = e.place := by
  obtain ⟨input, past, hpast⟩ := List.exists_cons_of_ne_nil h
  simp [undo, hpast, place, visit]

theorem place_redo {e : Editor} (h : e.future ≠ []) : (e.redo g).place = e.place + 1 := by
  obtain ⟨input, future, hfuture⟩ := List.exists_cons_of_ne_nil h
  simp [redo, hfuture, place, visit]

/-- The events that move along the timeline. -/
inductive Travels : EditorEvent → Prop
  | undo : Travels (.key .undo)
  | redo : Travels (.key .redo)

def presses (k : Key) (n : Nat) : List EditorEvent := List.replicate n (.key k)

/-- Whatever order they come in, undoing and redoing lose no input and make none twice. -/
theorem timeline_foldl {events : List EditorEvent} (h : ∀ event ∈ events, Travels event)
    (e : Editor) : (events.foldl (apply g) e).timeline = e.timeline := by
  induction events generalizing e with
  | nil => rfl
  | cons event events ih =>
    obtain ⟨hevent, hevents⟩ := List.forall_mem_cons.1 h
    rw [List.foldl_cons, ih hevents]
    cases hevent with
    | undo => exact timeline_undo e
    | redo => exact timeline_redo e

theorem travels_of_mem_presses {k : Key} (h : Travels (.key k)) {n : Nat} :
    ∀ event ∈ presses k n, Travels event := by
  intro event hevent
  rwa [List.eq_of_mem_replicate hevent]

theorem place_presses_undo {e : Editor} {n : Nat} (h : n ≤ e.place) :
    ((presses .undo n).foldl (apply g) e).place + n = e.place := by
  induction n generalizing e with
  | zero => rfl
  | succ n ih =>
    have hpast : e.past ≠ [] := List.ne_nil_of_length_pos (by rw [place] at h; omega)
    have hstep : (e.undo g).place + 1 = e.place := place_undo hpast
    have hrest := ih (e := e.undo g) (by omega)
    rw [presses, List.replicate_succ, List.foldl_cons, ← hstep, ← hrest]
    exact (Nat.add_assoc _ _ _).symm

theorem place_presses_redo {e : Editor} {n : Nat} (h : n ≤ e.future.length) :
    ((presses .redo n).foldl (apply g) e).place = e.place + n := by
  induction n generalizing e with
  | zero => rfl
  | succ n ih =>
    have hfuture : e.future ≠ [] := List.ne_nil_of_length_pos (by omega)
    have hstep : (e.redo g).place = e.place + 1 := place_redo hfuture
    -- The timeline stays, so each step forward leaves one input less in front.
    have hlength := congrArg List.length (timeline_redo (g := g) e)
    rw [length_timeline, length_timeline, hstep] at hlength
    have hrest := ih (e := e.redo g) (by omega)
    rw [hstep, Nat.add_assoc, Nat.add_comm 1 n] at hrest
    exact hrest

/-- As many steps back as there are and as many forth lead to the same history. -/
theorem history_presses_undo_redo {e : Editor} {n : Nat} (h : n ≤ e.past.length) :
    ((presses .undo n ++ presses .redo n).foldl (apply g) e).history = e.history := by
  rw [List.foldl_append]
  have hplace := place_presses_undo (g := g) h
  have htimeline := timeline_foldl (g := g) (travels_of_mem_presses .undo (n := n)) e
  generalize (presses .undo n).foldl (apply g) e = e' at hplace htimeline ⊢
  have hlength := congrArg List.length htimeline
  rw [length_timeline, length_timeline] at hlength
  have hfuture : n ≤ e'.future.length := by omega
  apply history_eq_of_timeline_eq
  · rw [timeline_foldl (travels_of_mem_presses .redo), htimeline]
  · rw [place_presses_redo hfuture, hplace]

/-- The events that neither write nor travel: a moved selection, an entry that does not compile, a
completion that adds nothing or does not exist, a deletion inside the text. -/
inductive Idle (g : Grammar) (e : Editor) : EditorEvent → Prop
  | up : Idle g e (.key .up)
  | down : Idle g e (.key .down)
  | esc : Idle g e (.key .esc)
  | enter {error : LiteralError} (h : g.compile e.input.text = .error error) :
      Idle g e (.key .enter)
  | tab (h : e.ghost = "") : Idle g e (.key .tab)
  | backspace (h : e.input.text ≠ "") : Idle g e (.key .backspace)
  | pick {index : Nat} (h : e.advice.completions.length ≤ index) : Idle g e (.pick index)

theorem history_apply_of_idle {e : Editor} {event : EditorEvent} (h : Idle g e event) :
    (e.apply g event).history = e.history := by
  cases h with
  | up => rfl
  | down => rfl
  | esc => rfl
  | enter h =>
    rw [apply, press, enter, h]
    rfl
  | tab h =>
    have hempty : e.ghost.isEmpty = true := by rw [h]; rfl
    rw [apply, press, if_pos hempty]
  | backspace h => rw [apply, press, if_neg (by simpa using h)]
  | pick h => rw [apply, List.getElem?_eq_none h]

/-- What the other events write. -/
inductive Writes (g : Grammar) (e : Editor) : EditorEvent → EditorInput → Prop
  | change (text : String) : Writes g e (.change text) (e.input.setText text)
  | pick {index : Nat} {c : Completion} (h : e.advice.completions[index]? = some c) :
      Writes g e (.pick index) (e.input.setText c.plain)
  | tab (h : e.ghost ≠ "") : Writes g e (.key .tab) (e.input.setText (e.input.text ++ e.ghost))
  | enter {p : Predicate} (h : g.compile e.input.text = .ok p) :
      Writes g e (.key .enter) (e.input.commit p)
  | backspace (h : e.input.text = "") : Writes g e (.key .backspace) e.input.reopen

theorem exists_writes {e : Editor} {event : EditorEvent} (htravels : ¬ Travels event)
    (h : ¬ Idle g e event) : ∃ input, Writes g e event input := by
  cases event with
  | change text => exact ⟨_, .change text⟩
  | pick index =>
    have hindex : index < e.advice.completions.length := Nat.lt_of_not_le fun hle => h (.pick hle)
    exact ⟨_, .pick (List.getElem?_eq_getElem hindex)⟩
  | key k =>
    cases k with
    | up => exact absurd .up h
    | down => exact absurd .down h
    | esc => exact absurd .esc h
    | undo => exact absurd .undo htravels
    | redo => exact absurd .redo htravels
    | tab => exact ⟨_, .tab fun hempty => h (.tab hempty)⟩
    | backspace => exact ⟨_, .backspace (by_contra fun hne => h (.backspace hne))⟩
    | enter =>
      cases hcompile : g.compile e.input.text with
      | error error => exact absurd (.enter hcompile) h
      | ok p => exact ⟨_, .enter hcompile⟩

theorem apply_of_writes {e : Editor} {event : EditorEvent} {input : EditorInput}
    (h : Writes g e event input) : e.apply g event = e.record g input := by
  cases h with
  | change text => rfl
  | pick h => rw [apply, h]
  | tab h => rw [apply, press, if_neg (by simpa using h)]
  | enter h => rw [apply, press, enter, h]
  | backspace h => rw [apply, press, if_pos (by rw [h]; rfl)]

theorem history_apply_of_not_idle {e : Editor} {event : EditorEvent} (htravels : ¬ Travels event)
    (h : ¬ Idle g e event) :
    (e.apply g event).history = (e.input :: e.past, (e.apply g event).input, []) := by
  obtain ⟨input, hwrites⟩ := exists_writes htravels h
  rw [apply_of_writes hwrites]
  rfl

/-- The history is a timeline with a cursor. Undoing and redoing move the cursor, idle events leave
both alone, and every other event cuts the timeline behind the cursor and adds one input. -/
theorem timeline_apply (g : Grammar) (e : Editor) :
    e.timeline[e.place]? = some e.input ∧
    ((e.apply g (.key .undo)).timeline = e.timeline ∧
      (e.past ≠ [] → (e.apply g (.key .undo)).place + 1 = e.place) ∧
      (e.past = [] → e.apply g (.key .undo) = e)) ∧
    ((e.apply g (.key .redo)).timeline = e.timeline ∧
      (e.future ≠ [] → (e.apply g (.key .redo)).place = e.place + 1) ∧
      (e.future = [] → e.apply g (.key .redo) = e)) ∧
    (∀ event, Idle g e event → (e.apply g event).history = e.history) ∧
    (∀ event, ¬ Travels event → ¬ Idle g e event →
      (e.apply g event).timeline = e.past.reverse ++ [e.input, (e.apply g event).input] ∧
      (e.apply g event).future = []) ∧
    (∀ n ≤ e.past.length,
      ((presses .undo n ++ presses .redo n).foldl (apply g) e).history = e.history) ∧
    ∀ events : List EditorEvent, (∀ event ∈ events, Travels event) →
      (events.foldl (apply g) e).timeline = e.timeline := by
  refine ⟨getElem?_timeline_place e, ⟨timeline_undo e, place_undo, ?_⟩,
    ⟨timeline_redo e, place_redo, ?_⟩, fun event => history_apply_of_idle, ?_,
    fun n => history_presses_undo_redo, fun events h => timeline_foldl h e⟩
  · intro h
    rw [apply, press, undo, h]
  · intro h
    rw [apply, press, redo, h]
  · intro event htravels h
    have hhistory := history_apply_of_not_idle htravels h
    simp only [history, Prod.mk.injEq] at hhistory
    obtain ⟨hpast, -, hfuture⟩ := hhistory
    refine ⟨?_, hfuture⟩
    rw [timeline, hpast, hfuture]
    simp

theorem timeline_apply_reminder :
    3 ≤ (run reminderGrammar [.change "du", .change "due is now", .key .enter]).past.length ∧
      ((presses .undo 3 ++ presses .redo 3).foldl (apply reminderGrammar)
        (run reminderGrammar [.change "du", .change "due is now", .key .enter])).history =
        (run reminderGrammar [.change "du", .change "due is now", .key .enter]).history := by
  have hpast : 3 ≤
      (run reminderGrammar [.change "du", .change "due is now", .key .enter]).past.length := by
    decide
  obtain ⟨-, -, -, -, -, hpresses, -⟩ := timeline_apply reminderGrammar
    (run reminderGrammar [.change "du", .change "due is now", .key .enter])
  exact ⟨hpast, hpresses 3 hpast⟩

end SearchBox.Editor
