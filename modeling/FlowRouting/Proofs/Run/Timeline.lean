import FlowRouting.Run.Basic

/-!
# The timeline of a run

The events of a run carry no times. Here each one is tagged with the time of the clock at which it
is seen: what opens a visit at the time at which the visit begins, what closes it at the time at
which it is over. Erasing the tags gives the events back, so a statement about "the events up to a
time" is one about a part of the list of events.

The clock moves only while a node waits. A time at which no wait ends is therefore in the course of
a wait, unless the run has not begun or is over: this is `exists_visit_of_notMem_waitEnds`.
-/

namespace FlowRouting

/-! ## The clock -/

namespace History

variable {h h' : History} {t start : Nat}

@[simp] theorem clock_nil : clock [] = 0 := rfl

@[simp] theorem clock_cons (v : Visit) (h : History) :
    clock (v :: h) = v.duration + clock h := rfl

@[simp] theorem clock_append (h h' : History) : clock (h ++ h') = clock h + clock h' := by
  induction h with
  | nil => exact (Nat.zero_add _).symm
  | cons v h ih => rw [List.cons_append, clock_cons, clock_cons, ih, Nat.add_assoc]

/-- The times at which waits end, if the visits begin at a time. -/
def waitEnds (start : Nat) : History → List Nat
  | [] => []
  | v :: h =>
    (if 0 < v.duration then [start + v.duration] else []) ++ waitEnds (start + v.duration) h

theorem exists_visit_of_notMem_waitEnds (hstart : start < t) (hend : t ≤ start + h.clock)
    (hfree : t ∉ waitEnds start h) :
    ∃ before v after, h = before ++ v :: after ∧ start + clock before < t ∧
      t < start + clock before + v.duration := by
  induction h generalizing start with
  | nil =>
    rw [clock_nil] at hend
    omega
  | cons v h ih =>
    rw [waitEnds, List.mem_append, not_or] at hfree
    rw [clock_cons] at hend
    by_cases hlt : t < start + v.duration
    · exact ⟨[], v, h, rfl, hstart, hlt⟩
    · -- The visit is over by then, and not just now, as no wait ends at that time.
      have hne : t ≠ start + v.duration := by
        intro heq
        have hpos : 0 < v.duration := by omega
        rw [if_pos hpos, List.mem_singleton] at hfree
        exact hfree.1 heq
      obtain ⟨before, u, after, rfl, hbegun, hnotOver⟩ :=
        ih (by omega) (by omega) hfree.2
      refine ⟨v :: before, u, after, rfl, ?_, ?_⟩
      · rw [clock_cons]
        omega
      · rw [clock_cons]
        omega

end History

/-! ## Events with their times -/

private theorem map_snd_map_mk (time : Nat) (events : List Event) :
    (events.map (Prod.mk time)).map Prod.snd = events := by
  rw [List.map_map]
  exact List.map_id _

namespace Visit

variable {v : Visit} {t start : Nat} {p : Nat × Event}

def opening : Visit → List Event
  | .skipped id => [.nodeSkipped id]
  | .executed id nodeType notes _ => .nodeStarted id nodeType :: notes.map (.noted id)

def closing : Visit → List Event
  | .skipped _ => []
  | .executed id _ _ ending => ending.events id

private theorem opening_append_closing (v : Visit) : v.opening ++ v.closing = v.events := by
  cases v with
  | skipped id => rfl
  | executed id nodeType notes ending => rfl

/-- The events of a visit that begins at a time. -/
def timedEvents (start : Nat) (v : Visit) : List (Nat × Event) :=
  v.opening.map (Prod.mk start) ++ v.closing.map (Prod.mk (start + v.duration))

private theorem map_snd_timedEvents (start : Nat) (v : Visit) :
    (v.timedEvents start).map Prod.snd = v.events := by
  rw [timedEvents, List.map_append, map_snd_map_mk, map_snd_map_mk, opening_append_closing]

private theorem time_of_mem_timedEvents (hp : p ∈ v.timedEvents start) :
    start ≤ p.1 ∧ p.1 ≤ start + v.duration := by
  rw [timedEvents, List.mem_append, List.mem_map, List.mem_map] at hp
  rcases hp with ⟨_, _, rfl⟩ | ⟨_, _, rfl⟩
  · exact ⟨Nat.le_refl _, Nat.le_add_right _ _⟩
  · exact ⟨Nat.le_add_right _ _, Nat.le_refl _⟩

theorem time_of_nodeStarted_mem {time : Nat} {id nodeType : String}
    (h : (time, .nodeStarted id nodeType) ∈ v.timedEvents start) : time = start := by
  rw [timedEvents, List.mem_append, List.mem_map, List.mem_map] at h
  rcases h with ⟨event, _, heq⟩ | ⟨event, hevent, heq⟩
  · exact (Prod.mk.inj heq).1.symm
  · -- What closes a visit is no start.
    obtain ⟨_, rfl⟩ := Prod.mk.inj heq
    cases v with
    | skipped id => exact absurd hevent List.not_mem_nil
    | executed id nodeType notes ending =>
      rw [closing, Ending.events] at hevent
      split at hevent
      · next output _ =>
        cases hbranch : output.branch <;>
          simp [NodeOutput.selectionEvent?, hbranch] at hevent
      · simp at hevent

/-- In the course of a visit its opening has been seen and its closing has not. -/
theorem filter_timedEvents_of_during (hle : start ≤ t) (hlt : t < start + v.duration) :
    (v.timedEvents start).filter (fun p ↦ p.1 ≤ t) = v.opening.map (Prod.mk start) := by
  have hopening : (v.opening.map (Prod.mk start)).filter (fun p ↦ p.1 ≤ t) =
      v.opening.map (Prod.mk start) := by
    rw [List.filter_eq_self, List.forall_mem_map]
    exact fun _ _ ↦ decide_eq_true hle
  have hclosing : (v.closing.map (Prod.mk (start + v.duration))).filter (fun p ↦ p.1 ≤ t) =
      [] := by
    rw [List.filter_eq_nil_iff, List.forall_mem_map]
    exact fun _ _ ↦ by simpa using hlt
  rw [timedEvents, List.filter_append, hopening, hclosing, List.append_nil]

end Visit

namespace History

variable {h : History} {t start : Nat} {p : Nat × Event}

/-- The events of visits that begin at a time. -/
def timedEvents (start : Nat) : History → List (Nat × Event)
  | [] => []
  | v :: h => v.timedEvents start ++ timedEvents (start + v.duration) h

theorem timedEvents_append (h h' : History) (start : Nat) :
    timedEvents start (h ++ h') = timedEvents start h ++ timedEvents (start + clock h) h' := by
  induction h generalizing start with
  | nil => rfl
  | cons v h ih =>
    rw [List.cons_append, timedEvents, timedEvents, ih, clock_cons, List.append_assoc,
      Nat.add_assoc]

private theorem map_snd_timedEvents (start : Nat) (h : History) :
    (timedEvents start h).map Prod.snd = h.flatMap Visit.events := by
  induction h generalizing start with
  | nil => rfl
  | cons v h ih =>
    rw [timedEvents, List.map_append, Visit.map_snd_timedEvents, ih, List.flatMap_cons]

theorem time_of_mem_timedEvents (hp : p ∈ timedEvents start h) :
    start ≤ p.1 ∧ p.1 ≤ start + clock h := by
  induction h generalizing start with
  | nil => exact absurd hp List.not_mem_nil
  | cons v h ih =>
    rw [clock_cons]
    rw [timedEvents, List.mem_append] at hp
    rcases hp with hp | hp
    · have htime := Visit.time_of_mem_timedEvents hp
      omega
    · have htime := ih hp
      omega

private theorem filter_timedEvents_of_le (hle : start + clock h ≤ t) :
    (timedEvents start h).filter (fun p ↦ p.1 ≤ t) = timedEvents start h := by
  rw [List.filter_eq_self]
  intro p hp
  have htime := time_of_mem_timedEvents hp
  rw [decide_eq_true_eq]
  omega

private theorem filter_timedEvents_of_lt (hlt : t < start) :
    (timedEvents start h).filter (fun p ↦ p.1 ≤ t) = [] := by
  rw [List.filter_eq_nil_iff]
  intro p hp
  have htime := time_of_mem_timedEvents hp
  rw [decide_eq_true_eq]
  omega

end History

namespace Run

variable {run : Run} {t : Nat}

/-- The times at which waits of a run end, by themselves or by the time limit. -/
def waitEnds (run : Run) : List Nat :=
  run.history.waitEnds 0

/-- The events of a run, with the times of its clock. -/
def timedEvents (run : Run) : List (Nat × Event) :=
  (0, .workflowStarted) :: run.history.timedEvents 0 ++
    [(run.history.clock, .workflowCompleted run.result.isOk run.history.clock)]

theorem map_snd_timedEvents (run : Run) : run.timedEvents.map Prod.snd = run.events := by
  rw [timedEvents, List.map_append, List.map_cons, History.map_snd_timedEvents]
  rfl

/-- The events of a run up to a time. -/
def eventsUpTo (run : Run) (t : Nat) : List Event :=
  (run.timedEvents.filter fun p ↦ p.1 ≤ t).map Prod.snd

/-- In the course of a visit the events so far are those of the visits before and its opening. -/
theorem eventsUpTo_of_during {before after : History} {v : Visit}
    (hhistory : run.history = before ++ v :: after) (hle : before.clock ≤ t)
    (hlt : t < before.clock + v.duration) :
    run.eventsUpTo t = .workflowStarted :: before.flatMap Visit.events ++ v.opening := by
  have hclock : run.history.clock = before.clock + (v.duration + after.clock) := by
    rw [hhistory, History.clock_append, History.clock_cons]
  have hend : ¬run.history.clock ≤ t := by omega
  have hseen : (run.history.timedEvents 0).filter (fun p ↦ p.1 ≤ t) =
      before.timedEvents 0 ++ v.opening.map (Prod.mk before.clock) := by
    rw [hhistory, History.timedEvents_append, History.timedEvents, Nat.zero_add,
      List.filter_append, List.filter_append, History.filter_timedEvents_of_le (by omega),
      Visit.filter_timedEvents_of_during hle hlt, History.filter_timedEvents_of_lt hlt,
      List.append_nil]
  rw [eventsUpTo, timedEvents, List.cons_append, List.filter_cons_of_pos (by simp),
    List.filter_append, hseen, List.filter_cons_of_neg (by simpa using hend), List.filter_nil,
    List.append_nil, List.map_cons, List.map_append, History.map_snd_timedEvents, map_snd_map_mk]
  rfl

end Run

end FlowRouting
