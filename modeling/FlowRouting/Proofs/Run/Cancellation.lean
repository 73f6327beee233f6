import FlowRouting.Proofs.Run.Part
import FlowRouting.Proofs.Run.Timeline
import FlowRouting.Proofs.Run.Waiting

/-!
# Cancelling a run

A run that is cancelled at a time makes the visits of the run that nobody cancels, as long as these
are over by then. Between two nodes the time stands still, so it is in the course of a delay that
the cancellation comes: the delay fails, the run stops, and no node starts any more.

The two runs are compared step by step along the plan. At a time at which a wait ends it is a matter
of chance which of the two is first, so these times are left out.
-/

namespace FlowRouting

/-! ## Cut visits -/

/-- The visit, cut short by a cancellation after some time. -/
private def Visit.cut (duration : Nat) : Visit → Visit
  | .skipped id => .skipped id
  | .executed id nodeType notes _ => .executed id nodeType notes ⟨duration, .error .cancelled⟩

namespace RunRequest

variable {r : RunRequest} {h : History} {s : Step} {t : Nat}

/-- The run, cancelled at a time. -/
private def cancelledAt (r : RunRequest) (t : Nat) : RunRequest :=
  { r with cancellation := .after t }

private theorem stop?_cancelledAt (v : Visit) : (r.cancelledAt t).stop? s v = r.stop? s v := rfl

/-! ## One step -/

private theorem ending_of_never (hnever : r.cancellation = .never) :
    r.ending h s = (s.task.execute (r.nodeContext h s.node)).undisturbed
      (r.plan.settings.maxExecutionTimeMs.map UInt64.toNat) := by
  rw [ending, hnever, Execution.finish_never]

private theorem visit_cancelledAt_of_le (hnever : r.cancellation = .never)
    (hover : h.clock + (r.visit h s).duration ≤ t) :
    (r.cancelledAt t).visit h s = r.visit h s := by
  by_cases hskip : r.Skips h s
  · have hskip' : (r.cancelledAt t).Skips h s := hskip
    rw [visit_of_skips hskip, visit_of_skips hskip']
  · have hskip' : ¬(r.cancelledAt t).Skips h s := hskip
    rw [visit_of_not_skips hskip, ending_of_never hnever] at hover
    have hending : (r.cancelledAt t).ending h s = r.ending h s := by
      rw [ending_of_never hnever]
      exact Execution.finish_after_of_le hover
    rw [visit_of_not_skips hskip, visit_of_not_skips hskip', hending]
    rfl

/-- A visit in the course of which the run is cancelled is cut short, and that stops the run. -/
private theorem visit_cancelledAt_of_lt (hnever : r.cancellation = .never) (hbegun : h.clock ≤ t)
    (hcourse : t < h.clock + (r.visit h s).duration) :
    (r.cancelledAt t).visit h s = (r.visit h s).cut (t - h.clock) ∧
      (r.cancelledAt t).stop? s ((r.visit h s).cut (t - h.clock)) = some .cancelled := by
  by_cases hskip : r.Skips h s
  · -- A skipped node takes no time.
    rw [visit_of_skips hskip] at hcourse
    have hzero : Visit.duration (.skipped s.id) = 0 := rfl
    omega
  · have hskip' : ¬(r.cancelledAt t).Skips h s := hskip
    rw [visit_of_not_skips hskip, ending_of_never hnever] at hcourse
    have hending : (r.cancelledAt t).ending h s = ⟨t - h.clock, .error .cancelled⟩ :=
      Execution.finish_after_of_lt hbegun hcourse
    rw [visit_of_not_skips hskip, visit_of_not_skips hskip', hending]
    exact ⟨rfl, rfl⟩

/-! ## All steps -/

private theorem clock_le_clock_visitAll (steps : List Step) (h : History) :
    h.clock ≤ (r.visitAll steps h).1.clock := by
  obtain ⟨done, rest, _, hhistory, _⟩ := exists_visits_of_visitAll (r := r) steps h
  rw [hhistory, History.clock_append]
  exact Nat.le_add_right _ _

private theorem visitAll_cons_of_not_due (hdue : r.cancellation.isDue h.clock = false)
    (steps : List Step) :
    r.visitAll (s :: steps) h =
      match r.stop? s (r.visit h s) with
      | some e => (h ++ [r.visit h s], some e)
      | none => r.visitAll steps (h ++ [r.visit h s]) := by
  rw [visitAll, hdue]
  rfl

private theorem isDue_cancelledAt_of_le (hle : h.clock ≤ t) :
    (r.cancelledAt t).cancellation.isDue h.clock = false := by
  have hnot : ¬t < h.clock := by omega
  exact decide_eq_false hnot

private theorem isDue_of_never (hnever : r.cancellation = .never) :
    r.cancellation.isDue h.clock = false := by
  rw [hnever]
  rfl

/-- A run that is over by the time of the cancellation is not affected. -/
private theorem visitAll_cancelledAt_of_le (hnever : r.cancellation = .never) {steps : List Step}
    (hover : (r.visitAll steps h).1.clock ≤ t) :
    (r.cancelledAt t).visitAll steps h = r.visitAll steps h := by
  induction steps generalizing h with
  | nil => rfl
  | cons s steps ih =>
    have hbegun : h.clock ≤ t := (clock_le_clock_visitAll _ h).trans hover
    rw [visitAll_cons_of_not_due (isDue_of_never hnever)] at hover
    -- The clock does not go back, so the first visit is over by then as well.
    have hvisit : (h ++ [r.visit h s]).clock ≤ t := by
      refine Nat.le_trans ?_ hover
      cases r.stop? s (r.visit h s) with
      | some e => exact Nat.le_refl _
      | none => exact clock_le_clock_visitAll steps _
    rw [History.clock_append, History.clock_cons, History.clock_nil, Nat.add_zero] at hvisit
    rw [visitAll_cons_of_not_due (isDue_of_never hnever),
      visitAll_cons_of_not_due (isDue_cancelledAt_of_le hbegun),
      visit_cancelledAt_of_le hnever hvisit, stop?_cancelledAt]
    cases hstop : r.stop? s (r.visit h s) with
    | some e => rfl
    | none =>
      rw [hstop] at hover
      exact ih hover

private theorem exists_visitAll_cons_eq (hdue : r.cancellation.isDue h.clock = false)
    (steps : List Step) :
    ∃ rest, (r.visitAll (s :: steps) h).1 = h ++ r.visit h s :: rest := by
  rw [visitAll_cons_of_not_due hdue]
  cases r.stop? s (r.visit h s) with
  | some e => exact ⟨[], rfl⟩
  | none =>
    obtain ⟨done, _, _, hhistory, _⟩ :=
      exists_visits_of_visitAll (r := r) steps (h ++ [r.visit h s])
    refine ⟨r.visits (h ++ [r.visit h s]) done, ?_⟩
    rw [hhistory, List.append_assoc, List.singleton_append]

/-- A run that is cancelled in the course of a visit makes the visits before it, cuts this one
short, and stops. -/
private theorem visitAll_cancelledAt_of_lt (hnever : r.cancellation = .never) {steps : List Step}
    {before after : History} {v : Visit}
    (hhistory : (r.visitAll steps h).1 = h ++ before ++ v :: after)
    (hbegun : (h ++ before).clock ≤ t) (hcourse : t < (h ++ before).clock + v.duration) :
    (r.cancelledAt t).visitAll steps h =
      (h ++ before ++ [v.cut (t - (h ++ before).clock)], some .cancelled) := by
  -- The history moves on with every step, so it is generalized together with the visits before.
  induction steps generalizing h before with
  | nil =>
    have hlength := congrArg List.length hhistory
    simp [visitAll] at hlength
  | cons s steps ih =>
    obtain ⟨rest, hfirst⟩ := exists_visitAll_cons_eq (r := r) (h := h) (s := s)
      (isDue_of_never hnever) steps
    have hsame := hfirst.symm.trans hhistory
    rw [List.append_assoc, List.append_cancel_left_eq] at hsame
    rw [History.clock_append] at hbegun
    have hbegun' : h.clock ≤ t := by omega
    rw [visitAll_cons_of_not_due (isDue_cancelledAt_of_le hbegun')]
    cases before with
    | nil =>
      rw [List.nil_append, List.cons.injEq] at hsame
      obtain ⟨rfl, _⟩ := hsame
      rw [List.append_nil] at hcourse ⊢
      obtain ⟨hvisit, hstop⟩ := visit_cancelledAt_of_lt hnever hbegun' hcourse
      rw [hvisit, hstop]
    | cons u before =>
      rw [List.cons_append, List.cons.injEq] at hsame
      obtain ⟨rfl, _⟩ := hsame
      rw [History.clock_cons] at hbegun
      have hover : h.clock + (r.visit h s).duration ≤ t := by omega
      rw [visit_cancelledAt_of_le hnever hover, stop?_cancelledAt]
      rw [visitAll_cons_of_not_due (isDue_of_never hnever)] at hhistory
      have hassoc : h ++ r.visit h s :: before = h ++ [r.visit h s] ++ before := by
        rw [List.append_assoc, List.singleton_append]
      rw [hassoc] at hhistory hcourse ⊢
      cases hstop : r.stop? s (r.visit h s) with
      | some e =>
        -- Nothing comes behind a visit that stops the run.
        rw [hstop] at hhistory
        have hlength := congrArg List.length hhistory
        simp at hlength
      | none =>
        rw [hstop] at hhistory
        refine ih hhistory ?_ hcourse
        rw [← hassoc, History.clock_append, History.clock_cons]
        exact hbegun

/-! ## Runs -/

private theorem run_cancelledAt_of_le (hnever : r.cancellation = .never)
    (hover : r.run.history.clock ≤ t) : (r.cancelledAt t).run = r.run := by
  rw [history_run] at hover
  have hall : (r.cancelledAt t).visitAll (r.cancelledAt t).plan.steps [] =
      r.visitAll r.plan.steps [] := visitAll_cancelledAt_of_le hnever hover
  rw [run, run, hall]
  rfl

private theorem run_cancelledAt_of_lt (hnever : r.cancellation = .never) {before after : History}
    {v : Visit} (hhistory : r.run.history = before ++ v :: after) (hbegun : before.clock ≤ t)
    (hcourse : t < before.clock + v.duration) :
    (r.cancelledAt t).run = ⟨before ++ [v.cut (t - before.clock)], .error .cancelled⟩ := by
  rw [history_run] at hhistory
  have hall : (r.cancelledAt t).visitAll (r.cancelledAt t).plan.steps [] =
      ([] ++ before ++ [v.cut (t - before.clock)], some .cancelled) :=
    visitAll_cancelledAt_of_lt (h := []) hnever hhistory hbegun hcourse
  rw [run, hall]
  rfl

private theorem run_of_beforehand (hbeforehand : r.cancellation = .beforehand)
    (hsteps : r.plan.steps ≠ []) : r.run = ⟨[], .error .cancelled⟩ := by
  obtain ⟨s, steps, heq⟩ := List.exists_cons_of_ne_nil hsteps
  rw [run, heq, visitAll, hbeforehand]
  rfl

end RunRequest

/-! ## The cut -/

/-- At a time a run is in the course of a delay. -/
def Run.DelaysAt (run : Run) (id : String) (t : Nat) : Prop :=
  ∃ (before : History) (notes : List Note) (ending : Ending) (after : History),
    run.history = before ++ .executed id NodeType.delay.name notes ending :: after ∧
      before.clock < t ∧ t < before.clock + ending.duration

/-- A run is the beginning of another one: the delay that the other one is in the course of at a
time is cancelled, and with it the run, and no node starts from then on. -/
structure Run.IsCut (cut whole : Run) (t : Nat) : Prop where
  result_eq : cut.result = .error .cancelled
  events_eq : ∃ id, whole.DelaysAt id t ∧ cut.events = whole.eventsUpTo t ++
    [.nodeFailed id .cancelled, .workflowCompleted false t]
  start_lt : ∀ start id nodeType, (start, .nodeStarted id nodeType) ∈ cut.timedEvents → start < t

section Workflow

variable {w : Workflow} {context : RunContext} {t : Nat}

private theorem exists_delay_of_duration_pos {cancellation : Cancellation} {before after : History}
    {v : Visit} (hhistory : (w.run context cancellation).history = before ++ v :: after)
    (hpos : 0 < v.duration) :
    ∃ id notes ending, v = .executed id NodeType.delay.name notes ending := by
  obtain ⟨plan, s, hplan, hs, hv⟩ := exists_step_of_visit hhistory
  have htask := (Plan.ofWorkflow_eq_ok_iff.mp hplan).task_eq s hs
  rw [hv] at hpos
  have htype := RunRequest.nodeType_of_duration_pos htask hpos
  cases v with
  | skipped id =>
    rw [← hv] at hpos
    exact absurd hpos (Nat.lt_irrefl 0)
  | executed id nodeType notes ending =>
    obtain ⟨_, rfl, _, _⟩ := RunRequest.visit_eq_executed hv.symm
    exact ⟨id, notes, ending, by rw [htype]⟩

private theorem Run.isCut_of_during {whole : Run} {before after : History} {id : String}
    {notes : List Note} {ending : Ending}
    (hhistory : whole.history =
      before ++ .executed id NodeType.delay.name notes ending :: after)
    (hbegun : before.clock < t) (hcourse : t < before.clock + ending.duration) :
    Run.IsCut ⟨before ++ [.executed id NodeType.delay.name notes
      ⟨t - before.clock, .error .cancelled⟩], .error .cancelled⟩ whole t := by
  have hclock : before.clock + (t - before.clock) = t := by omega
  refine ⟨rfl, ⟨id, ⟨before, notes, ending, after, hhistory, hbegun, hcourse⟩, ?_⟩, ?_⟩
  · have htotal : History.clock (before ++ [.executed id NodeType.delay.name notes
        ⟨t - before.clock, .error .cancelled⟩]) = t := by
      rw [History.clock_append]
      exact hclock
    rw [whole.eventsUpTo_of_during hhistory (Nat.le_of_lt hbegun) hcourse, Run.events, htotal,
      List.flatMap_append]
    simp [Visit.events, Visit.opening, Ending.events, Except.isOk, Except.toBool]
  -- What starts in the cut run are the nodes before the delay and the delay itself.
  · intro start id' nodeType hstarted
    rw [Run.timedEvents, History.timedEvents_append, List.mem_append, List.mem_cons,
      List.mem_append, List.mem_singleton] at hstarted
    rcases hstarted with (hstarted | hstarted | hstarted) | hstarted
    · cases hstarted
    · have htime := History.time_of_mem_timedEvents hstarted
      simp only at htime
      omega
    · rw [History.timedEvents, History.timedEvents, List.append_nil, Nat.zero_add] at hstarted
      rw [Visit.time_of_nodeStarted_mem hstarted]
      exact hbegun
    · cases hstarted

private theorem isCut_run {plan : Plan} (hplan : Plan.ofWorkflow w = .ok plan) (hpos : 0 < t)
    (hfree : t ∉ (w.run context .never).waitEnds)
    (hend : t ≤ (w.run context .never).history.clock) :
    (w.run context (.after t)).IsCut (w.run context .never) t := by
  obtain ⟨before, v, after, hhistory, hbegun, hcourse⟩ :=
    History.exists_visit_of_notMem_waitEnds hpos (by rwa [Nat.zero_add]) hfree
  rw [Nat.zero_add] at hbegun hcourse
  obtain ⟨id, notes, ending, rfl⟩ := exists_delay_of_duration_pos hhistory (by omega)
  have hcut : (w.run context (.after t)) = ⟨before ++ [.executed id NodeType.delay.name notes
      ⟨t - before.clock, .error .cancelled⟩], .error .cancelled⟩ := by
    rw [run_eq_of_plan hplan] at hhistory ⊢
    exact RunRequest.run_cancelledAt_of_lt rfl hhistory (Nat.le_of_lt hbegun) hcourse
  rw [hcut]
  exact Run.isCut_of_during hhistory hbegun hcourse

/-- **A cancellation cuts a run cleanly.** Take a time at which no wait of the run ends that nobody
cancels. If the run is over by then, a cancellation at that time does not change it. If not, then
the cancelled run has the events up to that time, the failure of the delay in progress, and no more.
A run that is cancelled beforehand makes no visits, unless there are none to make or the workflow
does not pass the checks. -/
theorem cancellation_cuts_run (w : Workflow) (context : RunContext) {t : Nat} (hpos : 0 < t)
    (hfree : t ∉ (w.run context .never).waitEnds) :
    ((w.run context .never).history.clock < t →
      (w.run context (.after t)).result = (w.run context .never).result ∧
        (w.run context (.after t)).events = (w.run context .never).events) ∧
    (t ≤ (w.run context .never).history.clock →
      (w.run context (.after t)).IsCut (w.run context .never) t) ∧
    ∀ plan, Plan.ofWorkflow w = .ok plan → w.nodes ≠ [] →
      (w.run context .beforehand).result = .error .cancelled ∧
        (w.run context .beforehand).events = [.workflowStarted, .workflowCompleted false 0] := by
  refine ⟨fun hover ↦ ?_, fun hend ↦ ?_, fun plan hplan hnodes ↦ ?_⟩
  · have hsame : w.run context (.after t) = w.run context .never := by
      cases hplan : Plan.ofWorkflow w with
      | error e => rw [Workflow.run, Workflow.run, hplan]
      | ok plan =>
        rw [run_eq_of_plan hplan] at hover
        rw [run_eq_of_plan hplan, run_eq_of_plan hplan]
        exact RunRequest.run_cancelledAt_of_le rfl (Nat.le_of_lt hover)
    rw [hsame]
    exact ⟨rfl, rfl⟩
  · cases hplan : Plan.ofWorkflow w with
    | error e =>
      -- A workflow that does not pass the checks has no visits, so no time passes.
      rw [Workflow.run, hplan] at hend
      exact absurd hpos (by simpa using hend)
    | ok plan => exact isCut_run hplan hpos hfree hend
  · have hsteps : plan.steps ≠ [] := by
      rw [← List.length_pos_iff, (Plan.ofWorkflow_eq_ok_iff.mp hplan).length_steps,
        List.length_pos_iff]
      exact hnodes
    rw [run_eq_of_plan hplan, RunRequest.run_of_beforehand rfl hsteps]
    exact ⟨rfl, rfl⟩

end Workflow

/-! ### A pause between two texts

The pause takes 100 milliseconds, and failures are passed over. -/

/-- A text, a delay, and another text. -/
def paused : Workflow where
  id := Uuid.nil
  name := "paused"
  nodes :=
    [{ id := "first", nodeType := "text" },
      { id := "pause", nodeType := "time.delay", config := [("delay_ms", .number (.ofInt 100))] },
      { id := "last", nodeType := "text" }]
  edges := [{ source := "first", target := "pause" }, { source := "pause", target := "last" }]
  settings := { onError := .continueOnError }

/-- Half-way the pause is cut, and the second text is not reached. -/
theorem cancellation_cuts_run_paused :
    0 < 50 ∧ 50 ∉ (paused.run exampleContext .never).waitEnds ∧
      (paused.run exampleContext (.after 50)).IsCut (paused.run exampleContext .never) 50 ∧
      (paused.run exampleContext .beforehand).events =
        [.workflowStarted, .workflowCompleted false 0] := by
  have hends : (paused.run exampleContext .never).waitEnds = [100] := by decide +kernel
  have hclock : (paused.run exampleContext .never).history.clock = 100 := by decide +kernel
  have hfree : 50 ∉ (paused.run exampleContext .never).waitEnds := by
    rw [hends]
    decide
  obtain ⟨plan, hplan⟩ := exists_eq_ok_of_isOk
    (show (Plan.ofWorkflow paused).isOk = true by decide +kernel)
  obtain ⟨_, hcut, hbeforehand⟩ := cancellation_cuts_run paused exampleContext (by decide) hfree
  exact ⟨by decide, hfree, hcut (by omega), (hbeforehand plan hplan nofun).2⟩

end FlowRouting
