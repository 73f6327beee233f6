import FlowRouting.Proofs.Condition.Failure
import FlowRouting.Proofs.Run.Trace

/-!
# Waiting undisturbed and waiting until cancelled

Under a time limit a node has an ending of its own, `Execution.undisturbed`, which does not depend
on when the node begins. A cancellation only ever cuts that ending short, and it can do so only
while the node waits. Of all tasks only the delay waits, so every other node ends as it does when
nobody cancels the run.
-/

namespace FlowRouting

/-! ## Endings -/

namespace Execution

variable {e : Execution} {limit : Option Nat}

/-- What becomes of an execution under a time limit if nobody cancels it. -/
def undisturbed (e : Execution) (limit : Option Nat) : Ending :=
  match limit.filter (· < e.wait) with
  | some ms => ⟨ms, .error (.timeout ms)⟩
  | none => ⟨e.wait, e.result⟩

private theorem finish_eq (c : Cancellation) (clock : Nat) :
    e.finish limit c clock =
      match ((c.during? clock).map (· - clock)).filter (· < (e.undisturbed limit).duration) with
      | some duration => ⟨duration, .error .cancelled⟩
      | none => e.undisturbed limit := by
  rw [finish, undisturbed]
  cases limit.filter (· < e.wait) with
  | some ms => rfl
  | none => rfl

/-- Undisturbed an execution ends with its own result or by the time limit. -/
theorem result_undisturbed (e : Execution) (limit : Option Nat) :
    (e.undisturbed limit).result = e.result ∨
      ∃ ms, (e.undisturbed limit).result = .error (.timeout ms) := by
  rw [undisturbed]
  split
  · exact Or.inr ⟨_, rfl⟩
  · exact Or.inl rfl

@[simp] theorem finish_never (clock : Nat) :
    e.finish limit .never clock = e.undisturbed limit := by
  rw [finish_eq]
  rfl

theorem finish_after_of_le {t clock : Nat} (h : clock + (e.undisturbed limit).duration ≤ t) :
    e.finish limit (.after t) clock = e.undisturbed limit := by
  have hlate : ¬max t clock - clock < (e.undisturbed limit).duration := by omega
  rw [finish_eq, Cancellation.during?, Option.map_some, Option.filter_some, if_neg]
  simpa using hlate

theorem finish_after_of_lt {t clock : Nat} (hle : clock ≤ t)
    (hlt : t < clock + (e.undisturbed limit).duration) :
    e.finish limit (.after t) clock = ⟨t - clock, .error .cancelled⟩ := by
  have hmax : max t clock = t := by omega
  have hearly : t - clock < (e.undisturbed limit).duration := by omega
  rw [finish_eq, Cancellation.during?, Option.map_some, hmax, Option.filter_some, if_pos]
  simpa using hearly

private theorem finish_of_wait_eq_zero (hwait : e.wait = 0) (c : Cancellation) (clock : Nat) :
    e.finish limit c clock = ⟨0, e.result⟩ := by
  have hlimit : limit.filter (· < e.wait) = none := by
    rw [hwait, Option.filter_eq_none_iff]
    simp
  have hundisturbed : e.undisturbed limit = ⟨0, e.result⟩ := by rw [undisturbed, hlimit, hwait]
  have hnone : ((c.during? clock).map (· - clock)).filter
      (· < (e.undisturbed limit).duration) = none := by
    rw [hundisturbed, Option.filter_eq_none_iff]
    simp
  rw [finish_eq, hnone]
  exact hundisturbed

end Execution

/-! ## Which nodes wait -/

theorem Task.wait_eq_zero {task : Task} (h : task.nodeType ≠ .delay) (ctx : NodeContext) :
    (task.execute ctx).wait = 0 := by
  cases task with
  | delay ms => exact absurd rfl h
  | condition c =>
    rw [execute, NodeContext.route]
    split <;> rfl
  | debugLog message =>
    rw [execute, NodeContext.debugLog]
    split <;> rfl
  | output value =>
    rw [execute, NodeContext.publish]
    split <;> rfl
  | input | text | jsonParse | jsonStringify => rfl

private theorem NodeSpec.nodeType_of_task {spec : NodeSpec} {task : Task}
    (h : spec.task = .ok task) : spec.nodeType = task.nodeType.name := by
  rw [NodeSpec.task] at h
  split at h
  · cases h
  · next t ht =>
    rw [NodeSpec.nodeType_of_taskAs (mapError_eq_ok_iff.mp h)]
    exact (NodeType.name_of_ofName? ht).symm

namespace RunRequest

variable {r : RunRequest} {h : History} {s : Step}

/-- The end of an execution that does not wait is that of its task. -/
theorem ending_of_wait_eq_zero (hwait : (s.task.execute (r.nodeContext h s.node)).wait = 0) :
    r.ending h s = ⟨0, (s.task.execute (r.nodeContext h s.node)).result⟩ :=
  Execution.finish_of_wait_eq_zero hwait _ _

/-- A visit that takes time is that of a delay. -/
theorem nodeType_of_duration_pos (htask : s.node.spec.task = .ok s.task)
    (hpos : 0 < (r.visit h s).duration) : s.node.spec.nodeType = NodeType.delay.name := by
  by_cases hskip : r.Skips h s
  · rw [visit_of_skips hskip] at hpos
    exact absurd hpos (Nat.lt_irrefl 0)
  · rw [visit_of_not_skips hskip] at hpos
    by_cases hdelay : s.task.nodeType = .delay
    · rw [NodeSpec.nodeType_of_task htask, hdelay]
    · have hzero := ending_of_wait_eq_zero (r := r) (h := h)
        (Task.wait_eq_zero hdelay (r.nodeContext h s.node))
      rw [Visit.duration, hzero] at hpos
      exact absurd hpos (Nat.lt_irrefl 0)

end RunRequest

end FlowRouting
