import Mcad.Ledger.Effects

namespace Mcad.Ledger

open Mcad.Api

/-- The calls a ledger receives. `setNode` carries the order its loop visits the stored tasks in. -/
inductive Call where
  | setNode (node : Node) (order : List TaskInfo)
  | addTask (task : TaskInfo)
  | pipelineTask (task : TaskInfo)
  | removeTask (task : TaskInfo)
  | updateTask (task : TaskInfo)

def Call.apply (mode : Underflow) : Call → NodeInfo → NodeInfo
  | .setNode node order, ni => ni.setNode mode node order
  | .addTask task, ni => (ni.addTask mode task).after
  | .pipelineTask task, ni => (ni.pipelineTask mode task).after
  | .removeTask task, ni => (ni.removeTask mode task).after
  | .updateTask task, ni => (ni.updateTask mode task).after

/-- `SetNode` visits every stored task once, in some order. -/
def Call.Enumerates : Call → NodeInfo → Prop
  | .setNode _ order, ni => order.Perm (taskValues ni.tasks)
  | _, _ => True

def Call.isPipeline : Call → Bool
  | .pipelineTask _ => true
  | _ => false

/-- Ledgers built by `NewNodeInfo` and then any finite sequence of calls that `admits` lets
    through. -/
inductive Reachable (mode : Underflow) (admits : NodeInfo → Call → Prop) : NodeInfo → Prop
  | start (node : Option Node) : Reachable mode admits (newNodeInfo node)
  | step {ni : NodeInfo} {call : Call} (reach : Reachable mode admits ni)
      (enumerates : call.Enumerates ni) (admitted : admits ni call) :
      Reachable mode admits (call.apply mode ni)

theorem Reachable.invariant {mode : Underflow} {admits : NodeInfo → Call → Prop}
    (inv : NodeInfo → Prop) (start : ∀ node, inv (newNodeInfo node))
    (step : ∀ ni call, inv ni → call.Enumerates ni → admits ni call → inv (call.apply mode ni))
    {ni : NodeInfo} (reach : Reachable mode admits ni) : inv ni := by
  induction reach with
  | start node => exact start node
  | step _ enumerates admitted ih => exact step _ _ ih enumerates admitted

/-- The pools of an unbound ledger are empty; a bound one has every stored request in `Used`, and
    at most the releasing ones in `Releasing`. -/
structure Accounted (ni : NodeInfo) : Prop where
  unbound : ni.node = none → ni.idle = 0 ∧ ni.used = 0 ∧ ni.releasing = 0
  used : ni.node ≠ none → ni.used = requested (taskValues ni.tasks)
  releasing : ni.node ≠ none → ni.releasing ≤ releasingRequested (taskValues ni.tasks)

/-- On runs without `PipelineTask`, `Releasing` holds exactly the releasing requests. -/
structure Reconciled (ni : NodeInfo) extends Accounted ni : Prop where
  releasing_eq : ni.node ≠ none → ni.releasing = releasingRequested (taskValues ni.tasks)

variable {mode : Underflow} {ni : NodeInfo} {task : TaskInfo} {node : Node}
  {order : List TaskInfo}

theorem accounted_newNodeInfo (node : Option Node) : Reconciled (newNodeInfo node) := by
  cases node <;> exact ⟨⟨by simp [newNodeInfo], by simp [newNodeInfo, taskValues],
    by simp [newNodeInfo, taskValues]⟩, by simp [newNodeInfo, taskValues]⟩

theorem Accounted.setNode (inv : Accounted ni) (enumerates : order.Perm (taskValues ni.tasks)) :
    Accounted (ni.setNode mode node order) := by
  refine ⟨by simp, fun _ => ?_, fun _ => ?_⟩ <;> by_cases bound : ni.node = none
  · obtain ⟨-, empty, -⟩ := inv.unbound bound
    simp [(setNode_of_none bound).1, empty, requested_perm enumerates]
  · simp [(setNode_of_ne_none bound).1, inv.used bound]
  · obtain ⟨-, -, empty⟩ := inv.unbound bound
    simp [(setNode_of_none bound).2.1, empty, releasingRequested_perm enumerates]
  · simpa [(setNode_of_ne_none bound).2.1] using inv.releasing bound

theorem Accounted.addTask (inv : Accounted ni) : Accounted (ni.addTask mode task).after := by
  by_cases dup : podKey task.pod ∈ ni.tasks
  · rwa [addTask_of_mem dup]
  rw [addTask_of_not_mem dup]
  by_cases bound : ni.node = none
  · exact ⟨fun _ => by simpa [bound] using inv.unbound bound, by simp [bound], by simp [bound]⟩
  refine ⟨by simp [bound], fun _ => ?_, fun _ => ?_⟩
  · simp [bound, taskValues_insert dup, inv.used bound, add_comm]
  · simpa [bound, taskValues_insert dup, add_comm] using
      add_le_add_right (inv.releasing bound) task.releasingReq

theorem Accounted.pipelineTask (inv : Accounted ni) : Accounted (ni.pipelineTask mode task).after := by
  by_cases dup : podKey task.pod ∈ ni.tasks
  · rwa [pipelineTask_of_mem dup]
  rw [pipelineTask_of_not_mem dup]
  by_cases bound : ni.node = none
  · exact ⟨fun _ => by simpa [bound] using inv.unbound bound, by simp [bound], by simp [bound]⟩
  refine ⟨by simp [bound], fun _ => ?_, fun _ => ?_⟩
  · simp [bound, taskValues_insert dup, inv.used bound, add_comm]
  · have within : ni.releasing ≤ releasingRequested (taskValues ni.tasks) + task.resreq :=
      le_add_of_le_of_nonneg (inv.releasing bound) task.resreq_nonneg
    have covered : task.resreq ≤ releasingRequested (taskValues ni.tasks) + task.resreq :=
      le_add_of_nonneg_left releasingRequested_nonneg
    have reserved := Resource.sub_le mode within covered
    rw [add_sub_cancel_right] at reserved
    simpa [bound, taskValues_insert dup] using
      reserved.trans (le_add_of_nonneg_left task.releasingReq_nonneg)

theorem removed_totals {key : TaskID} (found : ni.tasks.lookup key = some task) :
    task.resreq + requested (taskValues (ni.tasks.erase key)) = requested (taskValues ni.tasks) ∧
    task.releasingReq + releasingRequested (taskValues (ni.tasks.erase key)) =
      releasingRequested (taskValues ni.tasks) := by
  have parts := taskValues_erase found
  exact ⟨by simpa using requested_perm parts, by simpa using releasingRequested_perm parts⟩

theorem Accounted.removeTask {ti : TaskInfo} (inv : Accounted ni) :
    Accounted (ni.removeTask mode ti).after := by
  cases found : ni.tasks.lookup (podKey ti.pod) with
  | none => rwa [removeTask_of_lookup_none found]
  | some task =>
    rw [removeTask_of_lookup_some found]
    by_cases bound : ni.node = none
    · exact ⟨fun _ => by simpa [bound] using inv.unbound bound, by simp [bound], by simp [bound]⟩
    obtain ⟨total, releasingTotal⟩ := removed_totals found
    refine ⟨by simp [bound], fun _ => ?_, fun _ => ?_⟩
    · have fits : task.resreq ≤ ni.used := inv.used bound ▸ total ▸
        le_add_of_nonneg_right requested_nonneg
      have refunded : ni.used.sub mode task.resreq =
          requested (taskValues (ni.tasks.erase (podKey ti.pod))) := by
        rw [Resource.sub_of_le mode fits, inv.used bound, ← total, add_sub_cancel_left]
      simp [bound, refunded]
    · simp only [bound, ne_eq, not_false_eq_true, whenBound_of_ne_none, refundTask_releasing]
      split_ifs with releasing
      · rw [TaskInfo.releasingReq_of_releasing releasing] at releasingTotal
        have covered : task.resreq ≤ releasingRequested (taskValues ni.tasks) :=
          releasingTotal ▸ le_add_of_nonneg_right releasingRequested_nonneg
        have refunded := Resource.sub_le mode (inv.releasing bound) covered
        rwa [← releasingTotal, add_sub_cancel_left] at refunded
      · rw [TaskInfo.releasingReq_of_not_releasing releasing, zero_add] at releasingTotal
        simpa [releasingTotal] using inv.releasing bound

theorem Accounted.updateTask {ti : TaskInfo} (inv : Accounted ni) :
    Accounted (ni.updateTask mode ti).after := by
  rcases updateTask_cases mode ni ti with ⟨-, failed⟩ | ⟨-, updated⟩
  · rw [failed]; exact inv.removeTask
  · rw [updated]; exact inv.removeTask.addTask

theorem Reconciled.setNode (inv : Reconciled ni) (enumerates : order.Perm (taskValues ni.tasks)) :
    Reconciled (ni.setNode mode node order) := by
  refine ⟨inv.toAccounted.setNode enumerates, fun _ => ?_⟩
  by_cases bound : ni.node = none
  · obtain ⟨-, -, empty⟩ := inv.unbound bound
    simp [(setNode_of_none bound).2.1, empty, releasingRequested_perm enumerates]
  · simp [(setNode_of_ne_none bound).2.1, inv.releasing_eq bound]

theorem Reconciled.addTask (inv : Reconciled ni) : Reconciled (ni.addTask mode task).after := by
  refine ⟨inv.toAccounted.addTask, fun bound' => ?_⟩
  by_cases dup : podKey task.pod ∈ ni.tasks
  · simp only [addTask_of_mem dup] at bound' ⊢; exact inv.releasing_eq bound'
  have bound : ni.node ≠ none := by simpa [addTask_of_not_mem dup] using bound'
  simp [addTask_of_not_mem dup, bound, taskValues_insert dup, inv.releasing_eq bound, add_comm]

theorem Reconciled.removeTask {ti : TaskInfo} (inv : Reconciled ni) :
    Reconciled (ni.removeTask mode ti).after := by
  refine ⟨inv.toAccounted.removeTask, fun bound' => ?_⟩
  cases found : ni.tasks.lookup (podKey ti.pod) with
  | none => simp only [removeTask_of_lookup_none found] at bound' ⊢; exact inv.releasing_eq bound'
  | some task =>
    have bound : ni.node ≠ none := by simpa [removeTask_of_lookup_some found] using bound'
    obtain ⟨-, releasingTotal⟩ := removed_totals found
    simp only [removeTask_of_lookup_some found, bound, ne_eq, not_false_eq_true,
      whenBound_of_ne_none, refundTask_releasing]
    split_ifs with releasing
    · rw [TaskInfo.releasingReq_of_releasing releasing] at releasingTotal
      have fits : task.resreq ≤ ni.releasing := inv.releasing_eq bound ▸ releasingTotal ▸
        le_add_of_nonneg_right releasingRequested_nonneg
      rw [Resource.sub_of_le mode fits, inv.releasing_eq bound, ← releasingTotal,
        add_sub_cancel_left]
    · rw [TaskInfo.releasingReq_of_not_releasing releasing, zero_add] at releasingTotal
      rw [inv.releasing_eq bound, releasingTotal]

theorem Reconciled.updateTask {ti : TaskInfo} (inv : Reconciled ni) :
    Reconciled (ni.updateTask mode ti).after := by
  rcases updateTask_cases mode ni ti with ⟨-, failed⟩ | ⟨-, updated⟩
  · rw [failed]; exact inv.removeTask
  · rw [updated]; exact inv.removeTask.addTask

theorem Accounted.step {call : Call} (inv : Accounted ni) (enumerates : call.Enumerates ni) :
    Accounted (call.apply mode ni) := by
  cases call with
  | setNode node order => exact inv.setNode enumerates
  | addTask task => exact inv.addTask
  | pipelineTask task => exact inv.pipelineTask
  | removeTask task => exact inv.removeTask
  | updateTask task => exact inv.updateTask

theorem Reconciled.step {call : Call} (inv : Reconciled ni) (enumerates : call.Enumerates ni)
    (notPipeline : call.isPipeline = false) : Reconciled (call.apply mode ni) := by
  cases call with
  | setNode node order => exact inv.setNode enumerates
  | addTask task => exact inv.addTask
  | pipelineTask task => cases notPipeline
  | removeTask task => exact inv.removeTask
  | updateTask task => exact inv.updateTask

theorem node_info_accounting (mode : Underflow) :
    (∀ ni, Reachable mode (fun _ _ => True) ni →
      Accounted ni ∧ (ni.node ≠ none →
        releasingRequested (taskValues ni.tasks) ≤ ni.used ∧
        ∀ task ∈ taskValues ni.tasks, task.resreq ≤ ni.used)) ∧
    (∀ ni, Reachable mode (fun _ call => call.isPipeline = false) ni → ni.node ≠ none →
      ni.releasing = releasingRequested (taskValues ni.tasks) ∧
      ∀ task ∈ taskValues ni.tasks, task.status = .releasing → task.resreq ≤ ni.releasing) := by
  refine ⟨fun ni reach => ?_, fun ni reach bound => ?_⟩
  · have inv : Accounted ni := reach.invariant Accounted (fun node => (accounted_newNodeInfo node).1)
      fun _ _ inv enumerates _ => inv.step enumerates
    exact ⟨inv, fun bound => ⟨inv.used bound ▸ releasingRequested_le_requested,
      fun task mem => inv.used bound ▸ resreq_le_requested mem⟩⟩
  · have inv : Reconciled ni := reach.invariant Reconciled accounted_newNodeInfo
      fun _ _ inv enumerates notPipeline => inv.step enumerates notPipeline
    refine ⟨inv.releasing_eq bound, fun task mem releasing => ?_⟩
    exact inv.releasing_eq bound ▸ TaskInfo.releasingReq_of_releasing releasing ▸
      releasingReq_le_releasingRequested mem

end Mcad.Ledger
