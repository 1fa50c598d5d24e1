import Mcad.Ledger.Accounting

namespace Mcad.Ledger

open Mcad.Api

structure PoolsNonneg (ni : NodeInfo) : Prop where
  idle : 0 ≤ ni.idle
  used : 0 ≤ ni.used
  releasing : 0 ≤ ni.releasing

variable {ni : NodeInfo} {task ti : TaskInfo} {node : Node} {order : List TaskInfo}

theorem PoolsNonneg.whenBound {update : NodeInfo → NodeInfo} (pools : PoolsNonneg ni)
    (keeps : PoolsNonneg (update ni)) : PoolsNonneg (ni.whenBound update) := by
  unfold NodeInfo.whenBound; split
  · exact pools
  · exact keeps

theorem PoolsNonneg.chargeTask (pools : PoolsNonneg ni) : PoolsNonneg (ni.chargeTask .clamp task) :=
  ⟨Resource.clamp_sub_nonneg _ _, add_nonneg pools.used task.resreq_nonneg, by
    rw [chargeTask_releasing]; exact add_nonneg pools.releasing task.releasingReq_nonneg⟩

theorem PoolsNonneg.reserveTask (pools : PoolsNonneg ni) : PoolsNonneg (ni.reserveTask .clamp task) :=
  ⟨pools.idle, add_nonneg pools.used task.resreq_nonneg, Resource.clamp_sub_nonneg _ _⟩

theorem PoolsNonneg.refundTask (pools : PoolsNonneg ni) : PoolsNonneg (ni.refundTask .clamp task) := by
  refine ⟨add_nonneg pools.idle task.resreq_nonneg, Resource.clamp_sub_nonneg _ _, ?_⟩
  rw [refundTask_releasing]; split
  · exact Resource.clamp_sub_nonneg _ _
  · exact pools.releasing

theorem PoolsNonneg.storeTask {update : NodeInfo → NodeInfo} (pools : PoolsNonneg ni)
    (keeps : PoolsNonneg (update ni)) : PoolsNonneg (ni.storeTask task update).after := by
  by_cases dup : podKey task.pod ∈ ni.tasks
  · rwa [storeTask_of_mem dup]
  · have updated := pools.whenBound keeps
    rw [storeTask_of_not_mem dup]
    exact ⟨updated.idle, updated.used, updated.releasing⟩

theorem PoolsNonneg.removeTask (pools : PoolsNonneg ni) : PoolsNonneg (ni.removeTask .clamp ti).after := by
  cases found : ni.tasks.lookup (podKey ti.pod) with
  | none => rwa [removeTask_of_lookup_none found]
  | some task =>
    have refunded : PoolsNonneg (ni.whenBound (·.refundTask .clamp task)) :=
      pools.whenBound pools.refundTask
    rw [removeTask_of_lookup_some found]
    exact ⟨refunded.idle, refunded.used, refunded.releasing⟩

theorem PoolsNonneg.updateTask (pools : PoolsNonneg ni) : PoolsNonneg (ni.updateTask .clamp ti).after := by
  rcases updateTask_cases .clamp ni ti with ⟨-, updated⟩ | ⟨-, updated⟩ <;> rw [updated]
  · exact pools.removeTask
  · exact pools.removeTask.storeTask pools.removeTask.chargeTask

theorem foldl_clamp_sub_nonneg {idle : Resource} (start : 0 ≤ idle) :
    0 ≤ order.foldl (fun idle task => idle.sub .clamp task.resreq) idle := by
  induction order generalizing idle with
  | nil => exact start
  | cons task order ih => exact ih (Resource.clamp_sub_nonneg _ _)

theorem PoolsNonneg.setNode (pools : PoolsNonneg ni) (nonneg : 0 ≤ node.allocatable) :
    PoolsNonneg (ni.setNode .clamp node order) := by
  by_cases bound : ni.node = none
  · refine ⟨?_, ?_, ?_⟩
    · rw [(setNode_of_none bound).2.2]; exact foldl_clamp_sub_nonneg nonneg
    · rw [(setNode_of_none bound).1]; exact add_nonneg pools.used requested_nonneg
    · rw [(setNode_of_none bound).2.1]; exact add_nonneg pools.releasing releasingRequested_nonneg
  · refine ⟨?_, ?_, ?_⟩
    · rw [(setNode_of_ne_none bound).2.2]; exact pools.idle
    · rw [(setNode_of_ne_none bound).1]; exact pools.used
    · rw [(setNode_of_ne_none bound).2.1]; exact pools.releasing

theorem PoolsNonneg.step {call : Call} (pools : PoolsNonneg ni)
    (nonneg : ∀ node order, call = .setNode node order → 0 ≤ node.allocatable) :
    PoolsNonneg (call.apply .clamp ni) := by
  cases call with
  | setNode node order => exact pools.setNode (nonneg node order rfl)
  | addTask task => exact pools.storeTask pools.chargeTask
  | pipelineTask task => exact pools.storeTask pools.reserveTask
  | removeTask task => exact pools.removeTask
  | updateTask task => exact pools.updateTask

theorem PoolsNonneg.foldl {calls : List Call} (pools : PoolsNonneg ni)
    (nonneg : ∀ node order, Call.setNode node order ∈ calls → 0 ≤ node.allocatable) :
    PoolsNonneg (calls.foldl (fun ni call => call.apply .clamp ni) ni) := by
  induction calls generalizing ni with
  | nil => exact pools
  | cons call calls ih =>
    exact ih (pools.step fun node order same => nonneg node order (same ▸ List.mem_cons_self _ _))
      fun node order mem => nonneg node order (List.mem_cons_of_mem _ mem)

theorem poolsNonneg_newNodeInfo {start : Option Node}
    (nonneg : ∀ node, start = some node → 0 ≤ node.allocatable) : PoolsNonneg (newNodeInfo start) := by
  cases start with
  | none => exact ⟨le_rfl, le_rfl, le_rfl⟩
  | some node => exact ⟨nonneg node rfl, le_rfl, le_rfl⟩

/-- Under the clamping reading of `Resource.Sub` no pool ever goes negative: over every sequence of
    calls, failed ones included, from `NewNodeInfo` of a node with non-negative `Allocatable` (or of
    nil), as long as every node that `SetNode` binds has non-negative `Allocatable`. -/
theorem clamped_pools_stay_nonneg (start : Option Node) (calls : List Call)
    (startNonneg : ∀ node, start = some node → 0 ≤ node.allocatable)
    (nodesNonneg : ∀ node order, Call.setNode node order ∈ calls → 0 ≤ node.allocatable) :
    let ni := calls.foldl (fun ni call => call.apply .clamp ni) (newNodeInfo start)
    0 ≤ ni.idle ∧ 0 ≤ ni.used ∧ 0 ≤ ni.releasing := by
  have pools := (poolsNonneg_newNodeInfo startNonneg).foldl nodesNonneg
  exact ⟨pools.idle, pools.used, pools.releasing⟩

theorem clamped_pools_stay_nonneg_on_spec_node :
    let node : Node := ⟨"node-a", ⟨4000, 8000000000, 0⟩, ⟨4000, 8000000000, 0⟩, ∅, false, []⟩
    let task : TaskInfo := ⟨"default", "t1", ⟨"default", "t1"⟩, .releasing, ⟨5000, 0, 0⟩, by decide⟩
    let ni := [Call.pipelineTask task, .removeTask task, .addTask task].foldl
      (fun ni call => call.apply .clamp ni) (newNodeInfo (some node))
    0 ≤ ni.idle ∧ 0 ≤ ni.used ∧ 0 ≤ ni.releasing := by
  intro node task
  exact clamped_pools_stay_nonneg (some node) [.pipelineTask task, .removeTask task, .addTask task]
    (fun _ same => by cases same; decide) (fun _ _ mem => by simp at mem)

end Mcad.Ledger
