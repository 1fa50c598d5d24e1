import Mcad.Ledger.Balance

namespace Mcad.Ledger

open Mcad.Api

variable {mode m : Underflow} {ni : NodeInfo} {task ti : TaskInfo} {node : Node}
  {order : List TaskInfo}

theorem chargeTask_of_room (room : task.resreq ≤ ni.idle) :
    ni.chargeTask mode task = ni.chargeTask .raw task := by
  simp only [NodeInfo.chargeTask, Resource.sub_of_le mode room, Resource.sub_raw]

theorem refundTask_of_covered (fits : task.resreq ≤ ni.used)
    (covered : task.status = .releasing → task.resreq ≤ ni.releasing) :
    ni.refundTask mode task = ni.refundTask .raw task := by
  unfold NodeInfo.refundTask
  split_ifs with releasing
  · simp only [Resource.sub_of_le mode fits, Resource.sub_of_le mode (covered releasing), Resource.sub_raw]
  · simp only [Resource.sub_of_le mode fits, Resource.sub_raw]

theorem foldl_chargeTask_of_room (fits : requested order ≤ ni.idle) :
    order.foldl (NodeInfo.chargeTask mode) ni = order.foldl (NodeInfo.chargeTask .raw) ni := by
  induction order generalizing ni with
  | nil => rfl
  | cons task order ih =>
    have room : task.resreq ≤ ni.idle := le_trans (le_add_of_nonneg_right requested_nonneg) fits
    have rest : requested order ≤ (ni.chargeTask .raw task).idle := by
      rw [chargeTask_idle, Resource.sub_raw, le_sub_iff_add_le, add_comm]; simpa using fits
    rw [List.foldl_cons, List.foldl_cons, chargeTask_of_room room, ih rest]

theorem room_of_within (accounted : Accounted ni) (balanced : Balanced ni)
    (fresh : podKey task.pod ∉ ni.tasks) (bound : ni.node ≠ none)
    (within : WithinAllocatable (ni.addTask m task).after) : task.resreq ≤ ni.idle := by
  obtain ⟨node, attached⟩ := Option.ne_none_iff_exists'.mp bound
  have fits := within node (by simpa using attached)
  simp only [addTask_of_not_mem fresh, taskValues_insert fresh, requested_cons,
    ← balanced.allocatable node attached] at fits
  rw [← add_le_add_iff_right ni.used, balanced.balance bound, accounted.used bound]
  exact fits

theorem addTask_of_within (accounted : Accounted ni) (balanced : Balanced ni)
    (within : WithinAllocatable (ni.addTask m task).after) : ni.addTask mode task = ni.addTask .raw task := by
  by_cases dup : podKey task.pod ∈ ni.tasks
  · rw [addTask_of_mem dup, addTask_of_mem dup]
  rw [addTask_of_not_mem dup, addTask_of_not_mem dup]
  by_cases bound : ni.node = none
  · simp only [whenBound_of_none bound]
  · rw [whenBound_of_ne_none bound, whenBound_of_ne_none bound,
      chargeTask_of_room (room_of_within accounted balanced dup bound within)]

theorem removeTask_of_reconciled (reconciled : Reconciled ni) :
    ni.removeTask mode ti = ni.removeTask .raw ti := by
  cases found : ni.tasks.lookup (podKey ti.pod) with
  | none => rw [removeTask_of_lookup_none found, removeTask_of_lookup_none found]
  | some task =>
    rw [removeTask_of_lookup_some found, removeTask_of_lookup_some found]
    by_cases bound : ni.node = none
    · simp only [whenBound_of_none bound]
    have mem : task ∈ taskValues ni.tasks := List.mem_map_of_mem _ (AList.mem_lookup_iff.mp found)
    have fits : task.resreq ≤ ni.used := reconciled.used bound ▸ resreq_le_requested mem
    have covered (releasing : task.status = .releasing) : task.resreq ≤ ni.releasing := by
      rw [reconciled.releasing_eq bound, ← TaskInfo.releasingReq_of_releasing releasing]
      exact releasingReq_le_releasingRequested mem
    rw [whenBound_of_ne_none bound, whenBound_of_ne_none bound, refundTask_of_covered fits covered]

theorem updateTask_of_within (reconciled : Reconciled ni) (balanced : Balanced ni)
    (within : WithinAllocatable (ni.updateTask m ti).after) : ni.updateTask mode ti = ni.updateTask .raw ti := by
  have removed (mode' : Underflow) : ni.removeTask mode' ti = ni.removeTask .raw ti :=
    removeTask_of_reconciled reconciled
  unfold NodeInfo.updateTask at within ⊢
  rw [removed mode]
  rw [removed m] at within
  cases failed : (ni.removeTask .raw ti).err with
  | some err => simp only [failed]
  | none =>
    simp only [failed] at within ⊢
    exact addTask_of_within reconciled.removeTask.toAccounted (balanced.removeTask reconciled.toAccounted) within

theorem setNode_of_within (enumerates : order.Perm (taskValues ni.tasks))
    (within : WithinAllocatable (ni.setNode m node order)) :
    ni.setNode mode node order = ni.setNode .raw node order := by
  have fits : requested order ≤ node.allocatable := by
    simpa [requested_perm enumerates] using within node rfl
  have room : requested order ≤ ({ ni with idle := node.allocatable } : NodeInfo).idle := fits
  unfold NodeInfo.setNode
  rw [foldl_chargeTask_of_room room]

theorem Call.apply_of_keepsAllocatable {call : Call} (reconciled : Reconciled ni) (balanced : Balanced ni)
    (enumerates : call.Enumerates ni) (admitted : keepsAllocatable m ni call) :
    call.apply mode ni = call.apply .raw ni := by
  obtain ⟨⟨notPipeline, within⟩, -⟩ := admitted
  cases call with
  | setNode node order => exact setNode_of_within enumerates within
  | addTask task => exact congrArg Outcome.after (addTask_of_within reconciled.toAccounted balanced within)
  | pipelineTask task => cases notPipeline
  | removeTask ti => exact congrArg Outcome.after (removeTask_of_reconciled reconciled)
  | updateTask ti => exact congrArg Outcome.after (updateTask_of_within reconciled balanced within)

theorem keepsAllocatable_congr {call : Call} (same : call.apply mode ni = call.apply m ni) :
    keepsAllocatable mode ni call ↔ keepsAllocatable m ni call := by
  simp only [keepsAllocatable, withinAllocatable, same]

structure InBounds (ni : NodeInfo) : Prop where
  reconciled : Reconciled ni
  balanced : Balanced ni

theorem InBounds.step {call : Call} (inv : InBounds ni) (enumerates : call.Enumerates ni)
    (admitted : keepsAllocatable mode ni call) : InBounds (call.apply mode ni) :=
  ⟨inv.reconciled.step enumerates admitted.1.1, inv.balanced.step inv.reconciled.toAccounted enumerates admitted⟩

theorem inBounds_of_reachable (reach : Reachable mode (keepsAllocatable mode) ni) : InBounds ni :=
  reach.invariant InBounds (fun node => ⟨accounted_newNodeInfo node, balanced_newNodeInfo node⟩)
    fun _ _ inv enumerates admitted => inv.step enumerates admitted

theorem Reachable.of_other_mode {mode' : Underflow} (reach : Reachable mode (keepsAllocatable mode) ni) :
    Reachable mode' (keepsAllocatable mode') ni := by
  induction reach with
  | start node => exact .start node
  | @step ni call reach enumerates admitted ih =>
    have inv := inBounds_of_reachable reach
    have exactStep (other : Underflow) : call.apply other ni = call.apply .raw ni :=
      Call.apply_of_keepsAllocatable inv.reconciled inv.balanced enumerates admitted
    have same : call.apply mode' ni = call.apply mode ni := (exactStep mode').trans (exactStep mode).symm
    rw [← same]
    exact .step ih enumerates ((keepsAllocatable_congr same).mpr admitted)

/-- On the runs that keep the stored requests within the bound node, no subtraction underflows:
    with either underflow behaviour of Sub the same ledgers are reachable, and every call computes
    the ledger exact arithmetic gives. -/
theorem exact_arithmetic_within_allocatable (mode : Underflow) :
    (∀ ni, Reachable mode (keepsAllocatable mode) ni ↔ Reachable .raw (keepsAllocatable .raw) ni) ∧
    ∀ ni call, Reachable mode (keepsAllocatable mode) ni → call.Enumerates ni →
      keepsAllocatable mode ni call → call.apply mode ni = call.apply .raw ni := by
  refine ⟨fun ni => ⟨Reachable.of_other_mode, Reachable.of_other_mode⟩,
    fun ni call reach enumerates admitted => ?_⟩
  have inv := inBounds_of_reachable reach
  exact Call.apply_of_keepsAllocatable inv.reconciled inv.balanced enumerates admitted

end Mcad.Ledger
