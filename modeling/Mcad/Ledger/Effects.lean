import Mcad.Api.NodeInfo

namespace Mcad.Ledger

open Mcad.Api

variable {mode : Underflow} {ni : NodeInfo} {task ti : TaskInfo} {node : Node}
  {order : List TaskInfo}

variable {update : NodeInfo → NodeInfo}

theorem storeTask_of_mem (dup : podKey task.pod ∈ ni.tasks) :
    ni.storeTask task update = ⟨ni, some (alreadyOnNode task ni)⟩ := if_pos dup

theorem storeTask_of_not_mem (fresh : podKey task.pod ∉ ni.tasks) :
    ni.storeTask task update =
      ⟨{ ni.whenBound update with tasks := ni.tasks.insert (podKey task.pod) task }, none⟩ := if_neg fresh

theorem addTask_of_mem (dup : podKey task.pod ∈ ni.tasks) :
    ni.addTask mode task = ⟨ni, some (alreadyOnNode task ni)⟩ := storeTask_of_mem dup

theorem addTask_of_not_mem (fresh : podKey task.pod ∉ ni.tasks) :
    ni.addTask mode task =
      ⟨{ ni.whenBound (·.chargeTask mode task) with
        tasks := ni.tasks.insert (podKey task.pod) task }, none⟩ := storeTask_of_not_mem fresh

theorem pipelineTask_of_mem (dup : podKey task.pod ∈ ni.tasks) :
    ni.pipelineTask mode task = ⟨ni, some (alreadyOnNode task ni)⟩ := storeTask_of_mem dup

theorem pipelineTask_of_not_mem (fresh : podKey task.pod ∉ ni.tasks) :
    ni.pipelineTask mode task =
      ⟨{ ni.whenBound (·.reserveTask mode task) with
        tasks := ni.tasks.insert (podKey task.pod) task }, none⟩ := storeTask_of_not_mem fresh

theorem removeTask_of_lookup_none (missing : ni.tasks.lookup (podKey ti.pod) = none) :
    ni.removeTask mode ti = ⟨ni, some (notFoundOnHost ti ni)⟩ := by
  simp only [NodeInfo.removeTask, missing]

theorem removeTask_of_lookup_some (found : ni.tasks.lookup (podKey ti.pod) = some task) :
    ni.removeTask mode ti =
      ⟨{ ni.whenBound (·.refundTask mode task) with tasks := ni.tasks.erase (podKey ti.pod) }, none⟩ := by
  simp only [NodeInfo.removeTask, found]

theorem updateTask_cases (mode : Underflow) (ni : NodeInfo) (ti : TaskInfo) :
    ((ni.removeTask mode ti).err.isSome ∧ ni.updateTask mode ti = ni.removeTask mode ti) ∨
    ((ni.removeTask mode ti).err = none ∧
      ni.updateTask mode ti = (ni.removeTask mode ti).after.addTask mode ti) := by
  unfold NodeInfo.updateTask
  cases failed : (ni.removeTask mode ti).err <;> simp [failed]

theorem storeTask_frame (keeps : ∀ ni, (update ni).node = ni.node ∧ (update ni).allocatable = ni.allocatable) :
    (ni.storeTask task update).after.node = ni.node ∧
    (ni.storeTask task update).after.allocatable = ni.allocatable := by
  by_cases dup : podKey task.pod ∈ ni.tasks
  · simp [storeTask_of_mem dup]
  · simp [storeTask_of_not_mem dup, fun ni => (keeps ni).1, fun ni => (keeps ni).2]

@[simp] theorem addTask_frame :
    (ni.addTask mode task).after.node = ni.node ∧
    (ni.addTask mode task).after.allocatable = ni.allocatable :=
  storeTask_frame fun _ => ⟨rfl, rfl⟩

@[simp] theorem pipelineTask_frame :
    (ni.pipelineTask mode task).after.node = ni.node ∧
    (ni.pipelineTask mode task).after.allocatable = ni.allocatable :=
  storeTask_frame fun _ => ⟨rfl, rfl⟩

@[simp] theorem removeTask_frame :
    (ni.removeTask mode ti).after.node = ni.node ∧
    (ni.removeTask mode ti).after.allocatable = ni.allocatable := by
  cases found : ni.tasks.lookup (podKey ti.pod)
  · simp [removeTask_of_lookup_none found]
  · simp [removeTask_of_lookup_some found]

@[simp] theorem updateTask_frame :
    (ni.updateTask mode ti).after.node = ni.node ∧
    (ni.updateTask mode ti).after.allocatable = ni.allocatable := by
  rcases updateTask_cases mode ni ti with ⟨-, updated⟩ | ⟨-, updated⟩ <;> simp [updated]

theorem addTask_tasks : (ni.addTask mode task).after.tasks =
    if podKey task.pod ∈ ni.tasks then ni.tasks else ni.tasks.insert (podKey task.pod) task := by
  by_cases dup : podKey task.pod ∈ ni.tasks
  · simp [addTask_of_mem dup, dup]
  · simp [addTask_of_not_mem dup, dup]

theorem removeTask_tasks : (ni.removeTask mode ti).after.tasks = ni.tasks.erase (podKey ti.pod) := by
  cases found : ni.tasks.lookup (podKey ti.pod)
  · rw [removeTask_of_lookup_none found]
    exact (AList.ext (List.kerase_of_not_mem_keys (AList.lookup_eq_none.mp found))).symm
  · simp [removeTask_of_lookup_some found]

theorem updateTask_tasks : (ni.updateTask mode ti).after.tasks =
    if podKey ti.pod ∈ ni.tasks then (ni.tasks.erase (podKey ti.pod)).insert (podKey ti.pod) ti
    else ni.tasks := by
  cases found : ni.tasks.lookup (podKey ti.pod) with
  | none => simp only [NodeInfo.updateTask, removeTask_of_lookup_none found,
      if_neg (AList.lookup_eq_none.mp found)]
  | some task =>
    have stored : podKey ti.pod ∈ ni.tasks := AList.lookup_isSome.mp (by rw [found]; rfl)
    have erased : podKey ti.pod ∉ ni.tasks.erase (podKey ti.pod) :=
      AList.lookup_eq_none.mp (AList.lookup_erase _ _)
    simp only [NodeInfo.updateTask, removeTask_of_lookup_some found, addTask_tasks, if_neg erased,
      if_pos stored]

@[simp] theorem foldl_chargeTask_node :
    (order.foldl (NodeInfo.chargeTask mode) ni).node = ni.node := by
  induction order generalizing ni <;> simp [*]

@[simp] theorem foldl_chargeTask_tasks :
    (order.foldl (NodeInfo.chargeTask mode) ni).tasks = ni.tasks := by
  induction order generalizing ni <;> simp [*]

@[simp] theorem foldl_chargeTask_used :
    (order.foldl (NodeInfo.chargeTask mode) ni).used = ni.used + requested order := by
  induction order generalizing ni <;> simp [*, add_assoc]

@[simp] theorem foldl_chargeTask_releasing :
    (order.foldl (NodeInfo.chargeTask mode) ni).releasing =
      ni.releasing + releasingRequested order := by
  induction order generalizing ni <;> simp [*, add_assoc]

@[simp] theorem foldl_chargeTask_idle :
    (order.foldl (NodeInfo.chargeTask mode) ni).idle =
      order.foldl (fun idle task => idle.sub mode task.resreq) ni.idle := by
  induction order generalizing ni <;> simp [*]

@[simp] theorem setNode_node : (ni.setNode mode node order).node = some node := rfl

@[simp] theorem setNode_allocatable : (ni.setNode mode node order).allocatable = node.allocatable :=
  rfl

@[simp] theorem setNode_tasks : (ni.setNode mode node order).tasks = ni.tasks := by
  unfold NodeInfo.setNode; split <;> simp

theorem setNode_of_none (unbound : ni.node = none) :
    (ni.setNode mode node order).used = ni.used + requested order ∧
    (ni.setNode mode node order).releasing = ni.releasing + releasingRequested order ∧
    (ni.setNode mode node order).idle =
      order.foldl (fun idle task => idle.sub mode task.resreq) node.allocatable := by
  simp [NodeInfo.setNode, unbound]

theorem setNode_of_ne_none (bound : ni.node ≠ none) :
    (ni.setNode mode node order).used = ni.used ∧
    (ni.setNode mode node order).releasing = ni.releasing ∧
    (ni.setNode mode node order).idle = ni.idle := by
  unfold NodeInfo.setNode; split
  · contradiction
  · exact ⟨rfl, rfl, rfl⟩

theorem storeTask_err_eq_none_iff :
    (ni.storeTask task update).err = none ↔ podKey task.pod ∉ ni.tasks := by
  by_cases dup : podKey task.pod ∈ ni.tasks
  · simp [storeTask_of_mem dup, dup]
  · simp [storeTask_of_not_mem dup, dup]

theorem removeTask_err_eq_none_iff : (ni.removeTask mode ti).err = none ↔ podKey ti.pod ∈ ni.tasks := by
  cases found : ni.tasks.lookup (podKey ti.pod) with
  | none => simp [removeTask_of_lookup_none found, AList.lookup_eq_none.mp found]
  | some task => simp [removeTask_of_lookup_some found, AList.lookup_isSome.mp (by rw [found]; rfl)]

/-- The AddTask of UpdateTask cannot fail: its RemoveTask leaves the key out of the map, whether or
    not it found the task. -/
theorem addTask_after_removeTask : ((ni.removeTask mode ti).after.addTask mode ti).err = none :=
  storeTask_err_eq_none_iff.mpr <| by
    rw [removeTask_tasks]; exact AList.lookup_eq_none.mp (AList.lookup_erase _ _)

theorem updateTask_err_eq_none_iff : (ni.updateTask mode ti).err = none ↔ podKey ti.pod ∈ ni.tasks := by
  rcases updateTask_cases mode ni ti with ⟨-, updated⟩ | ⟨removed, updated⟩
  · rw [updated, removeTask_err_eq_none_iff]
  · rw [updated, addTask_after_removeTask]
    exact iff_of_true rfl (removeTask_err_eq_none_iff.mp removed)

theorem storeTask_unchanged_of_err (failed : (ni.storeTask task update).err ≠ none) :
    (ni.storeTask task update).after = ni := by
  rw [storeTask_of_mem (not_not.mp (mt storeTask_err_eq_none_iff.mpr failed))]

theorem removeTask_unchanged_of_err (failed : (ni.removeTask mode ti).err ≠ none) :
    (ni.removeTask mode ti).after = ni := by
  rw [removeTask_of_lookup_none (AList.lookup_eq_none.mpr (mt removeTask_err_eq_none_iff.mpr failed))]

theorem updateTask_unchanged_of_err (failed : (ni.updateTask mode ti).err ≠ none) :
    (ni.updateTask mode ti).after = ni := by
  have missing : podKey ti.pod ∉ ni.tasks := mt updateTask_err_eq_none_iff.mpr failed
  rcases updateTask_cases mode ni ti with ⟨-, updated⟩ | ⟨removed, -⟩
  · rw [updated]; exact removeTask_unchanged_of_err (mt removeTask_err_eq_none_iff.mp missing)
  · exact absurd (removeTask_err_eq_none_iff.mp removed) missing

theorem updateTask_lookup (stored : podKey ti.pod ∈ ni.tasks) :
    (ni.updateTask mode ti).after.tasks.lookup (podKey ti.pod) = some ti := by
  rw [updateTask_tasks, if_pos stored, AList.lookup_insert]

theorem task_call_errors_leave_ledger (mode : Underflow) (ni : NodeInfo) (task : TaskInfo) :
    ((ni.addTask mode task).err ≠ none ↔ podKey task.pod ∈ ni.tasks) ∧
    ((ni.pipelineTask mode task).err ≠ none ↔ podKey task.pod ∈ ni.tasks) ∧
    ((ni.removeTask mode task).err ≠ none ↔ podKey task.pod ∉ ni.tasks) ∧
    ((ni.updateTask mode task).err ≠ none ↔ podKey task.pod ∉ ni.tasks) ∧
    ((ni.addTask mode task).err ≠ none → (ni.addTask mode task).after = ni) ∧
    ((ni.pipelineTask mode task).err ≠ none → (ni.pipelineTask mode task).after = ni) ∧
    ((ni.removeTask mode task).err ≠ none → (ni.removeTask mode task).after = ni) ∧
    ((ni.updateTask mode task).err ≠ none → (ni.updateTask mode task).after = ni) ∧
    (podKey task.pod ∈ ni.tasks →
      (ni.updateTask mode task).after.tasks.lookup (podKey task.pod) = some task) :=
  ⟨storeTask_err_eq_none_iff.not.trans not_not, storeTask_err_eq_none_iff.not.trans not_not,
    removeTask_err_eq_none_iff.not, updateTask_err_eq_none_iff.not, storeTask_unchanged_of_err,
    storeTask_unchanged_of_err, removeTask_unchanged_of_err, updateTask_unchanged_of_err,
    updateTask_lookup⟩

end Mcad.Ledger
