import Mcad.Ledger.Effects

namespace Mcad.Ledger

open Mcad.Api

variable {mode : Underflow} {ni : NodeInfo} {task : TaskInfo}

theorem erase_insert_of_not_mem {ts : Tasks} {key : TaskID} (fresh : key ∉ ts) :
    (ts.insert key task).erase key = ts :=
  AList.ext <| by
    show List.kerase key (ts.insert key task).entries = ts.entries
    rw [AList.insert_entries_of_neg fresh]
    exact List.kerase_cons_eq rfl

theorem add_remove_round_trip (mode : Underflow) (ni : NodeInfo) (task : TaskInfo)
    (fresh : podKey task.pod ∉ ni.tasks)
    (fits : mode = .raw ∨ ni.node = none ∨ (task.resreq ≤ ni.idle ∧ 0 ≤ ni.used ∧ 0 ≤ ni.releasing)) :
    let removed := (ni.addTask mode task).after.removeTask mode task
    removed.err = none ∧ removed.after.idle = ni.idle ∧ removed.after.used = ni.used ∧
      removed.after.releasing = ni.releasing ∧ removed.after.tasks = ni.tasks := by
  intro removed
  have found : ((ni.addTask mode task).after.tasks).lookup (podKey task.pod) = some task := by
    rw [addTask_of_not_mem fresh]; exact AList.lookup_insert _
  simp only [removed, removeTask_of_lookup_some found]
  by_cases bound : ni.node = none
  · simp [addTask_of_not_mem fresh, bound, erase_insert_of_not_mem fresh]
  have added : (ni.addTask mode task).after =
      { ni.chargeTask mode task with tasks := ni.tasks.insert (podKey task.pod) task } := by
    simp [addTask_of_not_mem fresh, bound]
  replace fits : mode = .raw ∨ (task.resreq ≤ ni.idle ∧ 0 ≤ ni.used ∧ 0 ≤ ni.releasing) := by
    simpa [bound] using fits
  have idle := Resource.sub_add_of_le mode (fits.imp_right (·.1))
  have used : (ni.used + task.resreq).sub mode task.resreq = ni.used :=
    Resource.add_sub_of_nonneg mode (fits.imp_right (·.2.1))
  have releasing : (ni.releasing + task.resreq).sub mode task.resreq = ni.releasing :=
    Resource.add_sub_of_nonneg mode (fits.imp_right (·.2.2))
  rw [added]
  simp only [bound, ne_eq, not_false_eq_true, whenBound_of_ne_none, chargeTask_node,
    refundTask_idle, chargeTask_idle, idle, refundTask_used, chargeTask_used, used,
    refundTask_releasing, chargeTask_releasing, TaskInfo.releasingReq, erase_insert_of_not_mem fresh,
    and_true, true_and]
  split_ifs <;> simp [releasing]

theorem add_remove_round_trip_on_spec_node :
    let node : Node := ⟨"node-a", ⟨4000, 8000000000, 0⟩, ⟨4000, 8000000000, 0⟩, ∅, false, []⟩
    let task : TaskInfo := ⟨"default", "t1", ⟨"default", "t1"⟩, .running, ⟨1000, 0, 0⟩, by decide⟩
    ((newNodeInfo (some node)).addTask .clamp task).after.idle = ⟨3000, 8000000000, 0⟩ ∧
      (((newNodeInfo (some node)).addTask .clamp task).after.removeTask .clamp task).after.idle =
        (newNodeInfo (some node)).idle :=
  ⟨by decide, (add_remove_round_trip .clamp _ _ (by decide) (by decide)).2.1⟩

theorem add_remove_clamped_idle :
    let node : Node := ⟨"node-a", ⟨0, 0, 0⟩, ⟨0, 0, 0⟩, ∅, false, []⟩
    let task : TaskInfo := ⟨"default", "t1", ⟨"default", "t1"⟩, .running, ⟨1000, 0, 0⟩, by decide⟩
    podKey task.pod ∉ (newNodeInfo (some node)).tasks ∧
      (((newNodeInfo (some node)).addTask .clamp task).after.removeTask .clamp task).after.idle ≠
        (newNodeInfo (some node)).idle := by
  decide

theorem pipeline_remove_round_trip (mode : Underflow) (ni : NodeInfo) (task : TaskInfo)
    (bound : ni.node ≠ none) (fresh : podKey task.pod ∉ ni.tasks) :
    let removed := (ni.pipelineTask mode task).after.removeTask mode task
    removed.err = none ∧ removed.after.tasks = ni.tasks ∧
      removed.after.idle = ni.idle + task.resreq ∧
      ((mode = .raw ∨ 0 ≤ ni.used) → removed.after.used = ni.used) ∧
      removed.after.releasing =
        if task.status = .releasing then (ni.releasing.sub mode task.resreq).sub mode task.resreq
        else ni.releasing.sub mode task.resreq := by
  intro removed
  have found : ((ni.pipelineTask mode task).after.tasks).lookup (podKey task.pod) = some task := by
    rw [pipelineTask_of_not_mem fresh]; exact AList.lookup_insert _
  have pipelined : (ni.pipelineTask mode task).after =
      { ni.reserveTask mode task with tasks := ni.tasks.insert (podKey task.pod) task } := by
    simp [pipelineTask_of_not_mem fresh, bound]
  simp only [removed, removeTask_of_lookup_some found, pipelined]
  simp [bound, erase_insert_of_not_mem fresh]
  exact fun keeps => Resource.add_sub_of_nonneg mode keeps

theorem pipeline_remove_round_trip_on_spec_node :
    let node : Node := ⟨"node-a", ⟨4000, 8000000000, 0⟩, ⟨4000, 8000000000, 0⟩, ∅, false, []⟩
    let task : TaskInfo := ⟨"default", "t1", ⟨"default", "t1"⟩, .running, ⟨1000, 0, 0⟩, by decide⟩
    (((newNodeInfo (some node)).pipelineTask .clamp task).after.removeTask .clamp task).after.idle =
      ⟨5000, 8000000000, 0⟩ :=
  (pipeline_remove_round_trip .clamp _ _ (by decide) (by decide)).2.2.1

theorem pipeline_remove_raises_idle :
    let node : Node := ⟨"node-a", ⟨4000, 8000000000, 0⟩, ⟨4000, 8000000000, 0⟩, ∅, false, []⟩
    let task : TaskInfo := ⟨"default", "t1", ⟨"default", "t1"⟩, .running, ⟨1000, 0, 0⟩, by decide⟩
    (newNodeInfo (some node)).node ≠ none ∧ podKey task.pod ∉ (newNodeInfo (some node)).tasks ∧
      (((newNodeInfo (some node)).pipelineTask .clamp task).after.removeTask .clamp task).after.idle ≠
        (newNodeInfo (some node)).idle := by
  decide

/-- UpdateTask of a stored task replaces it in the map. On an unbound ledger the pools stay; on a
    bound one they move from the stored task's request to the new one, exactly when the raw
    difference is used or no clamped subtraction would cut a pool. -/
theorem updateTask_pools (mode : Underflow) (ni : NodeInfo) {old ti : TaskInfo}
    (found : ni.tasks.lookup (podKey ti.pod) = some old) :
    let updated := (ni.updateTask mode ti).after
    updated.tasks = (ni.tasks.erase (podKey ti.pod)).insert (podKey ti.pod) ti ∧
    (ni.node = none → updated.idle = ni.idle ∧ updated.used = ni.used ∧ updated.releasing = ni.releasing) ∧
    (ni.node ≠ none → (mode = .raw ∨ old.resreq ≤ ni.used ∧ (old.status = .releasing → old.resreq ≤ ni.releasing) ∧
        ti.resreq ≤ ni.idle + old.resreq) →
      updated.used = ni.used - old.resreq + ti.resreq ∧
      updated.idle = ni.idle + old.resreq - ti.resreq ∧
      updated.releasing = ni.releasing - old.releasingReq + ti.releasingReq) := by
  intro updated
  have erased : podKey ti.pod ∉ ni.tasks.erase (podKey ti.pod) :=
    AList.lookup_eq_none.mp (AList.lookup_erase _ _)
  have steps : updated = { ({ ni.whenBound (·.refundTask mode old) with
      tasks := ni.tasks.erase (podKey ti.pod) }).whenBound (·.chargeTask mode ti) with
      tasks := (ni.tasks.erase (podKey ti.pod)).insert (podKey ti.pod) ti } := by
    simp only [updated, NodeInfo.updateTask, removeTask_of_lookup_some found]
    rw [addTask_of_not_mem erased]
  refine ⟨by rw [steps], fun unbound => ?_, fun bound exact => ?_⟩
  · rw [steps]; simp [unbound]
  · have exactSub {r rr : Resource} (fits : mode = .raw ∨ rr ≤ r) : r.sub mode rr = r - rr :=
      eq_sub_of_add_eq (Resource.sub_add_of_le mode fits)
    obtain ⟨node, attached⟩ := Option.ne_none_iff_exists'.mp bound
    rw [steps]
    simp only [NodeInfo.whenBound, attached, refundTask_node, chargeTask_used, refundTask_used,
      chargeTask_idle, refundTask_idle, chargeTask_releasing, refundTask_releasing,
      exactSub (exact.imp_right (·.1)), exactSub (exact.imp_right (·.2.2)), true_and]
    by_cases releasing : old.status = .releasing
    · rw [if_pos releasing, TaskInfo.releasingReq_of_releasing releasing,
        exactSub (exact.imp_right (·.2.1 releasing))]
    · rw [if_neg releasing, TaskInfo.releasingReq_of_not_releasing releasing, sub_zero]

theorem updateTask_pools_on_spec_node :
    let node : Node := ⟨"node-a", ⟨4000, 8000000000, 0⟩, ⟨4000, 8000000000, 0⟩, ∅, false, []⟩
    let task : TaskInfo := ⟨"default", "t1", ⟨"default", "t1"⟩, .running, ⟨1000, 0, 0⟩, by decide⟩
    let resized : TaskInfo := ⟨"default", "t1", ⟨"default", "t1"⟩, .running, ⟨2500, 0, 0⟩, by decide⟩
    let ni := ((newNodeInfo (some node)).addTask .clamp task).after
    (ni.updateTask .clamp resized).after.idle = ni.idle + task.resreq - resized.resreq := by
  intro node task resized ni
  exact ((updateTask_pools .clamp ni (by decide)).2.2 (by decide)
    (.inr ⟨by decide, by decide, by decide⟩)).2.1

end Mcad.Ledger
