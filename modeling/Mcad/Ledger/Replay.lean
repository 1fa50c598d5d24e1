import Mcad.Ledger.Balance
import Mcad.Ledger.Clone

namespace Mcad.Ledger

open Mcad.Api

/-- The calls that leave the bound node alone. -/
inductive TaskCall where
  | addTask (task : TaskInfo)
  | removeTask (task : TaskInfo)
  | updateTask (task : TaskInfo)

def TaskCall.toCall : TaskCall → Call
  | .addTask task => .addTask task
  | .removeTask task => .removeTask task
  | .updateTask task => .updateTask task

def replay (mode : Underflow) (calls : List TaskCall) (ni : NodeInfo) : NodeInfo :=
  calls.foldl (fun ni call => call.toCall.apply mode ni) ni

variable {mode : Underflow} {ni other : NodeInfo} {calls : List TaskCall} {node : Node}

@[simp] theorem replay_nil : replay mode [] ni = ni := rfl

@[simp] theorem replay_cons {call : TaskCall} :
    replay mode (call :: calls) ni = replay mode calls (call.toCall.apply mode ni) := rfl

theorem TaskCall.tasks_congr (call : TaskCall) (same : ni.tasks = other.tasks) :
    (call.toCall.apply mode ni).tasks = (call.toCall.apply mode other).tasks := by
  cases call <;> simp [TaskCall.toCall, Call.apply, addTask_tasks, removeTask_tasks,
    updateTask_tasks, same]

@[simp] theorem TaskCall.frame (call : TaskCall) :
    (call.toCall.apply mode ni).node = ni.node ∧
    (call.toCall.apply mode ni).allocatable = ni.allocatable := by
  cases call <;> simp [TaskCall.toCall, Call.apply]

theorem TaskCall.enumerates (call : TaskCall) : call.toCall.Enumerates ni := by
  cases call <;> trivial

theorem replay_tasks_congr (same : ni.tasks = other.tasks) :
    (replay mode calls ni).tasks = (replay mode calls other).tasks := by
  induction calls generalizing ni other with
  | nil => exact same
  | cons call calls ih => exact ih (call.tasks_congr same)

@[simp] theorem replay_frame :
    (replay mode calls ni).node = ni.node ∧ (replay mode calls ni).allocatable = ni.allocatable := by
  induction calls generalizing ni with
  | nil => exact ⟨rfl, rfl⟩
  | cons call calls ih => simp [ih]

theorem Keyed.replay (keyed : Keyed ni.tasks) : Keyed (replay mode calls ni).tasks := by
  induction calls generalizing ni with
  | nil => exact keyed
  | cons call calls ih => exact ih keyed.step

theorem Accounted.replay (accounted : Accounted ni) : Accounted (replay mode calls ni) := by
  induction calls generalizing ni with
  | nil => exact accounted
  | cons call calls ih => exact ih (accounted.step call.enumerates)

theorem replay_balanced (reconciled : Reconciled ni) (balanced : Balanced ni)
    (attached : ni.node = some node)
    (within : ∀ k ≤ calls.length,
      requested (taskValues (replay mode (calls.take k) ni).tasks) ≤ node.allocatable) :
    Reconciled (replay mode calls ni) ∧ Balanced (replay mode calls ni) := by
  induction calls generalizing ni with
  | nil => exact ⟨reconciled, balanced⟩
  | cons call calls ih =>
    have still : (call.toCall.apply mode ni).node = some node := by simp [attached]
    have first : WithinAllocatable (call.toCall.apply mode ni) := by
      intro node' attached'
      rw [still, Option.some.injEq] at attached'
      subst attached'
      simpa using within 1 (by simp)
    have notPipeline : call.toCall.isPipeline = false := by cases call <;> rfl
    have admitted : keepsAllocatable mode ni call.toCall :=
      ⟨⟨notPipeline, first⟩, fun _ _ setNode => by cases call <;> cases setNode⟩
    exact ih (reconciled.step call.enumerates notPipeline)
      (balanced.step reconciled.toAccounted call.enumerates admitted) still
      fun k bounded => by simpa using within (k + 1) (by simpa using bounded)

theorem clone_rebuilds {w : NodeInfo} {order : List TaskInfo} (keyed : Keyed w.tasks)
    (enumerates : order.Perm (taskValues w.tasks)) (attached : w.node = some node)
    (fits : requested (taskValues w.tasks) ≤ node.allocatable) :
    (w.clone mode order).idle = node.allocatable - requested (taskValues w.tasks) ∧
    (w.clone mode order).used = requested (taskValues w.tasks) ∧
    (w.clone mode order).releasing = releasingRequested (taskValues w.tasks) ∧
    ∀ key, (w.clone mode order).tasks.lookup key = w.tasks.lookup key := by
  obtain ⟨entries, -, bound⟩ := clone_of_distinct mode keyed.podKeys_nodup enumerates
  obtain ⟨used, releasing, idle⟩ := bound node attached
  refine ⟨?_, used, releasing, fun key => ?_⟩
  · rw [idle, foldl_sub_of_le (by rwa [requested_perm enumerates]), requested_perm enumerates]
  · have same : (w.clone mode order).tasks.entries.Perm w.tasks.entries := by
      rw [keyed.entries_eq]; exact entries
    exact AList.perm_lookup same

theorem Balanced.idle_eq (balanced : Balanced ni) (reconciled : Reconciled ni)
    (attached : ni.node = some node) : ni.idle = node.allocatable - requested (taskValues ni.tasks) := by
  have bound : ni.node ≠ none := by simp [attached]
  rw [← reconciled.used bound, ← balanced.allocatable node attached, ← balanced.balance bound,
    add_sub_cancel_right]

theorem Reconciled.sameLedger_clone {w : NodeInfo} {order : List TaskInfo} (reconciled : Reconciled ni)
    (balanced : Balanced ni) (keyed : Keyed ni.tasks) (attached : ni.node = some node)
    (fits : requested (taskValues ni.tasks) ≤ node.allocatable) (tasks : w.tasks = ni.tasks)
    (attached' : w.node = some node) (enumerates : order.Perm (taskValues w.tasks)) :
    SameLedger ni (w.clone mode order) := by
  rw [tasks] at enumerates
  obtain ⟨idle, used, releasing, lookup⟩ :=
    clone_rebuilds (tasks ▸ keyed) (tasks ▸ enumerates) attached' (tasks ▸ fits)
  rw [tasks] at idle used releasing lookup
  have bound : ni.node ≠ none := by simp [attached]
  exact ⟨(balanced.idle_eq reconciled attached).trans idle.symm, (reconciled.used bound).trans used.symm,
    (reconciled.releasing_eq bound).trans releasing.symm, fun key => (lookup key).symm⟩

theorem Reconciled.sameLedger_setNode {w : NodeInfo} {order : List TaskInfo} (reconciled : Reconciled ni)
    (balanced : Balanced ni) (attached : ni.node = some node)
    (fits : requested (taskValues ni.tasks) ≤ node.allocatable) (accounted : Accounted w)
    (unbound : w.node = none) (tasks : w.tasks = ni.tasks) (enumerates : order.Perm (taskValues w.tasks)) :
    SameLedger ni (w.setNode mode node order) := by
  rw [tasks] at enumerates
  obtain ⟨-, empty, emptyReleasing⟩ := accounted.unbound unbound
  have bound : ni.node ≠ none := by simp [attached]
  have orderFits : requested order ≤ node.allocatable := by rwa [requested_perm enumerates]
  refine ⟨?_, ?_, ?_, fun key => by rw [setNode_tasks, tasks]⟩
  · rw [(setNode_of_none unbound).2.2, foldl_sub_of_le orderFits, balanced.idle_eq reconciled attached,
      requested_perm enumerates]
  · rw [(setNode_of_none unbound).1, empty, zero_add, reconciled.used bound, requested_perm enumerates]
  · rw [(setNode_of_none unbound).2.1, emptyReleasing, zero_add, reconciled.releasing_eq bound,
      releasingRequested_perm enumerates]

theorem replay_paths_agree (mode : Underflow) (node : Node) (calls : List TaskCall)
    (within : ∀ k ≤ calls.length,
      requested (taskValues (replay mode (calls.take k) (newNodeInfo (some node))).tasks) ≤
        node.allocatable)
    (bindOrder order₁ order₂ : List TaskInfo)
    (bindEnumerates : bindOrder.Perm (taskValues (replay mode calls (newNodeInfo none)).tasks))
    (enumerates₁ : order₁.Perm (taskValues (replay mode calls (newNodeInfo (some node))).tasks))
    (enumerates₂ : order₂.Perm
      (taskValues ((replay mode calls (newNodeInfo none)).setNode mode node bindOrder).tasks)) :
    SameLedger (replay mode calls (newNodeInfo (some node)))
        ((replay mode calls (newNodeInfo none)).setNode mode node bindOrder) ∧
    SameLedger (replay mode calls (newNodeInfo (some node)))
        ((replay mode calls (newNodeInfo (some node))).clone mode order₁) ∧
    SameLedger (replay mode calls (newNodeInfo (some node)))
        (((replay mode calls (newNodeInfo none)).setNode mode node bindOrder).clone mode order₂) := by
  have sameTasks : (replay mode calls (newNodeInfo none)).tasks =
      (replay mode calls (newNodeInfo (some node))).tasks := replay_tasks_congr rfl
  have attached : (replay mode calls (newNodeInfo (some node))).node = some node := by
    simp [newNodeInfo]
  have fits : requested (taskValues (replay mode calls (newNodeInfo (some node))).tasks) ≤
      node.allocatable := by simpa using within calls.length le_rfl
  have keyed : Keyed (replay mode calls (newNodeInfo (some node))).tasks :=
    Keyed.replay (by simp [Keyed, newNodeInfo])
  obtain ⟨reconciled, balanced⟩ :=
    replay_balanced (accounted_newNodeInfo (some node)) (balanced_newNodeInfo _) rfl within
  exact ⟨reconciled.sameLedger_setNode balanced attached fits
      (Accounted.replay (accounted_newNodeInfo none).toAccounted) (by simp [newNodeInfo]) sameTasks
      bindEnumerates,
    reconciled.sameLedger_clone balanced keyed attached fits rfl attached enumerates₁,
    reconciled.sameLedger_clone balanced keyed attached fits (by rw [setNode_tasks, sameTasks]) rfl
      enumerates₂⟩

theorem replay_paths_agree_on_spec_node :
    let node : Node := ⟨"node-a", ⟨4000, 8000000000, 0⟩, ⟨4000, 8000000000, 0⟩, ∅, false, []⟩
    let task : TaskInfo := ⟨"default", "t1", ⟨"default", "t1"⟩, .running, ⟨1000, 0, 0⟩, by decide⟩
    SameLedger (replay .clamp [.addTask task] (newNodeInfo (some node)))
      ((replay .clamp [.addTask task] (newNodeInfo none)).setNode .clamp node [task]) := by
  intro node task
  exact (replay_paths_agree .clamp _ [.addTask task] (by decide) [task] [task] [task]
    (by decide) (by decide) (by decide)).1

end Mcad.Ledger
