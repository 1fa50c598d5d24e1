import Mcad.Ledger.Accounting

namespace Mcad.Ledger

open Mcad.Api

structure Balanced (ni : NodeInfo) : Prop where
  balance : ni.node ≠ none → ni.idle + ni.used = ni.allocatable
  allocatable : ∀ node, ni.node = some node → ni.allocatable = node.allocatable

def WithinAllocatable (ni : NodeInfo) : Prop :=
  ∀ node, ni.node = some node → requested (taskValues ni.tasks) ≤ node.allocatable

def withinAllocatable (mode : Underflow) (ni : NodeInfo) (call : Call) : Prop :=
  call.isPipeline = false ∧ WithinAllocatable (call.apply mode ni)

variable {mode : Underflow} {ni : NodeInfo} {task ti : TaskInfo} {node : Node}
  {order : List TaskInfo}

theorem foldl_sub_of_le {idle : Resource} (fits : requested order ≤ idle) :
    order.foldl (fun idle task => idle.sub mode task.resreq) idle = idle - requested order := by
  induction order generalizing idle with
  | nil => simp
  | cons task order ih =>
    have first : task.resreq ≤ idle := le_trans (le_add_of_nonneg_right requested_nonneg) fits
    have rest : requested order ≤ idle - task.resreq := by
      rw [le_sub_iff_add_le, add_comm]; simpa using fits
    simp [Resource.sub_of_le mode first, ih rest, sub_sub]

theorem balanced_newNodeInfo (node : Option Node) : Balanced (newNodeInfo node) := by
  cases node <;> exact ⟨by simp [newNodeInfo], by simp [newNodeInfo]⟩

theorem Balanced.setNode (balanced : Balanced ni) (accounted : Accounted ni)
    (enumerates : order.Perm (taskValues ni.tasks)) (within : WithinAllocatable (ni.setNode mode node order))
    (keeps : ni.node ≠ none → node.allocatable = ni.allocatable) :
    Balanced (ni.setNode mode node order) := by
  refine ⟨fun _ => ?_, by simp⟩
  by_cases bound : ni.node = none
  · obtain ⟨-, empty, -⟩ := accounted.unbound bound
    have fits : requested order ≤ node.allocatable := by
      simpa [requested_perm enumerates] using within node rfl
    simp [setNode_of_none bound, empty, foldl_sub_of_le fits]
  · simp [setNode_of_ne_none bound, balanced.balance bound, keeps bound]

theorem Balanced.of_frame {after : NodeInfo} (balanced : Balanced ni) (node_eq : after.node = ni.node)
    (allocatable_eq : after.allocatable = ni.allocatable) :
    ∀ node, after.node = some node → after.allocatable = node.allocatable := by
  rw [node_eq, allocatable_eq]; exact balanced.allocatable

theorem Balanced.addTask (balanced : Balanced ni) (accounted : Accounted ni)
    (within : WithinAllocatable (ni.addTask mode task).after) :
    Balanced (ni.addTask mode task).after := by
  refine ⟨fun bound' => ?_, balanced.of_frame (by simp) (by simp)⟩
  by_cases dup : podKey task.pod ∈ ni.tasks
  · simp only [addTask_of_mem dup] at bound' ⊢; exact balanced.balance bound'
  have bound : ni.node ≠ none := by simpa using bound'
  obtain ⟨node, attached⟩ := Option.ne_none_iff_exists'.mp bound
  have fits := within node (by simpa using attached)
  simp only [addTask_of_not_mem dup, taskValues_insert dup, requested_cons,
    ← balanced.allocatable node attached] at fits
  have room : task.resreq ≤ ni.idle := by
    rw [← add_le_add_iff_right ni.used, balanced.balance bound, accounted.used bound]; exact fits
  simp only [addTask_of_not_mem dup, bound, ne_eq, not_false_eq_true, whenBound_of_ne_none,
    chargeTask_idle, chargeTask_used, Resource.sub_of_le mode room, ← balanced.balance bound,
    chargeTask_allocatable, sub_add_add_cancel]

theorem Balanced.removeTask (balanced : Balanced ni) (accounted : Accounted ni) :
    Balanced (ni.removeTask mode ti).after := by
  refine ⟨fun bound' => ?_, balanced.of_frame (by simp) (by simp)⟩
  cases found : ni.tasks.lookup (podKey ti.pod) with
  | none => simp only [removeTask_of_lookup_none found] at bound' ⊢; exact balanced.balance bound'
  | some task =>
    have bound : ni.node ≠ none := by simpa using bound'
    have fits : task.resreq ≤ ni.used := accounted.used bound ▸ (removed_totals found).1 ▸
      le_add_of_nonneg_right requested_nonneg
    simp only [removeTask_of_lookup_some found, bound, ne_eq, not_false_eq_true,
      whenBound_of_ne_none, refundTask_idle, refundTask_used, Resource.sub_of_le mode fits,
      ← balanced.balance bound, refundTask_allocatable, add_add_sub_cancel]

theorem Balanced.updateTask (balanced : Balanced ni) (accounted : Accounted ni)
    (within : WithinAllocatable (ni.updateTask mode ti).after) :
    Balanced (ni.updateTask mode ti).after := by
  rcases updateTask_cases mode ni ti with ⟨-, failed⟩ | ⟨-, updated⟩
  · rw [failed]; exact balanced.removeTask accounted
  · rw [updated] at within ⊢
    exact (balanced.removeTask accounted).addTask accounted.removeTask within

/-- Runs that keep the stored requests within the bound node's `Allocatable`, and whose
    `SetNode` calls on a bound ledger keep its `Allocatable`. -/
def keepsAllocatable (mode : Underflow) (ni : NodeInfo) (call : Call) : Prop :=
  withinAllocatable mode ni call ∧
    ∀ node order, call = .setNode node order → ni.node ≠ none → node.allocatable = ni.allocatable

theorem Balanced.step {call : Call} (balanced : Balanced ni) (accounted : Accounted ni)
    (enumerates : call.Enumerates ni) (admitted : keepsAllocatable mode ni call) :
    Balanced (call.apply mode ni) := by
  obtain ⟨⟨notPipeline, within⟩, keeps⟩ := admitted
  cases call with
  | setNode node order => exact balanced.setNode accounted enumerates within (keeps node order rfl)
  | addTask task => exact balanced.addTask accounted within
  | pipelineTask task => cases notPipeline
  | removeTask task => exact balanced.removeTask accounted
  | updateTask task => exact balanced.updateTask accounted within

theorem idle_used_balance (mode : Underflow) {ni : NodeInfo}
    (reach : Reachable mode (keepsAllocatable mode) ni) (node : Node) (attached : ni.node = some node) :
    ni.idle + ni.used = node.allocatable := by
  have inv : Accounted ni ∧ Balanced ni :=
    reach.invariant (fun ni => Accounted ni ∧ Balanced ni)
      (fun node => ⟨(accounted_newNodeInfo node).1, balanced_newNodeInfo node⟩)
      fun _ _ ⟨accounted, balanced⟩ enumerates admitted =>
        ⟨accounted.step enumerates, balanced.step accounted enumerates admitted⟩
  rw [inv.2.balance (by simp [attached]), inv.2.allocatable node attached]

theorem idle_used_balance_after_addTask :
    let node : Node := ⟨"node-a", ⟨4000, 8000000000, 0⟩, ⟨4000, 8000000000, 0⟩, ∅, false, []⟩
    let task : TaskInfo := ⟨"default", "t1", ⟨"default", "t1"⟩, .running, ⟨1000, 0, 0⟩, by decide⟩
    let ni := (Call.addTask task).apply .clamp (newNodeInfo (some node))
    ni.idle + ni.used = node.allocatable := by
  intro node task ni
  have reach : Reachable .clamp (keepsAllocatable .clamp) ni :=
    .step (.start _) trivial ⟨⟨rfl, fun _ attached => by cases attached; decide⟩, fun _ _ same => by cases same⟩
  exact idle_used_balance .clamp reach node rfl

theorem rebinding_keeps_stale_idle :
    let small : Node := ⟨"node-a", ⟨4000, 8000000000, 0⟩, ⟨4000, 8000000000, 0⟩, ∅, false, []⟩
    let large : Node := { small with allocatable := ⟨8000, 8000000000, 0⟩ }
    let rebound := (newNodeInfo (some small)).setNode .clamp large []
    Reachable .clamp (withinAllocatable .clamp) rebound ∧ rebound.node = some large ∧
      rebound.idle + rebound.used ≠ large.allocatable := by
  intro small large rebound
  have reach : Reachable .clamp (withinAllocatable .clamp)
      (Call.apply .clamp (.setNode large []) (newNodeInfo (some small))) :=
    .step (.start _) (by simp [Call.Enumerates, newNodeInfo, taskValues])
      ⟨rfl, fun node attached => by cases attached; decide⟩
  exact ⟨reach, rfl, by decide⟩

end Mcad.Ledger
