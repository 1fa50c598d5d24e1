import Mcad.Ledger.Accounting

namespace Mcad.Ledger

open Mcad.Api

def keyedEntry (task : TaskInfo) : Σ _ : TaskID, TaskInfo := ⟨podKey task.pod, task⟩

def Keyed (ts : Tasks) : Prop := ∀ entry ∈ ts.entries, entry.1 = podKey entry.2.pod

variable {mode : Underflow} {ni y : NodeInfo} {task ti : TaskInfo} {order : List TaskInfo}
  {ts : Tasks}

theorem Keyed.entries_eq (keyed : Keyed ts) : ts.entries = (taskValues ts).map keyedEntry := by
  conv_lhs => rw [← List.map_id ts.entries]
  simp only [taskValues, List.map_map]
  refine List.map_congr_left fun entry member => ?_
  obtain ⟨key, task⟩ := entry
  have same : key = podKey task.pod := keyed _ member
  subst same; rfl

theorem Keyed.podKeys_nodup (keyed : Keyed ts) : ((taskValues ts).map (podKey ·.pod)).Nodup := by
  have keys := ts.keys_nodup
  rwa [AList.keys, List.keys, keyed.entries_eq, List.map_map] at keys

theorem Keyed.insert (keyed : Keyed ts) : Keyed (ts.insert (podKey task.pod) task) := by
  intro entry member
  rw [AList.insert_entries, List.mem_cons] at member
  rcases member with rfl | member
  · rfl
  · exact keyed _ ((List.kerase_sublist _ _).subset member)

theorem Keyed.erase {key : TaskID} (keyed : Keyed ts) : Keyed (ts.erase key) :=
  fun entry member => keyed entry ((List.kerase_sublist _ _).subset member)

theorem Keyed.storeTask {update : NodeInfo → NodeInfo} (keyed : Keyed ni.tasks) :
    Keyed (ni.storeTask task update).after.tasks := by
  by_cases dup : podKey task.pod ∈ ni.tasks
  · rwa [storeTask_of_mem dup]
  · rw [storeTask_of_not_mem dup]; exact keyed.insert

theorem Keyed.removeTask (keyed : Keyed ni.tasks) : Keyed (ni.removeTask mode ti).after.tasks := by
  cases found : ni.tasks.lookup (podKey ti.pod)
  · rwa [removeTask_of_lookup_none found]
  · rw [removeTask_of_lookup_some found]; exact keyed.erase

theorem Keyed.updateTask (keyed : Keyed ni.tasks) : Keyed (ni.updateTask mode ti).after.tasks := by
  rcases updateTask_cases mode ni ti with ⟨-, updated⟩ | ⟨-, updated⟩ <;> rw [updated]
  · exact keyed.removeTask
  · exact keyed.removeTask.storeTask

theorem Keyed.step {call : Call} (keyed : Keyed ni.tasks) : Keyed (call.apply mode ni).tasks := by
  cases call with
  | setNode node order => simpa [Call.apply] using keyed
  | addTask task => exact keyed.storeTask
  | pipelineTask task => exact keyed.storeTask
  | removeTask task => exact keyed.removeTask
  | updateTask task => exact keyed.updateTask

theorem keyed_of_reachable {admits : NodeInfo → Call → Prop} (reach : Reachable mode admits ni) :
    Keyed ni.tasks :=
  reach.invariant (fun ni => Keyed ni.tasks) (fun node => by cases node <;> simp [Keyed, newNodeInfo])
    fun _ _ keyed _ _ => keyed.step

theorem reachable_tasks_keyed {admits : NodeInfo → Call → Prop} (reach : Reachable mode admits ni) :
    (∀ key task, ni.tasks.lookup key = some task → podKey task.pod = key) ∧
      ((taskValues ni.tasks).map (podKey ·.pod)).Nodup := by
  have keyed := keyed_of_reachable reach
  exact ⟨fun key task found => (keyed _ (AList.mem_lookup_iff.mp found)).symm, keyed.podKeys_nodup⟩

theorem reachable_tasks_keyed_on_spec_node :
    let node : Node := ⟨"node-a", ⟨4000, 8000000000, 0⟩, ⟨4000, 8000000000, 0⟩, ∅, false, []⟩
    let task : TaskInfo := ⟨"default", "t1", ⟨"default", "t1"⟩, .running, ⟨1000, 0, 0⟩, by decide⟩
    let ni := (Call.addTask task).apply .clamp ((Call.removeTask task).apply .clamp (newNodeInfo (some node)))
    (∀ key stored, ni.tasks.lookup key = some stored → podKey stored.pod = key) ∧
      ((taskValues ni.tasks).map (podKey ·.pod)).Nodup := by
  intro node task ni
  exact reachable_tasks_keyed
    (show Reachable .clamp (fun _ _ => True) ni from .step (.step (.start _) trivial trivial) trivial trivial)

theorem foldl_chargeTask_with_tasks (mode : Underflow) (order : List TaskInfo) (y : NodeInfo)
    (tasks : Tasks) :
    order.foldl (NodeInfo.chargeTask mode) { y with tasks := tasks } =
      { order.foldl (NodeInfo.chargeTask mode) y with tasks := tasks } := by
  induction order generalizing y with
  | nil => rfl
  | cons task order ih => exact ih (y.chargeTask mode task)

def insertAll (order : List TaskInfo) (ts : Tasks) : Tasks :=
  order.foldl (fun ts p => ts.insert (podKey p.pod) p) ts

theorem fresh_tail {task : TaskInfo} (fresh : ((task :: order).map (podKey ·.pod)).Nodup)
    (disjoint : ∀ p ∈ task :: order, podKey p.pod ∉ ts) :
    (order.map (podKey ·.pod)).Nodup ∧ ∀ p ∈ order, podKey p.pod ∉ ts.insert (podKey task.pod) task := by
  rw [List.map_cons, List.nodup_cons, List.mem_map] at fresh
  refine ⟨fresh.2, fun p member => ?_⟩
  rw [AList.mem_insert, not_or]
  exact ⟨fun same => fresh.1 ⟨p, member, same⟩, disjoint p (List.mem_cons_of_mem _ member)⟩

theorem foldl_addTask_of_fresh (bound : y.node ≠ none) (fresh : (order.map (podKey ·.pod)).Nodup)
    (disjoint : ∀ task ∈ order, podKey task.pod ∉ y.tasks) :
    order.foldl (fun res p => (res.addTask mode p).after) y =
      { order.foldl (NodeInfo.chargeTask mode) y with tasks := insertAll order y.tasks } := by
  induction order generalizing y with
  | nil => rfl
  | cons task order ih =>
    have added : (y.addTask mode task).after =
        { y.chargeTask mode task with tasks := y.tasks.insert (podKey task.pod) task } := by
      rw [addTask_of_not_mem (disjoint task (List.mem_cons_self _ _)), whenBound_of_ne_none bound]
    obtain ⟨fresh, rest⟩ := fresh_tail fresh disjoint
    rw [List.foldl_cons, added, ih (by simpa using bound) fresh rest,
      foldl_chargeTask_with_tasks]
    rfl

theorem foldl_addTask_of_fresh_unbound (unbound : y.node = none)
    (fresh : (order.map (podKey ·.pod)).Nodup) (disjoint : ∀ task ∈ order, podKey task.pod ∉ y.tasks) :
    order.foldl (fun res p => (res.addTask mode p).after) y = { y with tasks := insertAll order y.tasks } := by
  induction order generalizing y with
  | nil => rfl
  | cons task order ih =>
    have added : (y.addTask mode task).after = { y with tasks := y.tasks.insert (podKey task.pod) task } := by
      rw [addTask_of_not_mem (disjoint task (List.mem_cons_self _ _)), whenBound_of_none unbound]
    obtain ⟨fresh, rest⟩ := fresh_tail fresh disjoint
    rw [List.foldl_cons, added,
      @ih { y with tasks := y.tasks.insert (podKey task.pod) task } unbound fresh rest]
    rfl

theorem insertAll_entries (fresh : (order.map (podKey ·.pod)).Nodup)
    (disjoint : ∀ p ∈ order, podKey p.pod ∉ ts) :
    (insertAll order ts).entries = (order.map keyedEntry).reverse ++ ts.entries := by
  induction order generalizing ts with
  | nil => rfl
  | cons task order ih =>
    obtain ⟨fresh, rest⟩ := fresh_tail fresh disjoint
    rw [insertAll, List.foldl_cons, ← insertAll, ih fresh rest,
      AList.insert_entries_of_neg (disjoint task (List.mem_cons_self _ _))]
    simp [keyedEntry]

theorem foldl_sub_perm {order' : List TaskInfo} (same : order.Perm order') (idle : Resource) :
    order.foldl (fun idle task => idle.sub mode task.resreq) idle =
      order'.foldl (fun idle task => idle.sub mode task.resreq) idle :=
  same.foldl_eq' (fun a _ b _ r => by
    rw [Resource.sub_sub mode _ b.resreq_nonneg, Resource.sub_sub mode _ a.resreq_nonneg, add_comm])
    idle

theorem chargeTask_comm (ni : NodeInfo) (a b : TaskInfo) :
    (ni.chargeTask mode a).chargeTask mode b = (ni.chargeTask mode b).chargeTask mode a := by
  simp only [NodeInfo.chargeTask, NodeInfo.mk.injEq, true_and, and_true,
    Resource.sub_sub mode _ a.resreq_nonneg, Resource.sub_sub mode _ b.resreq_nonneg, add_comm b.resreq,
    add_right_comm _ a.resreq]
  split_ifs <;> simp only [add_right_comm]

theorem foldl_chargeTask_perm {order' : List TaskInfo} (same : order.Perm order') (ni : NodeInfo) :
    order.foldl (NodeInfo.chargeTask mode) ni = order'.foldl (NodeInfo.chargeTask mode) ni :=
  same.foldl_eq' (fun a _ b _ x => chargeTask_comm x a b) ni

structure SameLedger (a b : NodeInfo) : Prop where
  idle : a.idle = b.idle
  used : a.used = b.used
  releasing : a.releasing = b.releasing
  tasks : ∀ key, a.tasks.lookup key = b.tasks.lookup key

theorem SameLedger.refl (a : NodeInfo) : SameLedger a a := ⟨rfl, rfl, rfl, fun _ => rfl⟩

theorem SameLedger.symm {a b : NodeInfo} (same : SameLedger a b) : SameLedger b a :=
  ⟨same.idle.symm, same.used.symm, same.releasing.symm, fun key => (same.tasks key).symm⟩

theorem SameLedger.trans {a b c : NodeInfo} (first : SameLedger a b) (second : SameLedger b c) :
    SameLedger a c :=
  ⟨first.idle.trans second.idle, first.used.trans second.used,
    first.releasing.trans second.releasing, fun key => (first.tasks key).trans (second.tasks key)⟩

theorem clone_of_distinct (mode : Underflow) (distinct : ((taskValues ni.tasks).map (podKey ·.pod)).Nodup)
    (enumerates : order.Perm (taskValues ni.tasks)) :
    (ni.clone mode order).tasks.entries.Perm ((taskValues ni.tasks).map keyedEntry) ∧
    (ni.node = none → (ni.clone mode order).idle = 0 ∧ (ni.clone mode order).used = 0 ∧
      (ni.clone mode order).releasing = 0) ∧
    (∀ node, ni.node = some node →
      (ni.clone mode order).used = requested (taskValues ni.tasks) ∧
      (ni.clone mode order).releasing = releasingRequested (taskValues ni.tasks) ∧
      (ni.clone mode order).idle = order.foldl (fun idle task => idle.sub mode task.resreq) node.allocatable) := by
  have fresh : (order.map (podKey ·.pod)).Nodup := (enumerates.map _).nodup_iff.mpr distinct
  have entries : (insertAll order ∅).entries.Perm ((taskValues ni.tasks).map keyedEntry) := by
    rw [insertAll_entries fresh (fun _ _ => AList.not_mem_empty _), AList.empty_entries,
      List.append_nil]
    exact (List.reverse_perm _).trans (enumerates.map _)
  unfold NodeInfo.clone
  cases attached : ni.node with
  | none =>
    rw [foldl_addTask_of_fresh_unbound rfl fresh (fun _ _ => AList.not_mem_empty _)]
    exact ⟨entries, fun _ => ⟨rfl, rfl, rfl⟩, fun _ none_eq => by cases none_eq⟩
  | some node =>
    rw [foldl_addTask_of_fresh (by simp [newNodeInfo]) fresh (fun _ _ => AList.not_mem_empty _)]
    refine ⟨entries, fun some_eq => (by cases some_eq), fun node' some_eq => ?_⟩
    cases some_eq
    simp [newNodeInfo, requested_perm enumerates, releasingRequested_perm enumerates]

theorem mem_addTask_tasks {key : TaskID} (stored : key ∈ ni.tasks) :
    key ∈ (ni.addTask mode task).after.tasks := by
  by_cases dup : podKey task.pod ∈ ni.tasks
  · rwa [addTask_of_mem dup]
  · rw [addTask_of_not_mem dup, AList.mem_insert]; exact .inr stored

theorem addTask_comm (ni : NodeInfo) {a b : TaskInfo} (distinct : podKey a.pod ≠ podKey b.pod) :
    SameLedger ((ni.addTask mode a).after.addTask mode b).after
      ((ni.addTask mode b).after.addTask mode a).after := by
  by_cases dupA : podKey a.pod ∈ ni.tasks
  · rw [addTask_of_mem dupA, addTask_of_mem (mem_addTask_tasks dupA)]; exact .refl _
  by_cases dupB : podKey b.pod ∈ ni.tasks
  · rw [addTask_of_mem dupB, addTask_of_mem (mem_addTask_tasks dupB)]; exact .refl _
  have freshB : podKey b.pod ∉ (ni.addTask mode a).after.tasks := by
    rw [addTask_of_not_mem dupA, AList.mem_insert, not_or]; exact ⟨Ne.symm distinct, dupB⟩
  have freshA : podKey a.pod ∉ (ni.addTask mode b).after.tasks := by
    rw [addTask_of_not_mem dupB, AList.mem_insert, not_or]; exact ⟨distinct, dupA⟩
  rw [addTask_of_not_mem freshB, addTask_of_not_mem freshA, addTask_of_not_mem dupA,
    addTask_of_not_mem dupB]
  have tasks : ∀ key, ((ni.tasks.insert (podKey a.pod) a).insert (podKey b.pod) b).lookup key =
      ((ni.tasks.insert (podKey b.pod) b).insert (podKey a.pod) a).lookup key :=
    fun _ => AList.perm_lookup (AList.insert_insert_of_ne _ distinct)
  by_cases bound : ni.node = none
  · exact ⟨by simp [bound], by simp [bound], by simp [bound], by simpa [bound] using tasks⟩
  · have swapped : (ni.chargeTask mode a).chargeTask mode b = _ := chargeTask_comm ni a b
    exact ⟨by simpa [bound] using congrArg NodeInfo.idle swapped,
      by simpa [bound] using congrArg NodeInfo.used swapped,
      by simpa [bound] using congrArg NodeInfo.releasing swapped, by simpa [bound] using tasks⟩

theorem clone_perm {order₁ order₂ : List TaskInfo} (distinct : ((taskValues ni.tasks).map (podKey ·.pod)).Nodup)
    (enumerates₁ : order₁.Perm (taskValues ni.tasks)) (enumerates₂ : order₂.Perm (taskValues ni.tasks)) :
    SameLedger (ni.clone mode order₁) (ni.clone mode order₂) := by
  obtain ⟨entries₁, unbound₁, bound₁⟩ := clone_of_distinct mode distinct enumerates₁
  obtain ⟨entries₂, unbound₂, bound₂⟩ := clone_of_distinct mode distinct enumerates₂
  have tasks : ∀ key, (ni.clone mode order₁).tasks.lookup key = (ni.clone mode order₂).tasks.lookup key :=
    fun _ => AList.perm_lookup (entries₁.trans entries₂.symm)
  cases attached : ni.node with
  | none =>
    obtain ⟨idle₁, used₁, releasing₁⟩ := unbound₁ attached
    obtain ⟨idle₂, used₂, releasing₂⟩ := unbound₂ attached
    exact ⟨idle₁.trans idle₂.symm, used₁.trans used₂.symm, releasing₁.trans releasing₂.symm, tasks⟩
  | some node =>
    obtain ⟨used₁, releasing₁, idle₁⟩ := bound₁ node attached
    obtain ⟨used₂, releasing₂, idle₂⟩ := bound₂ node attached
    exact ⟨by rw [idle₁, idle₂, foldl_sub_perm (enumerates₁.trans enumerates₂.symm)],
      used₁.trans used₂.symm, releasing₁.trans releasing₂.symm, tasks⟩

theorem setNode_perm {node : Node} {order₁ order₂ : List TaskInfo} (enumerates₁ : order₁.Perm (taskValues ni.tasks))
    (enumerates₂ : order₂.Perm (taskValues ni.tasks)) :
    ni.setNode mode node order₁ = ni.setNode mode node order₂ := by
  simp only [NodeInfo.setNode, foldl_chargeTask_perm (enumerates₁.trans enumerates₂.symm)]

theorem clone_node (mode : Underflow) (order : List TaskInfo) : (ni.clone mode order).node = ni.node := by
  suffices keeps : ∀ y : NodeInfo, (order.foldl (fun res p => (res.addTask mode p).after) y).node = y.node by
    rw [NodeInfo.clone, keeps]; cases ni.node <;> rfl
  induction order with
  | nil => exact fun _ => rfl
  | cons task order ih => exact fun y => by rw [List.foldl_cons, ih, addTask_frame.1]

/-- Clone is idempotent up to map order: a clone of a clone has the clone's pools and task map,
    whichever order either loop visits the tasks in. -/
theorem clone_idempotent (mode : Underflow) {order order' : List TaskInfo}
    (distinct : ((taskValues ni.tasks).map (podKey ·.pod)).Nodup)
    (enumerates : order.Perm (taskValues ni.tasks))
    (enumerates' : order'.Perm (taskValues (ni.clone mode order).tasks)) :
    SameLedger ((ni.clone mode order).clone mode order') (ni.clone mode order) := by
  obtain ⟨entries, unbound, bound⟩ := clone_of_distinct mode distinct enumerates
  have values : (taskValues (ni.clone mode order).tasks).Perm (taskValues ni.tasks) := by
    simpa [taskValues, Function.comp_def, keyedEntry] using entries.map (·.2)
  obtain ⟨entries', unbound', bound'⟩ :=
    clone_of_distinct mode ((values.map _).nodup_iff.mpr distinct) enumerates'
  have tasks : ∀ key, ((ni.clone mode order).clone mode order').tasks.lookup key =
      (ni.clone mode order).tasks.lookup key :=
    fun _ => AList.perm_lookup (entries'.trans ((values.map keyedEntry).trans entries.symm))
  cases attached : ni.node with
  | none =>
    obtain ⟨idle, used, releasing⟩ := unbound attached
    obtain ⟨idle', used', releasing'⟩ := unbound' (by rw [clone_node, attached])
    exact ⟨idle'.trans idle.symm, used'.trans used.symm, releasing'.trans releasing.symm, tasks⟩
  | some node =>
    obtain ⟨used, releasing, idle⟩ := bound node attached
    obtain ⟨used', releasing', idle'⟩ := bound' node (by rw [clone_node, attached])
    exact ⟨by rw [idle', idle, foldl_sub_perm (enumerates'.trans (values.trans enumerates.symm))],
      by rw [used', used, requested_perm values],
      by rw [releasing', releasing, releasingRequested_perm values], tasks⟩

theorem clone_idempotent_on_spec_node :
    let node : Node := ⟨"node-a", ⟨4000, 8000000000, 0⟩, ⟨4000, 8000000000, 0⟩, ∅, false, []⟩
    let first : TaskInfo := ⟨"default", "t1", ⟨"default", "t1"⟩, .releasing, ⟨1000, 0, 0⟩, by decide⟩
    let second : TaskInfo := ⟨"default", "t2", ⟨"default", "t2"⟩, .running, ⟨5000, 0, 0⟩, by decide⟩
    let ni := (((newNodeInfo (some node)).addTask .clamp first).after.addTask .clamp second).after
    SameLedger ((ni.clone .clamp [first, second]).clone .clamp [second, first])
      (ni.clone .clamp [first, second]) := by
  intro node first second ni
  exact clone_idempotent .clamp (by decide) (by decide) (by decide)

theorem enumeration_order_irrelevant (mode : Underflow) :
    (∀ (ni : NodeInfo) (order₁ order₂ : List TaskInfo),
      ((taskValues ni.tasks).map (podKey ·.pod)).Nodup →
      order₁.Perm (taskValues ni.tasks) → order₂.Perm (taskValues ni.tasks) →
      SameLedger (ni.clone mode order₁) (ni.clone mode order₂)) ∧
    (∀ (ni : NodeInfo) (node : Node) (order₁ order₂ : List TaskInfo),
      order₁.Perm (taskValues ni.tasks) → order₂.Perm (taskValues ni.tasks) →
      ni.setNode mode node order₁ = ni.setNode mode node order₂) ∧
    (∀ (ni : NodeInfo) (a b : TaskInfo), podKey a.pod ≠ podKey b.pod →
      SameLedger ((ni.addTask mode a).after.addTask mode b).after
        ((ni.addTask mode b).after.addTask mode a).after) ∧
    (∀ (ni : NodeInfo) (a b : TaskInfo),
      (ni.chargeTask mode a).chargeTask mode b = (ni.chargeTask mode b).chargeTask mode a) ∧
    (∀ (admits : NodeInfo → Call → Prop) (ni : NodeInfo), Reachable mode admits ni →
      ((taskValues ni.tasks).map (podKey ·.pod)).Nodup) := by
  exact ⟨fun _ _ _ distinct => clone_perm distinct, fun _ _ _ _ => setNode_perm,
    fun ni _ _ distinct => addTask_comm ni distinct, chargeTask_comm,
    fun _ _ reach => (keyed_of_reachable reach).podKeys_nodup⟩

end Mcad.Ledger
