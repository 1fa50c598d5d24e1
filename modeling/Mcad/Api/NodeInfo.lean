import Mcad.Api.Resource
import Mathlib.Algebra.Order.BigOperators.Group.List
import Mathlib.Data.List.AList

namespace Mcad.Api

/-- Modelled from the spec: the lifecycle states of a task; the ledger only asks whether a task is
    `Releasing`. -/
inductive TaskStatus where
  | pending
  | allocated
  | pipelined
  | binding
  | bound
  | running
  | releasing
  | succeeded
  | failed
  | unknown
  deriving DecidableEq, Repr

structure Pod where
  «namespace» : String
  name : String
  deriving DecidableEq, Repr

abbrev TaskID := String

def podKey (pod : Pod) : TaskID := pod.namespace ++ "/" ++ pod.name

/-- The fields of `TaskInfo` the ledger reads. `Resreq` is the pod's resource request, which the
    API server keeps non-negative. -/
structure TaskInfo where
  «namespace» : String
  name : String
  pod : Pod
  status : TaskStatus
  resreq : Resource
  resreq_nonneg : 0 ≤ resreq
  deriving DecidableEq

structure Taint where
  key : String
  value : String
  effect : String
  deriving DecidableEq, Repr

abbrev Labels := AList (fun _ : String => String)

/-- The fields of `v1.Node` that `NewNodeInfo` and `SetNode` read; `allocatable` and `capacity` stand
    for `NewResource` of the node's status lists. -/
structure Node where
  name : String
  allocatable : Resource
  capacity : Resource
  labels : Labels
  unschedulable : Bool
  taints : List Taint
  deriving DecidableEq

abbrev Tasks := AList (fun _ : TaskID => TaskInfo)

structure NodeInfo where
  name : String
  node : Option Node
  releasing : Resource
  idle : Resource
  used : Resource
  allocatable : Resource
  capability : Resource
  labels : Labels
  unschedulable : Bool
  taints : List Taint
  tasks : Tasks

structure Outcome where
  after : NodeInfo
  err : Option String

def newNodeInfo : Option Node → NodeInfo
  | none =>
    { name := "", node := none,
      releasing := emptyResource, idle := emptyResource, used := emptyResource,
      allocatable := emptyResource, capability := emptyResource,
      labels := ∅, unschedulable := false, taints := [], tasks := ∅ }
  | some node =>
    { name := node.name, node := some node,
      releasing := emptyResource, idle := node.allocatable, used := emptyResource,
      allocatable := node.allocatable, capability := node.capacity,
      labels := node.labels, unschedulable := node.unschedulable, taints := node.taints,
      tasks := ∅ }

def alreadyOnNode (task : TaskInfo) (ni : NodeInfo) : String :=
  "task <" ++ task.namespace ++ "/" ++ task.name ++ "> already on node <" ++ ni.name ++ ">"

def notFoundOnHost (ti : TaskInfo) (ni : NodeInfo) : String :=
  "failed to find task <" ++ ti.namespace ++ "/" ++ ti.name ++ "> on host <" ++ ni.name ++ ">"

def NodeInfo.whenBound (ni : NodeInfo) (update : NodeInfo → NodeInfo) : NodeInfo :=
  match ni.node with
  | none => ni
  | some _ => update ni

section Operations

variable (mode : Underflow)

/-- The pool updates `AddTask` makes for a task on a bound ledger, and `SetNode` makes for every
    stored task when it binds an unbound one. -/
def NodeInfo.chargeTask (ni : NodeInfo) (task : TaskInfo) : NodeInfo :=
  { ni with
    releasing := if task.status = .releasing then ni.releasing + task.resreq else ni.releasing
    idle := ni.idle.sub mode task.resreq
    used := ni.used + task.resreq }

/-- `SetNode`. Its loop ranges over `ni.Tasks`, whose order Go leaves unspecified: `order` is the
    order it happens to visit them in. -/
def NodeInfo.setNode (ni : NodeInfo) (node : Node) (order : List TaskInfo) : NodeInfo :=
  let reconciled := match ni.node with
    | none => order.foldl (NodeInfo.chargeTask mode) { ni with idle := node.allocatable }
    | some _ => ni
  { reconciled with
    name := node.name, node := some node,
    allocatable := node.allocatable, capability := node.capacity,
    labels := node.labels, unschedulable := node.unschedulable, taints := node.taints }

def NodeInfo.reserveTask (ni : NodeInfo) (task : TaskInfo) : NodeInfo :=
  { ni with releasing := ni.releasing.sub mode task.resreq, used := ni.used + task.resreq }

def NodeInfo.refundTask (ni : NodeInfo) (task : TaskInfo) : NodeInfo :=
  { ni with
    releasing := if task.status = .releasing then ni.releasing.sub mode task.resreq else ni.releasing
    idle := ni.idle + task.resreq
    used := ni.used.sub mode task.resreq }

/-- The duplicate check and the store that `PipelineTask` and `AddTask` share; `update` is the
    pool update each makes on a bound ledger. -/
def NodeInfo.storeTask (ni : NodeInfo) (task : TaskInfo) (update : NodeInfo → NodeInfo) : Outcome :=
  let key := podKey task.pod
  if key ∈ ni.tasks then ⟨ni, some (alreadyOnNode task ni)⟩
  else ⟨{ ni.whenBound update with tasks := ni.tasks.insert key task }, none⟩

def NodeInfo.pipelineTask (ni : NodeInfo) (task : TaskInfo) : Outcome :=
  ni.storeTask task (·.reserveTask mode task)

def NodeInfo.addTask (ni : NodeInfo) (task : TaskInfo) : Outcome :=
  ni.storeTask task (·.chargeTask mode task)

def NodeInfo.removeTask (ni : NodeInfo) (ti : TaskInfo) : Outcome :=
  let key := podKey ti.pod
  match ni.tasks.lookup key with
  | none => ⟨ni, some (notFoundOnHost ti ni)⟩
  | some task => ⟨{ ni.whenBound (·.refundTask mode task) with tasks := ni.tasks.erase key }, none⟩

def NodeInfo.updateTask (ni : NodeInfo) (ti : TaskInfo) : Outcome :=
  let removed := ni.removeTask mode ti
  match removed.err with
  | some _ => removed
  | none => removed.after.addTask mode ti

def NodeInfo.clone (ni : NodeInfo) (order : List TaskInfo) : NodeInfo :=
  order.foldl (fun res p => (res.addTask mode p).after) (newNodeInfo ni.node)

end Operations

def taskValues (ts : Tasks) : List TaskInfo := ts.entries.map (·.2)

def TaskInfo.releasingReq (task : TaskInfo) : Resource :=
  if task.status = .releasing then task.resreq else 0

def requested (tasks : List TaskInfo) : Resource := (tasks.map TaskInfo.resreq).sum

def releasingRequested (tasks : List TaskInfo) : Resource := (tasks.map TaskInfo.releasingReq).sum

section Lemmas

variable {mode : Underflow} {ni : NodeInfo} {task ti : TaskInfo} {node : Node}
  {update : NodeInfo → NodeInfo} {ts : Tasks} {key : TaskID} {tasks : List TaskInfo}

theorem TaskInfo.releasingReq_of_releasing (releasing : task.status = .releasing) :
    task.releasingReq = task.resreq := if_pos releasing

theorem TaskInfo.releasingReq_of_not_releasing (releasing : ¬task.status = .releasing) :
    task.releasingReq = 0 := if_neg releasing

theorem TaskInfo.releasingReq_nonneg : 0 ≤ task.releasingReq := by
  unfold TaskInfo.releasingReq; split
  · exact task.resreq_nonneg
  · exact le_rfl

theorem TaskInfo.releasingReq_le : task.releasingReq ≤ task.resreq := by
  unfold TaskInfo.releasingReq; split
  · exact le_rfl
  · exact task.resreq_nonneg

@[simp] theorem requested_nil : requested [] = 0 := rfl
@[simp] theorem requested_cons : requested (task :: tasks) = task.resreq + requested tasks :=
  List.sum_cons
@[simp] theorem releasingRequested_nil : releasingRequested [] = 0 := rfl
@[simp] theorem releasingRequested_cons :
    releasingRequested (task :: tasks) = task.releasingReq + releasingRequested tasks :=
  List.sum_cons

theorem requested_perm {tasks' : List TaskInfo} (same : tasks.Perm tasks') :
    requested tasks = requested tasks' := (same.map _).sum_eq

theorem releasingRequested_perm {tasks' : List TaskInfo} (same : tasks.Perm tasks') :
    releasingRequested tasks = releasingRequested tasks' := (same.map _).sum_eq

theorem requested_nonneg : 0 ≤ requested tasks :=
  List.sum_nonneg (List.forall_mem_map.mpr fun task _ => task.resreq_nonneg)

theorem releasingRequested_nonneg : 0 ≤ releasingRequested tasks :=
  List.sum_nonneg (List.forall_mem_map.mpr fun _ _ => TaskInfo.releasingReq_nonneg)

theorem releasingRequested_le_requested : releasingRequested tasks ≤ requested tasks := by
  induction tasks with
  | nil => exact le_rfl
  | cons task tasks ih => simpa using add_le_add task.releasingReq_le ih

theorem resreq_le_requested (mem : task ∈ tasks) : task.resreq ≤ requested tasks :=
  List.single_le_sum (List.forall_mem_map.mpr fun task _ => task.resreq_nonneg) _
    (List.mem_map_of_mem _ mem)

theorem releasingReq_le_releasingRequested (mem : task ∈ tasks) :
    task.releasingReq ≤ releasingRequested tasks :=
  List.single_le_sum (List.forall_mem_map.mpr fun _ _ => TaskInfo.releasingReq_nonneg) _
    (List.mem_map_of_mem _ mem)

theorem taskValues_insert (fresh : key ∉ ts) :
    taskValues (ts.insert key task) = task :: taskValues ts := by
  simp only [taskValues, AList.insert_entries_of_neg fresh, List.map_cons]

theorem taskValues_erase (found : ts.lookup key = some task) :
    (task :: taskValues (ts.erase key)).Perm (taskValues ts) := by
  have mem : key ∈ ts.entries.keys := AList.mem_keys.mp (AList.lookup_isSome.mp (by simp [found]))
  obtain ⟨b, front, back, outside, split, erased⟩ := List.exists_of_kerase mem
  have same : b = task := by
    have lookup : ts.entries.dlookup key = some task := found
    rw [split, List.dlookup_append, List.dlookup_eq_none.mpr outside] at lookup
    simpa using lookup
  subst same
  change (b :: (ts.entries.kerase key).map (·.2)).Perm (ts.entries.map (·.2))
  rw [erased, split]
  have moved : (front ++ ⟨key, b⟩ :: back).Perm (⟨key, b⟩ :: (front ++ back)) := List.perm_middle
  simpa only [List.map_cons, List.map_append] using (moved.map (·.2)).symm

@[simp] theorem whenBound_of_none (unbound : ni.node = none) : ni.whenBound update = ni := by
  simp [NodeInfo.whenBound, unbound]

@[simp] theorem whenBound_of_ne_none (bound : ni.node ≠ none) : ni.whenBound update = update ni := by
  unfold NodeInfo.whenBound; split
  · contradiction
  · rfl

@[simp] theorem whenBound_node (keeps : ∀ ni, (update ni).node = ni.node) :
    (ni.whenBound update).node = ni.node := by
  unfold NodeInfo.whenBound; split
  · rfl
  · exact keeps ni

@[simp] theorem whenBound_allocatable (keeps : ∀ ni, (update ni).allocatable = ni.allocatable) :
    (ni.whenBound update).allocatable = ni.allocatable := by
  unfold NodeInfo.whenBound; split
  · rfl
  · exact keeps ni

@[simp] theorem chargeTask_node : (ni.chargeTask mode task).node = ni.node := rfl
@[simp] theorem chargeTask_tasks : (ni.chargeTask mode task).tasks = ni.tasks := rfl
@[simp] theorem chargeTask_allocatable : (ni.chargeTask mode task).allocatable = ni.allocatable := rfl
@[simp] theorem chargeTask_used : (ni.chargeTask mode task).used = ni.used + task.resreq := rfl
@[simp] theorem chargeTask_idle : (ni.chargeTask mode task).idle = ni.idle.sub mode task.resreq := rfl
@[simp] theorem chargeTask_releasing :
    (ni.chargeTask mode task).releasing = ni.releasing + task.releasingReq := by
  simp only [NodeInfo.chargeTask, TaskInfo.releasingReq]; split <;> simp

@[simp] theorem reserveTask_node : (ni.reserveTask mode task).node = ni.node := rfl
@[simp] theorem reserveTask_tasks : (ni.reserveTask mode task).tasks = ni.tasks := rfl
@[simp] theorem reserveTask_allocatable : (ni.reserveTask mode task).allocatable = ni.allocatable :=
  rfl
@[simp] theorem reserveTask_used : (ni.reserveTask mode task).used = ni.used + task.resreq := rfl
@[simp] theorem reserveTask_idle : (ni.reserveTask mode task).idle = ni.idle := rfl
@[simp] theorem reserveTask_releasing :
    (ni.reserveTask mode task).releasing = ni.releasing.sub mode task.resreq := rfl

@[simp] theorem refundTask_node : (ni.refundTask mode task).node = ni.node := rfl
@[simp] theorem refundTask_tasks : (ni.refundTask mode task).tasks = ni.tasks := rfl
@[simp] theorem refundTask_allocatable : (ni.refundTask mode task).allocatable = ni.allocatable :=
  rfl
@[simp] theorem refundTask_used : (ni.refundTask mode task).used = ni.used.sub mode task.resreq :=
  rfl
@[simp] theorem refundTask_idle : (ni.refundTask mode task).idle = ni.idle + task.resreq := rfl
@[simp] theorem refundTask_releasing : (ni.refundTask mode task).releasing =
    if task.status = .releasing then ni.releasing.sub mode task.resreq else ni.releasing := rfl

end Lemmas

end Mcad.Api
