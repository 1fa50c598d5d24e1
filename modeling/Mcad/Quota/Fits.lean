import Mcad.Quota.Designation
import Mcad.Quota.Demands

namespace Mcad.Quota

open Mcad.Api Mcad.Go

variable {σ : Type}

/-- updateForestFromCache: the unallocated consumers and the per-tree diagnostics of UpdateForest are
    only logged. -/
def updateForestFromCache (b : Backend σ) (s : σ) : σ × Option String :=
  b.updateForest s quotaManagerForestName

def consumerTreeSpec (qm : QuotaManager σ) (aw : AppWrapper) (awId : String) (awResDemands : Resource)
    (treeNameToResourceTypes : AList (fun _ : String => List String))
    (quotaTreeDesignation : QuotaGroup) : JConsumerTreeSpec where
  id := awId
  treeName := quotaTreeDesignation.groupContext
  groupID := quotaTreeDesignation.groupId
  request := (getQuotaTreeResourceTypesDemands awResDemands
    ((treeNameToResourceTypes.lookup quotaTreeDesignation.groupContext).getD [])).1
  priority := aw.priority
  cType := 0
  unPreemptable := !qm.preemptionEnabled

/-- The consumer buildRequest hands to NewConsumerInfo, or the error it returns before. -/
def QuotaManager.buildConsumer (qm : QuotaManager σ) (b : Backend σ) (s : σ) (aw : AppWrapper)
    (awResDemands : Resource) : Except String JConsumerSpec :=
  let awId := b.createId aw.namespace aw.name
  if awId.length ≤ 0 then
    .error ("[buildRequest] Request failed due to invalid AppWrapper due to empty namespace: " ++
      aw.namespace ++ " or name:" ++ aw.name ++ ".")
  else
    let designation := getQuotaDesignation b s aw
    match designation.err with
    | some err => .error err
    | none => .ok ⟨awId, designation.groups.map
        (consumerTreeSpec qm aw awId awResDemands designation.treeNameToResourceTypes)⟩

def QuotaManager.buildRequest (qm : QuotaManager σ) (b : Backend σ) (s : σ) (aw : AppWrapper)
    (awResDemands : Resource) : Except String JConsumerSpec :=
  match qm.buildConsumer b s aw awResDemands with
  | .error err => .error err
  | .ok consumer =>
    match b.newConsumerInfo consumer with
    | some err => .error err
    | none => .ok consumer

def getAppWrappers (b : Backend σ) (preemptIds : List String) : List AppWrapper :=
  preemptIds.filterMap fun preemptId =>
    let parsed := b.parseId preemptId
    if parsed.1.length ≤ 0 ∨ parsed.2.length ≤ 0 then none else b.getAppWrapper parsed.1 parsed.2

/-- The plan refresh at the start of Fits: changed resource plans are loaded and the forest is
    rebuilt; a rebuild error is only logged. -/
def refreshPlans (b : Backend σ) (s : σ) : σ × List BackendCall :=
  if b.isResplanChanged s then
    b.perform (b.perform (s, []) .loadResourcePlansIntoBackend) (.updateForest quotaManagerForestName)
  else (s, [])

structure FitsResult where
  doesFit : Bool
  preemptIds : List AppWrapper
  message : String
deriving DecidableEq

/-- Fits, with the backend calls it makes. Its proposed preemptions are not read. -/
def QuotaManager.fits (qm : QuotaManager σ) (b : Backend σ) (aw : AppWrapper) (awResDemands : Resource) :
    QuotaManager σ × List BackendCall × FitsResult :=
  match qm.quotaManagerBackend with
  | none => (qm, [], ⟨false, [], "No quota manager backend exists"⟩)
  | some s =>
    if b.getMode s = .maintenance ∧ qm.initializationDone then
      (qm, [], ⟨false, [], "Quota Manager backend in maintenance mode"⟩)
    else
      let refreshed := refreshPlans b s
      match qm.buildRequest b refreshed.1 aw awResDemands with
      | .error err => ({ qm with quotaManagerBackend := some refreshed.1 }, refreshed.2, ⟨false, [], err⟩)
      | .ok consumerInfo =>
        let added := b.perform refreshed (.addConsumer consumerInfo)
        let allocated := b.perform added (.allocateForest quotaManagerForestName consumerInfo.id)
        let qm' := { qm with quotaManagerBackend := some allocated.1 }
        match (b.allocateForest added.1 quotaManagerForestName consumerInfo.id).2 with
        | .failed (some response) err =>
          (qm', allocated.2, ⟨false, [], if response.message.length > 0 then response.message else err⟩)
        | .failed none err => (qm', allocated.2, ⟨false, [], err⟩)
        | .allocated response =>
          (qm', allocated.2, ⟨response.allocated, getAppWrappers b response.preemptedIds, response.message⟩)

variable {qm : QuotaManager σ} {b : Backend σ} {s : σ} {aw : AppWrapper} {awResDemands : Resource}
  {consumer : JConsumerSpec}

theorem buildConsumer_eq_ok :
    qm.buildConsumer b s aw awResDemands = .ok consumer ↔
      b.createId aw.namespace aw.name ≠ "" ∧ (getQuotaDesignation b s aw).err = none ∧
        consumer = ⟨b.createId aw.namespace aw.name, (getQuotaDesignation b s aw).groups.map
          (consumerTreeSpec qm aw (b.createId aw.namespace aw.name) awResDemands
            (getQuotaDesignation b s aw).treeNameToResourceTypes)⟩ := by
  unfold QuotaManager.buildConsumer
  dsimp only
  by_cases unnamed : b.createId aw.namespace aw.name = ""
  · simp [unnamed]
  have named : ¬(b.createId aw.namespace aw.name).length ≤ 0 := by
    rwa [Nat.le_zero, length_eq_zero_iff]
  rw [if_neg named]
  split
  · rename_i err failed; simp [failed]
  · rename_i succeeded; simp [unnamed, succeeded, eq_comm]

theorem buildConsumer_trees (distinct : (b.getTreeNames s).Nodup)
    (named : b.createId aw.namespace aw.name ≠ "")
    (labelled : ∀ treeName ∈ b.getTreeNames s, treeName ∈ aw.labels) :
    ∃ consumer, qm.buildConsumer b s aw awResDemands = .ok consumer ∧
      consumer.id = b.createId aw.namespace aw.name ∧
      (consumer.trees.map fun tree => (tree.treeName, tree.groupID, tree.id)).Perm
        ((b.getTreeNames s).map fun treeName =>
          (treeName, (aw.labels.lookup treeName).getD "", b.createId aw.namespace aw.name)) := by
  have succeeded : (getQuotaDesignation b s aw).err = none := by
    by_contra failed
    obtain ⟨-, treeName, known, unlabelled⟩ := (getQuotaDesignation_err_ne_none_iff distinct).mp failed
    exact unlabelled (labelled treeName known)
  refine ⟨_, buildConsumer_eq_ok.mpr ⟨named, succeeded, rfl⟩, rfl, ?_⟩
  have trees := (getQuotaDesignation_groups_perm distinct succeeded).map
    fun group : QuotaGroup => (group.groupContext, group.groupId, b.createId aw.namespace aw.name)
  simpa [consumerTreeSpec, Function.comp_def] using trees

theorem buildConsumer_trees_on_two_trees :
    let aw : AppWrapper :=
      ⟨"default", "job", ((∅ : AList _).insert "silver" "b").insert "gold" "a", 0, true⟩
    let b := Backend.fixed ["gold", "silver"] fun _ => []
    let qm : QuotaManager Unit := ⟨true, some (), true⟩
    ∃ consumer, qm.buildConsumer b () aw ⟨1000, 0, 0⟩ = .ok consumer ∧
      consumer.id = b.createId aw.namespace aw.name ∧
      (consumer.trees.map fun tree => (tree.treeName, tree.groupID, tree.id)).Perm
        ((b.getTreeNames ()).map fun treeName =>
          (treeName, (aw.labels.lookup treeName).getD "", b.createId aw.namespace aw.name)) := by
  intro aw b qm
  exact buildConsumer_trees (by decide) (by decide) (by decide)

theorem buildRequest_eq_ok :
    qm.buildRequest b s aw awResDemands = .ok consumer ↔
      qm.buildConsumer b s aw awResDemands = .ok consumer ∧ b.newConsumerInfo consumer = none := by
  unfold QuotaManager.buildRequest
  cases qm.buildConsumer b s aw awResDemands with
  | error err => simp
  | ok built =>
    cases accepted : b.newConsumerInfo built with
    | some err =>
      simp only [accepted, reduceCtorEq, false_iff, not_and, Except.ok.injEq]
      rintro rfl; simp [accepted]
    | none =>
      simp only [accepted, Except.ok.injEq]
      exact ⟨fun same => ⟨same, same ▸ accepted⟩, fun both => both.1⟩

theorem buildRequest_requests (built : qm.buildRequest b s aw awResDemands = .ok consumer) :
    ∀ tree ∈ consumer.trees, ∀ resourceType, tree.request.lookup resourceType =
      if resourceType ∈ b.getResourceNames s tree.treeName then lastRuleDemand awResDemands resourceType
      else none := by
  obtain ⟨-, -, rfl⟩ := buildConsumer_eq_ok.mp (buildRequest_eq_ok.mp built).1
  intro tree mem resourceType
  obtain ⟨group, grouped, rfl⟩ := List.mem_map.mp mem
  obtain ⟨known, found⟩ := mem_getQuotaDesignation_groups grouped
  have labelled : group.groupContext ∈ aw.labels := AList.lookup_isSome.mp (by rw [found]; rfl)
  rw [consumerTreeSpec, getQuotaDesignation_resourceTypes, if_pos ⟨known, labelled⟩, Option.getD_some]
  exact lookup_getQuotaTreeResourceTypesDemands _

theorem buildRequest_requests_on_fixed_backend :
    let aw : AppWrapper := ⟨"default", "job", (∅ : AList _).insert "gold" "a", 0, true⟩
    let b := Backend.fixed ["gold"] fun _ => ["cpu", "nvidia.com/gpu"]
    let qm : QuotaManager Unit := ⟨true, some (), true⟩
    let consumer := match qm.buildRequest b () aw ⟨1000, 0, 2⟩ with
      | .ok consumer => consumer
      | .error _ => ⟨"", []⟩
    ∀ tree ∈ consumer.trees, ∀ resourceType, tree.request.lookup resourceType =
      if resourceType ∈ b.getResourceNames () tree.treeName then lastRuleDemand ⟨1000, 0, 2⟩ resourceType
      else none := by
  intro aw b qm consumer
  exact buildRequest_requests (show qm.buildRequest b () aw _ = .ok consumer by rfl)

theorem mem_getAppWrappers {preemptIds : List String} {victim : AppWrapper} :
    victim ∈ getAppWrappers b preemptIds ↔ ∃ preemptId ∈ preemptIds,
      (b.parseId preemptId).1 ≠ "" ∧ (b.parseId preemptId).2 ≠ "" ∧
        b.getAppWrapper (b.parseId preemptId).1 (b.parseId preemptId).2 = some victim := by
  simp only [getAppWrappers, List.mem_filterMap, Nat.le_zero, length_eq_zero_iff]
  refine exists_congr fun preemptId => and_congr_right fun _ => ?_
  by_cases unparsed : (b.parseId preemptId).1 = "" ∨ (b.parseId preemptId).2 = ""
  · rw [if_pos unparsed]
    exact ⟨fun none => (by cases none), fun ⟨named, named', _⟩ => (unparsed.elim named named').elim⟩
  · rw [if_neg unparsed]
    exact ⟨fun found => ⟨(not_or.mp unparsed).1, (not_or.mp unparsed).2, found⟩, fun parsed => parsed.2.2⟩

theorem refreshPlans_calls : ∀ call ∈ (refreshPlans b s).2, call.touchesConsumer = false := by
  unfold refreshPlans
  split_ifs <;> simp [BackendCall.touchesConsumer]

theorem fits_of_none (detached : qm.quotaManagerBackend = none) :
    qm.fits b aw awResDemands = (qm, [], ⟨false, [], "No quota manager backend exists"⟩) := by
  simp [QuotaManager.fits, detached]

theorem fits_of_maintenance (attached : qm.quotaManagerBackend = some s)
    (gated : b.getMode s = .maintenance ∧ qm.initializationDone) :
    qm.fits b aw awResDemands = (qm, [], ⟨false, [], "Quota Manager backend in maintenance mode"⟩) := by
  simp only [QuotaManager.fits, attached, if_pos gated]

theorem fits_of_error {err : String} (attached : qm.quotaManagerBackend = some s)
    (passes : ¬(b.getMode s = .maintenance ∧ qm.initializationDone))
    (failed : qm.buildRequest b (refreshPlans b s).1 aw awResDemands = .error err) :
    qm.fits b aw awResDemands =
      ({ qm with quotaManagerBackend := some (refreshPlans b s).1 }, (refreshPlans b s).2, ⟨false, [], err⟩) := by
  simp only [QuotaManager.fits, attached, if_neg passes, failed]

theorem fits_of_allocated {response : AllocationResponse} (attached : qm.quotaManagerBackend = some s)
    (passes : ¬(b.getMode s = .maintenance ∧ qm.initializationDone))
    (built : qm.buildRequest b (refreshPlans b s).1 aw awResDemands = .ok consumer)
    (answered : (b.allocateForest (b.addConsumer (refreshPlans b s).1 consumer) quotaManagerForestName
      consumer.id).2 = .allocated response) :
    (qm.fits b aw awResDemands).2.2 =
      ⟨response.allocated, getAppWrappers b response.preemptedIds, response.message⟩ := by
  simp only [QuotaManager.fits, attached, if_neg passes, built, Backend.perform_state, BackendCall.apply,
    answered]

theorem fits_of_failed {response : Option AllocationResponse} {err : String}
    (attached : qm.quotaManagerBackend = some s)
    (passes : ¬(b.getMode s = .maintenance ∧ qm.initializationDone))
    (built : qm.buildRequest b (refreshPlans b s).1 aw awResDemands = .ok consumer)
    (failed : (b.allocateForest (b.addConsumer (refreshPlans b s).1 consumer) quotaManagerForestName
      consumer.id).2 = .failed response err) :
    (qm.fits b aw awResDemands).2.2 =
      ⟨false, [], match response with
        | some response => if response.message.length > 0 then response.message else err
        | none => err⟩ := by
  cases response <;> simp only [QuotaManager.fits, attached, if_neg passes, built, Backend.perform_state,
    BackendCall.apply, failed]

theorem fits_admitted (admitted : (qm.fits b aw awResDemands).2.2.doesFit = true) :
    ∃ s, qm.quotaManagerBackend = some s ∧ ¬(b.getMode s = .maintenance ∧ qm.initializationDone) ∧
      (∀ treeName ∈ b.getTreeNames (refreshPlans b s).1, treeName ∈ aw.labels) ∧
      ∃ consumer response, qm.buildRequest b (refreshPlans b s).1 aw awResDemands = .ok consumer ∧
        (b.allocateForest (b.addConsumer (refreshPlans b s).1 consumer) quotaManagerForestName
          consumer.id).2 = .allocated response ∧ response.allocated = true := by
  cases attached : qm.quotaManagerBackend with
  | none => rw [fits_of_none attached] at admitted; cases admitted
  | some s =>
    by_cases gated : b.getMode s = .maintenance ∧ qm.initializationDone
    · rw [fits_of_maintenance attached gated] at admitted; cases admitted
    cases built : qm.buildRequest b (refreshPlans b s).1 aw awResDemands with
    | error err => rw [fits_of_error attached gated built] at admitted; cases admitted
    | ok consumer =>
      have designated := (buildConsumer_eq_ok.mp (buildRequest_eq_ok.mp built).1).2.1
      cases answered : (b.allocateForest (b.addConsumer (refreshPlans b s).1 consumer)
          quotaManagerForestName consumer.id).2 with
      | allocated response =>
        rw [fits_of_allocated attached gated built answered] at admitted
        exact ⟨s, rfl, gated, labelled_of_err_eq_none designated, consumer, response, built, answered,
          admitted⟩
      | failed response err => rw [fits_of_failed attached gated built answered] at admitted; cases admitted

theorem fits_calls_of_refused (refused : qm.quotaManagerBackend = none ∨ ∃ s, qm.quotaManagerBackend = some s ∧
      ((b.getMode s = .maintenance ∧ qm.initializationDone) ∨
        ∃ err, qm.buildRequest b (refreshPlans b s).1 aw awResDemands = .error err)) :
    ∀ call ∈ (qm.fits b aw awResDemands).2.1, call.touchesConsumer = false := by
  rcases refused with detached | ⟨s, attached, gated | ⟨err, failed⟩⟩
  · rw [fits_of_none detached]; simp
  · rw [fits_of_maintenance attached gated]; simp
  · by_cases closed : b.getMode s = .maintenance ∧ qm.initializationDone
    · rw [fits_of_maintenance attached closed]; simp
    · rw [fits_of_error attached closed failed]; exact refreshPlans_calls

theorem fits_fail_closed (qm : QuotaManager σ) (b : Backend σ) (aw : AppWrapper) (awResDemands : Resource) :
    ((qm.fits b aw awResDemands).2.2.doesFit = true →
      ∃ s, qm.quotaManagerBackend = some s ∧ ¬(b.getMode s = .maintenance ∧ qm.initializationDone) ∧
        (∀ treeName ∈ b.getTreeNames (refreshPlans b s).1, treeName ∈ aw.labels) ∧
        ∃ consumer response, qm.buildRequest b (refreshPlans b s).1 aw awResDemands = .ok consumer ∧
          (b.allocateForest (b.addConsumer (refreshPlans b s).1 consumer) quotaManagerForestName
            consumer.id).2 = .allocated response ∧ response.allocated = true) ∧
    ((qm.quotaManagerBackend = none ∨ ∃ s, qm.quotaManagerBackend = some s ∧
        ((b.getMode s = .maintenance ∧ qm.initializationDone) ∨
          ∃ err, qm.buildRequest b (refreshPlans b s).1 aw awResDemands = .error err)) →
      ∀ call ∈ (qm.fits b aw awResDemands).2.1, call.touchesConsumer = false) :=
  ⟨fits_admitted, fits_calls_of_refused⟩

end Mcad.Quota
