import Mathlib.Data.List.Chain
import Mcad.Quota.Replay

namespace Mcad.Quota

open Mcad.Api

structure ServerOption where
  quotaEnabled : Bool
  preemption : Bool

variable {σ : Type}

/-- NewQuotaManager: none when quota management is off. The forest is rebuilt and the dispatched
    AppWrappers are replayed before initialization is marked done; the two errors are chained. -/
def newQuotaManager (b : Backend σ) (printer : Printer)
    (dispatchedAWDemands : AList (fun _ : String => Resource))
    (dispatchedAWs : AList (fun _ : String => AppWrapper)) (serverOptions : ServerOption) :
    Option (QuotaManager σ) × Option String :=
  if serverOptions.quotaEnabled = false then (none, none)
  else
    let created := b.newResourcePlanManager (b.addForest b.newManager quotaManagerForestName)
    let refreshed := updateForestFromCache b created
    let qm : QuotaManager σ := ⟨serverOptions.preemption, some refreshed.1, false⟩
    let loaded := qm.loadDispatchedAWs b printer dispatchedAWDemands dispatchedAWs
    let err := match loaded.2, refreshed.2 with
      | none, err => err
      | some err2, none => some err2
      | some err2, some err => some (err ++ "; Next error " ++ err2)
    (some { loaded.1 with
      quotaManagerBackend := loaded.1.quotaManagerBackend.map (b.setMode · .normal)
      initializationDone := true }, err)

def QuotaManager.release (qm : QuotaManager σ) (b : Backend σ) (aw : AppWrapper) :
    QuotaManager σ × List BackendCall × Bool :=
  match qm.quotaManagerBackend with
  | none => (qm, [], false)
  | some s =>
    let awId := b.createId aw.namespace aw.name
    if awId.length ≤ 0 then (qm, [], false)
    else
      let deallocated := b.perform (s, []) (.deAllocateForest quotaManagerForestName awId)
      let removed := b.perform deallocated (.removeConsumer awId)
      ({ qm with quotaManagerBackend := some removed.1 }, removed.2,
        (b.deAllocateForest s quotaManagerForestName awId).2)

structure QuotaManager.SameSettings (qm qm' : QuotaManager σ) : Prop where
  preemptionEnabled : qm'.preemptionEnabled = qm.preemptionEnabled
  initializationDone : qm'.initializationDone = qm.initializationDone
  attached : qm'.quotaManagerBackend.isSome = qm.quotaManagerBackend.isSome

theorem QuotaManager.SameSettings.trans {qm qm' qm'' : QuotaManager σ} (first : qm.SameSettings qm')
    (second : qm'.SameSettings qm'') : qm.SameSettings qm'' :=
  ⟨second.1.trans first.1, second.2.trans first.2, second.3.trans first.3⟩

variable {qm : QuotaManager σ} {b : Backend σ} {aw : AppWrapper} {awResDemands : Resource}

theorem fits_sameSettings : qm.SameSettings (qm.fits b aw awResDemands).1 := by
  unfold QuotaManager.fits
  split
  · exact ⟨rfl, rfl, rfl⟩
  · rename_i s attached
    split_ifs
    · exact ⟨rfl, rfl, rfl⟩
    · dsimp only
      split
      · exact ⟨rfl, rfl, by simp [attached]⟩
      · split <;> exact ⟨rfl, rfl, by simp [attached]⟩

theorem fits_of_initializing (initializing : qm.initializationDone = false) (mode : σ → BackendMode) :
    qm.fits { b with getMode := mode } aw awResDemands = qm.fits b aw awResDemands := by
  unfold QuotaManager.fits
  split
  · rfl
  · simp only [initializing, Bool.false_eq_true, and_false, ↓reduceIte]
    rfl

theorem foldl_replayDispatched_of_initializing (printer : Printer)
    (dispatchedAWs : AList (fun _ : String => AppWrapper)) (mode : σ → BackendMode) (entries : List Demand)
    (err : Option String) (initializing : qm.initializationDone = false) :
    entries.foldl (replayDispatched printer (QuotaManager.replayFits { b with getMode := mode }) dispatchedAWs)
        (qm, err) =
      entries.foldl (replayDispatched printer (QuotaManager.replayFits b) dispatchedAWs) (qm, err) := by
  induction entries generalizing qm err with
  | nil => rfl
  | cons entry entries ih =>
    simp only [List.foldl_cons, replayDispatched, QuotaManager.replayFits, fits_of_initializing initializing]
    split
    · exact ih _ initializing
    · exact ih _ (fits_sameSettings.initializationDone.trans initializing)

theorem loadDispatchedAWs_of_initializing (printer : Printer)
    (dispatchedAWDemands : AList (fun _ : String => Resource))
    (dispatchedAWs : AList (fun _ : String => AppWrapper)) (mode : σ → BackendMode)
    (initializing : qm.initializationDone = false) :
    qm.loadDispatchedAWs { b with getMode := mode } printer dispatchedAWDemands dispatchedAWs =
      qm.loadDispatchedAWs b printer dispatchedAWDemands dispatchedAWs := by
  unfold QuotaManager.loadDispatchedAWs
  split_ifs
  · rfl
  · exact foldl_replayDispatched_of_initializing printer dispatchedAWs mode _ none initializing

theorem newQuotaManager_mode_independent (printer : Printer)
    (dispatchedAWDemands : AList (fun _ : String => Resource))
    (dispatchedAWs : AList (fun _ : String => AppWrapper)) (serverOptions : ServerOption)
    (mode : σ → BackendMode) :
    newQuotaManager { b with getMode := mode } printer dispatchedAWDemands dispatchedAWs serverOptions =
      newQuotaManager b printer dispatchedAWDemands dispatchedAWs serverOptions := by
  unfold newQuotaManager
  split_ifs
  · rfl
  · dsimp only
    rw [loadDispatchedAWs_of_initializing printer dispatchedAWDemands dispatchedAWs mode rfl]
    rfl

inductive Admission where
  | fits (aw : AppWrapper) (awResDemands : Resource)
  | release (aw : AppWrapper)

def QuotaManager.handle (qm : QuotaManager σ) (b : Backend σ) :
    Admission → QuotaManager σ × List BackendCall
  | .fits aw awResDemands => ((qm.fits b aw awResDemands).1, (qm.fits b aw awResDemands).2.1)
  | .release aw => ((qm.release b aw).1, (qm.release b aw).2.1)

/-- A run of calls on one quota manager, with every backend call it makes, in order. -/
def QuotaManager.run (qm : QuotaManager σ) (b : Backend σ) :
    List Admission → QuotaManager σ × List BackendCall
  | [] => (qm, [])
  | call :: calls =>
    let handled := qm.handle b call
    let rest := handled.1.run b calls
    (rest.1, handled.2 ++ rest.2)

theorem foldl_replayDispatched_run (printer : Printer) (dispatchedAWs : AList (fun _ : String => AppWrapper))
    (entries : List Demand) (err : Option String) :
    (entries.foldl (replayDispatched printer (QuotaManager.replayFits b) dispatchedAWs) (qm, err)).1 =
      (qm.run b (entries.filterMap fun entry =>
        (getDispatchedAppWrapper dispatchedAWs entry.1).map fun aw => .fits aw entry.2)).1 := by
  induction entries generalizing qm err with
  | nil => rfl
  | cons entry entries ih =>
    rw [List.foldl_cons, replayDispatched, List.filterMap_cons]
    cases getDispatchedAppWrapper dispatchedAWs entry.1 <;> exact ih _

theorem loadDispatchedAWs_consistency {printer : Printer} {dispatchedAWs : AList (fun _ : String => AppWrapper)}
    (qm : QuotaManager σ) (b : Backend σ) (dispatchedAWDemands : AList (fun _ : String => Resource)) :
    (replayOutcomes (QuotaManager.replayFits b) dispatchedAWs qm dispatchedAWDemands.entries).map
        Prod.fst = dispatchedAWDemands.entries.filterMap
          (fun entry => getDispatchedAppWrapper dispatchedAWs entry.1) ∧
      (qm.loadDispatchedAWs b printer dispatchedAWDemands dispatchedAWs).1 =
        (qm.run b (dispatchedAWDemands.entries.filterMap fun entry =>
          (getDispatchedAppWrapper dispatchedAWs entry.1).map fun aw => .fits aw entry.2)).1 ∧
      ((qm.loadDispatchedAWs b printer dispatchedAWDemands dispatchedAWs).2 = none ↔
        ∀ outcome ∈ replayOutcomes (QuotaManager.replayFits b) dispatchedAWs qm
          dispatchedAWDemands.entries, outcome.2.Consistent) := by
  refine ⟨replayOutcomes_appWrappers _ _, ?_, loadDispatchedAWs_eq_none_iff qm b _⟩
  unfold QuotaManager.loadDispatchedAWs
  split_ifs with empty
  · rw [List.length_eq_zero.mp (Nat.le_zero.mp empty)]; rfl
  · exact foldl_replayDispatched_run printer dispatchedAWs _ none

/-- The call that must come right before `next`: an allocation right after the registration of its
    consumer, a removal right after the deallocation of its consumer. -/
def BackendCall.Follows (prev next : BackendCall) : Prop :=
  match next with
  | .allocateForest _ consumerID => ∃ consumer, prev = .addConsumer consumer ∧ consumer.id = consumerID
  | .removeConsumer consumerID => prev = .deAllocateForest quotaManagerForestName consumerID
  | _ => True

def BackendCall.needsPrevious : BackendCall → Bool
  | .allocateForest _ _ | .removeConsumer _ => true
  | _ => false

structure InOrder (log : List BackendCall) : Prop where
  chain : log.Chain' BackendCall.Follows
  opens : ∀ call ∈ log.head?, call.needsPrevious = false

theorem InOrder.nil : InOrder [] := ⟨List.chain'_nil, fun _ opening => by cases opening⟩

end Mcad.Quota
