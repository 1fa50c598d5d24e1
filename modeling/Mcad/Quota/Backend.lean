import Mathlib.Data.List.AList
import Mcad.Api.Resource

namespace Mcad.Quota

open Mcad.Api

def quotaManagerForestName : String := "MCAD-CONTROLLER-FOREST"

/-- Go's `MaxInt` on a 64-bit platform. -/
def maxInt : Int := 2 ^ 63 - 1

/-- The fields of an AppWrapper the quota manager reads. A nil label map behaves as an empty one
    everywhere the quota manager reads it. -/
structure AppWrapper where
  «namespace» : String
  name : String
  labels : AList (fun _ : String => String)
  priority : Int
  canRun : Bool
deriving DecidableEq

structure QuotaGroup where
  groupContext : String
  groupId : String
deriving DecidableEq, Repr

structure JConsumerTreeSpec where
  id : String
  treeName : String
  groupID : String
  request : AList (fun _ : String => Int)
  priority : Int
  cType : Nat
  unPreemptable : Bool
deriving DecidableEq

structure JConsumerSpec where
  id : String
  trees : List JConsumerTreeSpec
deriving DecidableEq

inductive BackendMode where
  | normal
  | maintenance
deriving DecidableEq, Repr

structure AllocationResponse where
  allocated : Bool
  message : String
  preemptedIds : List String
deriving DecidableEq

/-- What AllocateForest returns: a response when it reports no error, and possibly one beside an
    error. -/
inductive AllocateOutcome where
  | allocated (response : AllocationResponse)
  | failed (response : Option AllocationResponse) (err : String)
deriving DecidableEq

/-- The calls the quota manager makes outside itself. The state `σ` is the backend's together with
    the resource plan manager's, which loads plans into the backend; the AppWrapper lister and the
    id helpers of the quota manager's util package are pure. `newConsumerInfo` returns the error of
    the library's NewConsumerInfo, whose consumer keeps the spec's id. -/
structure Backend (σ : Type) where
  newManager : σ
  addForest : σ → String → σ
  newResourcePlanManager : σ → σ
  setMode : σ → BackendMode → σ
  getMode : σ → BackendMode
  getTreeNames : σ → List String
  getResourceNames : σ → String → List String
  isResplanChanged : σ → Bool
  loadResourcePlansIntoBackend : σ → σ
  updateForest : σ → String → σ × Option String
  newConsumerInfo : JConsumerSpec → Option String
  addConsumer : σ → JConsumerSpec → σ
  allocateForest : σ → String → String → σ × AllocateOutcome
  deAllocateForest : σ → String → String → σ × Bool
  removeConsumer : σ → String → σ × Bool × Option String
  getAppWrapper : String → String → Option AppWrapper
  createId : String → String → String
  parseId : String → String × String

inductive BackendCall where
  | loadResourcePlansIntoBackend
  | updateForest (forestName : String)
  | addConsumer (consumer : JConsumerSpec)
  | allocateForest (forestName consumerID : String)
  | deAllocateForest (forestName consumerID : String)
  | removeConsumer (consumerID : String)
deriving DecidableEq

def BackendCall.touchesConsumer : BackendCall → Bool
  | .loadResourcePlansIntoBackend | .updateForest _ => false
  | _ => true

variable {σ : Type}

def BackendCall.apply (b : Backend σ) (s : σ) : BackendCall → σ
  | .loadResourcePlansIntoBackend => b.loadResourcePlansIntoBackend s
  | .updateForest forestName => (b.updateForest s forestName).1
  | .addConsumer consumer => b.addConsumer s consumer
  | .allocateForest forestName consumerID => (b.allocateForest s forestName consumerID).1
  | .deAllocateForest forestName consumerID => (b.deAllocateForest s forestName consumerID).1
  | .removeConsumer consumerID => (b.removeConsumer s consumerID).1

/-- A call made on the backend: applied to its state and appended to the calls made so far. -/
def Backend.perform (b : Backend σ) (made : σ × List BackendCall) (call : BackendCall) :
    σ × List BackendCall :=
  (call.apply b made.1, made.2 ++ [call])

@[simp] theorem Backend.perform_state (b : Backend σ) (made : σ × List BackendCall) (call : BackendCall) :
    (b.perform made call).1 = call.apply b made.1 := rfl

@[simp] theorem Backend.perform_calls (b : Backend σ) (made : σ × List BackendCall) (call : BackendCall) :
    (b.perform made call).2 = made.2 ++ [call] := rfl

def Replays (b : Backend σ) (start : σ) (made : σ × List BackendCall) : Prop :=
  made.1 = made.2.foldl (BackendCall.apply b) start

theorem Replays.perform {b : Backend σ} {start : σ} {made : σ × List BackendCall}
    (replays : Replays b start made) (call : BackendCall) : Replays b start (b.perform made call) := by
  rw [Replays, Backend.perform_state, Backend.perform_calls, List.foldl_append, ← replays]; rfl

structure QuotaManager (σ : Type) where
  preemptionEnabled : Bool
  quotaManagerBackend : Option σ
  initializationDone : Bool

def Backend.fixed (trees : List String) (resourceNames : String → List String) : Backend Unit where
  newManager := ()
  addForest s _ := s
  newResourcePlanManager s := s
  setMode s _ := s
  getMode _ := .normal
  getTreeNames _ := trees
  getResourceNames _ := resourceNames
  isResplanChanged _ := false
  loadResourcePlansIntoBackend s := s
  updateForest s _ := (s, none)
  newConsumerInfo _ := none
  addConsumer s _ := s
  allocateForest s _ _ := (s, .allocated ⟨false, "", []⟩)
  deAllocateForest s _ _ := (s, false)
  removeConsumer s _ := (s, false, none)
  getAppWrapper _ _ := none
  createId ns n := if ns.length = 0 ∨ n.length = 0 then "" else ns ++ "_" ++ n
  parseId _ := ("", "")

end Mcad.Quota
