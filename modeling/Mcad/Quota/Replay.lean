import Mcad.Quota.Fits

namespace Mcad.Quota

open Mcad.Api Mcad.Go

/-- What Go's runtime puts into the replay's error texts beyond the quota manager's data: whether a
    code point above U+00FF is printable (Unicode tables), and how fmt prints a slice of AppWrapper
    pointers under a verb (their run-time addresses). -/
structure Printer where
  isPrintAbove : Char → Bool
  appWrappers : Char → List AppWrapper → String

/-- A nil AppWrapper stored in the map behaves as a missing key, so the map holds none. -/
def getDispatchedAppWrapper (dispatchedAWs : AList (fun _ : String => AppWrapper)) (awId : String) :
    Option AppWrapper :=
  match dispatchedAWs.lookup awId with
  | some aw => if aw.canRun then some aw else none
  | none => none

def replayError (printer : Printer) (err : Option String) (aw : AppWrapper) (result : FitsResult) :
    Option String :=
  let err := if result.doesFit = false then
      some ("Loading of AppWrapper " ++ aw.namespace ++ "/" ++ aw.name ++ " failed, " ++
        quote printer.isPrintAbove result.message ++ " \n")
    else err
  if result.preemptIds.length > 0 then
    match err with
    | none => some ("Loading of AppWrapper " ++ aw.namespace ++ "/" ++ aw.name ++
        " caused invalid preemptions: " ++ printer.appWrappers 'v' result.preemptIds ++
        ".  Quota Manager is in inconsistent state. \n")
    | some err => some (err ++ "; Next error " ++ aw.namespace ++ " Loading of AppWrapper " ++
        aw.name ++ "/" ++ printer.appWrappers 's' result.preemptIds ++
        " caused invalid preemptions: %!v(MISSING).  Quota Manager is in inconsistent state. \n")
  else err

abbrev Demand := Sigma fun _ : String => Resource

/-- One entry of dispatchedAWDemands: a runnable AppWrapper is replayed through `fits`, whose state
    `τ` is threaded through the loop. -/
def replayDispatched {τ : Type} (printer : Printer) (fits : τ → AppWrapper → Resource → τ × FitsResult)
    (dispatchedAWs : AList (fun _ : String => AppWrapper)) (state : τ × Option String) (entry : Demand) :
    τ × Option String :=
  match getDispatchedAppWrapper dispatchedAWs entry.1 with
  | none => state
  | some aw =>
    let fitted := fits state.1 aw entry.2
    (fitted.1, replayError printer state.2 aw fitted.2)

def QuotaManager.replayFits {σ : Type} (b : Backend σ) (qm : QuotaManager σ) (aw : AppWrapper)
    (awResDemands : Resource) : QuotaManager σ × FitsResult :=
  let fitted := qm.fits b aw awResDemands
  (fitted.1, fitted.2.2)

def QuotaManager.loadDispatchedAWs {σ : Type} (qm : QuotaManager σ) (b : Backend σ) (printer : Printer)
    (dispatchedAWDemands : AList (fun _ : String => Resource))
    (dispatchedAWs : AList (fun _ : String => AppWrapper)) : QuotaManager σ × Option String :=
  if dispatchedAWDemands.entries.length ≤ 0 then (qm, none)
  else dispatchedAWDemands.entries.foldl
    (replayDispatched printer (QuotaManager.replayFits b) dispatchedAWs) (qm, none)

/-- The Fits outcomes the replay sees, in order: each runnable AppWrapper with its Fits result. -/
def replayOutcomes {τ : Type} (fits : τ → AppWrapper → Resource → τ × FitsResult)
    (dispatchedAWs : AList (fun _ : String => AppWrapper)) : τ → List Demand → List (AppWrapper × FitsResult)
  | _, [] => []
  | state, entry :: entries =>
    match getDispatchedAppWrapper dispatchedAWs entry.1 with
    | none => replayOutcomes fits dispatchedAWs state entries
    | some aw =>
      let fitted := fits state aw entry.2
      (aw, fitted.2) :: replayOutcomes fits dispatchedAWs fitted.1 entries

def FitsResult.Consistent (result : FitsResult) : Prop := result.doesFit = true ∧ result.preemptIds = []

variable {τ : Type} {printer : Printer} {fits : τ → AppWrapper → Resource → τ × FitsResult}
  {dispatchedAWs : AList (fun _ : String => AppWrapper)} {err : Option String} {aw : AppWrapper}
  {result : FitsResult}

theorem replayError_eq_none_iff :
    replayError printer err aw result = none ↔ err = none ∧ result.Consistent := by
  unfold replayError FitsResult.Consistent
  cases preempt : result.preemptIds with
  | cons victim victims =>
    simp only [List.length_cons, gt_iff_lt, Nat.zero_lt_succ, if_true, reduceCtorEq, and_false, iff_false]
    split <;> exact Option.some_ne_none _
  | nil => cases fit : result.doesFit <;> simp [fit]

theorem replayError_of_not_fit (unfit : result.doesFit = false) (none : result.preemptIds = []) :
    replayError printer err aw result = some ("Loading of AppWrapper " ++ aw.namespace ++ "/" ++
      aw.name ++ " failed, " ++ quote printer.isPrintAbove result.message ++ " \n") := by
  simp [replayError, unfit, none]

theorem foldl_replayDispatched (entries : List Demand) (state : τ) :
    (entries.foldl (replayDispatched printer fits dispatchedAWs) (state, err)).2 =
      (replayOutcomes fits dispatchedAWs state entries).foldl
        (fun err outcome => replayError printer err outcome.1 outcome.2) err := by
  induction entries generalizing state err with
  | nil => rfl
  | cons entry entries ih =>
    simp only [List.foldl_cons, replayOutcomes, replayDispatched]
    split
    · exact ih state
    · exact ih _

theorem replayOutcomes_appWrappers (entries : List Demand) (state : τ) :
    (replayOutcomes fits dispatchedAWs state entries).map Prod.fst =
      entries.filterMap fun entry => getDispatchedAppWrapper dispatchedAWs entry.1 := by
  induction entries generalizing state with
  | nil => rfl
  | cons entry entries ih =>
    simp only [replayOutcomes, List.filterMap_cons]
    split <;> simp_all

theorem foldl_replayError_eq_none_iff (outcomes : List (AppWrapper × FitsResult)) :
    outcomes.foldl (fun err outcome => replayError printer err outcome.1 outcome.2) err = none ↔
      err = none ∧ ∀ outcome ∈ outcomes, outcome.2.Consistent := by
  induction outcomes generalizing err with
  | nil => simp
  | cons outcome outcomes ih =>
    rw [List.foldl_cons, ih, replayError_eq_none_iff, List.forall_mem_cons, and_assoc]

theorem replayError_of_fit (fit : result.doesFit = true) (none : result.preemptIds = []) :
    replayError printer err aw result = err := by
  simp [replayError, fit, none]

theorem foldl_replayError_of_no_preemptions (outcomes : List (AppWrapper × FitsResult))
    (none : ∀ outcome ∈ outcomes, outcome.2.preemptIds = []) :
    outcomes.foldl (fun err outcome => replayError printer err outcome.1 outcome.2) err =
      ((outcomes.filter fun outcome => !outcome.2.doesFit).getLast?.map fun outcome =>
        "Loading of AppWrapper " ++ outcome.1.namespace ++ "/" ++ outcome.1.name ++ " failed, " ++
          quote printer.isPrintAbove outcome.2.message ++ " \n").or err := by
  induction outcomes generalizing err with
  | nil => rfl
  | cons outcome outcomes ih =>
    rw [List.forall_mem_cons] at none
    rw [List.foldl_cons, ih none.2, List.filter_cons]
    cases fit : outcome.2.doesFit
    · rw [replayError_of_not_fit fit none.1]
      simp only [Bool.not_false, if_true, List.getLast?_cons]
      cases (outcomes.filter fun outcome => !outcome.2.doesFit).getLast? <;> rfl
    · rw [replayError_of_fit fit none.1]
      simp

theorem loadDispatchedAWs_eq_none_iff {σ : Type} (qm : QuotaManager σ) (b : Backend σ)
    (dispatchedAWDemands : AList (fun _ : String => Resource)) :
    (qm.loadDispatchedAWs b printer dispatchedAWDemands dispatchedAWs).2 = none ↔
      ∀ outcome ∈ replayOutcomes (QuotaManager.replayFits b) dispatchedAWs qm dispatchedAWDemands.entries,
        outcome.2.Consistent := by
  unfold QuotaManager.loadDispatchedAWs
  split_ifs with empty
  · rw [List.length_eq_zero.mp (Nat.le_zero.mp empty)]; simp [replayOutcomes]
  · rw [foldl_replayDispatched, foldl_replayError_eq_none_iff]
    simp

theorem loadDispatchedAWs_last_failure {σ : Type} (qm : QuotaManager σ) (b : Backend σ)
    (dispatchedAWDemands : AList (fun _ : String => Resource))
    (none : ∀ outcome ∈ replayOutcomes (QuotaManager.replayFits b) dispatchedAWs qm
      dispatchedAWDemands.entries, outcome.2.preemptIds = []) :
    (qm.loadDispatchedAWs b printer dispatchedAWDemands dispatchedAWs).2 =
      ((replayOutcomes (QuotaManager.replayFits b) dispatchedAWs qm dispatchedAWDemands.entries).filter
        fun outcome => !outcome.2.doesFit).getLast?.map fun outcome =>
          "Loading of AppWrapper " ++ outcome.1.namespace ++ "/" ++ outcome.1.name ++ " failed, " ++
            quote printer.isPrintAbove outcome.2.message ++ " \n" := by
  unfold QuotaManager.loadDispatchedAWs
  split_ifs with empty
  · rw [List.length_eq_zero.mp (Nat.le_zero.mp empty)]; rfl
  · rw [foldl_replayDispatched, foldl_replayError_of_no_preemptions _ none, Option.or_none]

theorem loadDispatchedAWs_last_failure_on_fixed_backend :
    let first : AppWrapper := ⟨"default", "a", ∅, 0, true⟩
    let last : AppWrapper := ⟨"default", "b", ∅, 0, true⟩
    let qm : QuotaManager Unit := ⟨false, some (), false⟩
    let demands : AList (fun _ : String => Resource) :=
      ((∅ : AList _).insert "default_b" ⟨0, 0, 0⟩).insert "default_a" ⟨0, 0, 0⟩
    let dispatchedAWs : AList (fun _ : String => AppWrapper) :=
      ((∅ : AList _).insert "default_b" last).insert "default_a" first
    let printer : Printer := ⟨fun _ => true, fun _ _ => "[]"⟩
    (qm.loadDispatchedAWs (Backend.fixed [] fun _ => []) printer demands dispatchedAWs).2 =
      some "Loading of AppWrapper default/b failed, \"\" \n" := by
  intro first last qm demands dispatchedAWs printer
  exact (loadDispatchedAWs_last_failure qm _ demands (by decide)).trans (by decide)

theorem load_dispatched_reports_last_failure :
    let first : AppWrapper := ⟨"default", "a", ∅, 0, true⟩
    let last : AppWrapper := ⟨"default", "b", ∅, 0, true⟩
    let qm : QuotaManager Unit := ⟨false, some (), false⟩
    let demands : AList (fun _ : String => Resource) :=
      ((∅ : AList _).insert "default_b" ⟨0, 0, 0⟩).insert "default_a" ⟨0, 0, 0⟩
    let dispatchedAWs : AList (fun _ : String => AppWrapper) :=
      ((∅ : AList _).insert "default_b" last).insert "default_a" first
    let printer : Printer := ⟨fun _ => true, fun _ _ => "[]"⟩
    (replayOutcomes (QuotaManager.replayFits (Backend.fixed [] fun _ => [])) dispatchedAWs qm
        demands.entries).map (fun outcome => (outcome.1.name, outcome.2)) =
      [(first.name, ⟨false, [], ""⟩), (last.name, ⟨false, [], ""⟩)] ∧
      (qm.loadDispatchedAWs (Backend.fixed [] fun _ => []) printer demands dispatchedAWs).2 =
        some "Loading of AppWrapper default/b failed, \"\" \n" ∧
      contains "Loading of AppWrapper default/b failed, \"\" \n" "default/a" = false := by
  decide

end Mcad.Quota
