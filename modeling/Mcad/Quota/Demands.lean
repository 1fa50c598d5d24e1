import Mcad.Go.Float
import Mcad.Go.Text
import Mcad.Quota.Backend

namespace Mcad.Quota

open Mcad.Api Mcad.Go

def convertInt64Demand (int64Demand : Int) : Int × Option String :=
  if int64Demand > maxInt then
    (maxInt, some ("demand " ++ toString int64Demand ++
      " is larger than Max Quota Management Backend size, resetting demand to " ++ toString maxInt))
  else (int64Demand, none)

/-- Go compares with float64(MaxInt), which rounds up to 2^63, and converts with int(). -/
def convertFloat64Demand (floatDemand : ExactFloat) : Int × Option String :=
  if floatDemand.num > 2 ^ 63 * floatDemand.den then
    (maxInt, some ("demand " ++ floatDemand.format ++
      " is larger than Max Quota Management Backend size, resetting demand to " ++ toString maxInt))
  else (floatDemand.toInt, none)

/-- MilliCPU and Memory are float64 in the code: each integer quantity is taken as the float64
    nearest it, and Memory/1000000 is a float64 division. -/
def cpuDemand (awResDemands : Resource) : ExactFloat := (ExactFloat.ofInt awResDemands.milliCPU).toFloat64

def memoryDemand (awResDemands : Resource) : ExactFloat :=
  ((ExactFloat.ofInt awResDemands.memory).toFloat64.div 1000000 (by decide)).toFloat64

example : (convertFloat64Demand (cpuDemand ⟨2 ^ 63, 0, 0⟩)).1 = -2 ^ 63 := by decide

structure DemandScan where
  demands : AList (fun _ : String => Int)
  err : Option String
  processedResourceTypes : List String

def DemandScan.rule (scan : DemandScan) (treeResourceType pattern : String)
    (converted : Int × Option String) : DemandScan :=
  if contains (toLower treeResourceType) pattern then
    { demands := scan.demands.insert treeResourceType converted.1
      err := match converted.2, scan.err with
        | none, err => err
        | some converErr, none => some ("resource type: " ++ treeResourceType ++ " " ++ converErr)
        | some converErr, some err =>
          some (err ++ "; next error resource type: " ++ treeResourceType ++ " " ++ converErr)
      processedResourceTypes := scan.processedResourceTypes ++ [treeResourceType] }
  else scan

def DemandScan.step (awResDemands : Resource) (scan : DemandScan) (treeResourceType : String) :
    DemandScan :=
  ((scan.rule treeResourceType "cpu" (convertFloat64Demand (cpuDemand awResDemands))).rule
    treeResourceType "memory" (convertFloat64Demand (memoryDemand awResDemands))).rule
    treeResourceType "gpu" (convertInt64Demand awResDemands.gpu)

def getQuotaTreeResourceTypesDemands (awResDemands : Resource) (treeToResourceTypes : List String) :
    AList (fun _ : String => Int) × Option String :=
  let scan := treeToResourceTypes.foldl (DemandScan.step awResDemands) ⟨∅, none, []⟩
  if scan.processedResourceTypes.length < treeToResourceTypes.length then
    (scan.demands, some (match scan.err with
      | none => "resource type processed " ++ formatStrings scan.processedResourceTypes ++
          " less than expected " ++ formatStrings treeToResourceTypes
      | some err => err ++ "; next error resource type processed " ++
          formatStrings scan.processedResourceTypes ++ " less than expected " ++
          formatStrings treeToResourceTypes))
  else (scan.demands, scan.err)

def resourcePatterns : List String := ["cpu", "memory", "gpu"]

def matchedPatterns (treeResourceType : String) : List String :=
  resourcePatterns.filter (contains (toLower treeResourceType))

def matchedRules (treeResourceType : String) : Nat := (matchedPatterns treeResourceType).length

variable {scan : DemandScan} {treeResourceType pattern key : String} {converted : Int × Option String}
  {awResDemands : Resource}

theorem DemandScan.mem_rule :
    key ∈ (scan.rule treeResourceType pattern converted).demands ↔
      key ∈ scan.demands ∨ key = treeResourceType ∧ contains (toLower treeResourceType) pattern := by
  unfold DemandScan.rule
  split_ifs with matched <;> simp [AList.mem_insert, matched, or_comm]

theorem DemandScan.rule_processed :
    (scan.rule treeResourceType pattern converted).processedResourceTypes.length =
      scan.processedResourceTypes.length + if contains (toLower treeResourceType) pattern then 1 else 0 := by
  unfold DemandScan.rule
  split_ifs <;> simp

theorem DemandScan.mem_step :
    key ∈ (scan.step awResDemands treeResourceType).demands ↔
      key ∈ scan.demands ∨ key = treeResourceType ∧ 0 < matchedRules key := by
  rw [and_congr_right_iff.mpr fun same : key = treeResourceType => by rw [same]]
  simp only [DemandScan.step, DemandScan.mem_rule, matchedRules, matchedPatterns, resourcePatterns,
    List.filter_cons, List.filter_nil]
  cases contains (toLower treeResourceType) "cpu" <;> cases contains (toLower treeResourceType) "memory" <;>
    cases contains (toLower treeResourceType) "gpu" <;> simp [or_assoc]

theorem DemandScan.step_processed :
    (scan.step awResDemands treeResourceType).processedResourceTypes.length =
      scan.processedResourceTypes.length + matchedRules treeResourceType := by
  simp only [DemandScan.step, DemandScan.rule_processed, matchedRules, matchedPatterns,
    resourcePatterns, List.filter_cons, List.filter_nil]
  cases contains (toLower treeResourceType) "cpu" <;> cases contains (toLower treeResourceType) "memory" <;>
    cases contains (toLower treeResourceType) "gpu" <;> rfl

theorem DemandScan.mem_foldl_step (types : List String) :
    key ∈ (types.foldl (DemandScan.step awResDemands) scan).demands ↔
      key ∈ scan.demands ∨ key ∈ types ∧ 0 < matchedRules key := by
  induction types generalizing scan with
  | nil => simp
  | cons treeResourceType types ih =>
    rw [List.foldl_cons, ih, DemandScan.mem_step, List.mem_cons, or_and_right, or_assoc]

theorem DemandScan.foldl_step_processed (types : List String) :
    (types.foldl (DemandScan.step awResDemands) scan).processedResourceTypes.length =
      scan.processedResourceTypes.length + (types.flatMap matchedPatterns).length := by
  induction types generalizing scan with
  | nil => rfl
  | cons treeResourceType types ih =>
    rw [List.foldl_cons, ih, DemandScan.step_processed, List.flatMap_cons, List.length_append,
      matchedRules, Nat.add_assoc]

theorem length_flatMap_matchedPatterns_le {types : List String}
    (single : ∀ treeResourceType ∈ types, matchedRules treeResourceType ≤ 1) :
    (types.flatMap matchedPatterns).length ≤ types.length := by
  induction types with
  | nil => exact le_rfl
  | cons treeResourceType types ih =>
    have first : (matchedPatterns treeResourceType).length ≤ 1 :=
      single treeResourceType (List.mem_cons_self _ _)
    have rest := ih fun t mem => single t (List.mem_cons_of_mem _ mem)
    rw [List.flatMap_cons, List.length_append, List.length_cons]
    omega

theorem getQuotaTreeResourceTypesDemands_demands (types : List String) :
    (getQuotaTreeResourceTypesDemands awResDemands types).1 =
      (types.foldl (DemandScan.step awResDemands) ⟨∅, none, []⟩).demands := by
  unfold getQuotaTreeResourceTypesDemands
  dsimp only
  split_ifs <;> rfl

theorem mem_getQuotaTreeResourceTypesDemands (types : List String) :
    key ∈ (getQuotaTreeResourceTypesDemands awResDemands types).1 ↔
      key ∈ types ∧ 0 < matchedRules key := by
  rw [getQuotaTreeResourceTypesDemands_demands, DemandScan.mem_foldl_step]
  simp

/-- The demand the loop leaves for a resource type: the rules run cpu, memory, gpu and the last one
    that matches overwrites the others. -/
def lastRuleDemand (awResDemands : Resource) (treeResourceType : String) : Option Int :=
  if contains (toLower treeResourceType) "gpu" then some (convertInt64Demand awResDemands.gpu).1
  else if contains (toLower treeResourceType) "memory" then
    some (convertFloat64Demand (memoryDemand awResDemands)).1
  else if contains (toLower treeResourceType) "cpu" then
    some (convertFloat64Demand (cpuDemand awResDemands)).1
  else none

theorem DemandScan.lookup_rule :
    (scan.rule treeResourceType pattern converted).demands.lookup key =
      if key = treeResourceType ∧ contains (toLower treeResourceType) pattern then some converted.1
      else scan.demands.lookup key := by
  unfold DemandScan.rule
  by_cases matched : contains (toLower treeResourceType) pattern
  · by_cases same : key = treeResourceType
    · subst same; simp [matched]
    · simp [matched, same, AList.lookup_insert_ne same]
  · simp [matched]

theorem DemandScan.lookup_step :
    (scan.step awResDemands treeResourceType).demands.lookup key =
      if key = treeResourceType then (lastRuleDemand awResDemands key).or (scan.demands.lookup key)
      else scan.demands.lookup key := by
  by_cases same : key = treeResourceType
  · subst same
    simp only [DemandScan.step, DemandScan.lookup_rule, lastRuleDemand, true_and, if_true]
    cases contains (toLower key) "cpu" <;> cases contains (toLower key) "memory" <;>
      cases contains (toLower key) "gpu" <;> rfl
  · simp only [DemandScan.step, DemandScan.lookup_rule, same, false_and, if_false]

theorem DemandScan.lookup_foldl_step (types : List String) :
    (types.foldl (DemandScan.step awResDemands) scan).demands.lookup key =
      if key ∈ types then (lastRuleDemand awResDemands key).or (scan.demands.lookup key)
      else scan.demands.lookup key := by
  induction types generalizing scan with
  | nil => simp
  | cons treeResourceType types ih =>
    rw [List.foldl_cons, ih, DemandScan.lookup_step]
    by_cases same : key = treeResourceType
    · subst same
      cases lastRuleDemand awResDemands key <;> by_cases later : key ∈ types <;> simp [later]
    · simp [same]

theorem lookup_getQuotaTreeResourceTypesDemands (types : List String) :
    (getQuotaTreeResourceTypesDemands awResDemands types).1.lookup key =
      if key ∈ types then lastRuleDemand awResDemands key else none := by
  rw [getQuotaTreeResourceTypesDemands_demands, DemandScan.lookup_foldl_step]
  split_ifs <;> simp

theorem getQuotaTreeResourceTypesDemands_unmatched (types : List String)
    (single : ∀ treeResourceType ∈ types, matchedRules treeResourceType ≤ 1)
    (unmatched : ∃ treeResourceType ∈ types, matchedRules treeResourceType = 0) :
    (getQuotaTreeResourceTypesDemands awResDemands types).2 ≠ none := by
  obtain ⟨treeResourceType, known, unmatched⟩ := unmatched
  have counted : (types.foldl (DemandScan.step awResDemands) ⟨∅, none, []⟩).processedResourceTypes.length =
      0 + (types.flatMap matchedPatterns).length := DemandScan.foldl_step_processed types
  have short : (types.flatMap matchedPatterns).length < types.length := by
    obtain ⟨before, after, rfl⟩ := List.append_of_mem known
    have left := length_flatMap_matchedPatterns_le fun t mem => single t (List.mem_append_left _ mem)
    have right := length_flatMap_matchedPatterns_le
      fun t mem => single t (List.mem_append_right _ (List.mem_cons_of_mem _ mem))
    have none : (matchedPatterns treeResourceType).length = 0 := unmatched
    simp only [List.flatMap_append, List.flatMap_cons, List.length_append, List.length_cons, none]
    omega
  unfold getQuotaTreeResourceTypesDemands
  rw [Nat.zero_add] at counted
  dsimp only
  rw [if_pos (by omega)]
  exact Option.some_ne_none _

theorem getQuotaTreeResourceTypesDemands_unmatched_on_disk :
    (getQuotaTreeResourceTypesDemands ⟨1000, 0, 0⟩ ["cpu", "disk"]).2 ≠ none :=
  getQuotaTreeResourceTypesDemands_unmatched ["cpu", "disk"] (by decide) ⟨"disk", by decide, by decide⟩

theorem double_match_hides_unmatched_type :
    matchedRules "disk" = 0 ∧
      (getQuotaTreeResourceTypesDemands ⟨0, 0, 0⟩ ["gpu-memory", "disk"]).2 = none := by
  decide

end Mcad.Quota
