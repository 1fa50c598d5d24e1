import Mathlib.Data.List.Perm.Subperm
import Mcad.Go.Text
import Mcad.Quota.Backend

namespace Mcad.Quota

open Mcad.Go

def isValidQuota (quotaGroup : QuotaGroup) (qmTreeIDs : List String) : Bool :=
  qmTreeIDs.any fun treeNodeID => treeNodeID = quotaGroup.groupContext

structure Designation where
  groups : List QuotaGroup
  treeNameToResourceTypes : AList (fun _ : String => List String)
  err : Option String

abbrev Label := Sigma fun _ : String => String

def designateLabel {σ : Type} (b : Backend σ) (s : σ) (qmTreeIDs : List String)
    (found : List QuotaGroup × AList (fun _ : String => List String)) (label : Label) :
    List QuotaGroup × AList (fun _ : String => List String) :=
  let quotaGroup : QuotaGroup := ⟨label.1, label.2⟩
  if isValidQuota quotaGroup qmTreeIDs then
    (found.1 ++ [quotaGroup],
      found.2.insert quotaGroup.groupContext (b.getResourceNames s quotaGroup.groupContext))
  else found

/-- One known tree in the message: a tree that no group designates is appended, after a comma when
    it is not the first. -/
def writeMissing (groups : List QuotaGroup) (message : String × Nat) (treeName : String) :
    String × Nat :=
  if groups.any (·.groupContext = treeName) then message
  else if message.2 < 1 then (message.1 ++ treeName, message.2 + 1)
  else (message.1 ++ ", " ++ treeName, message.2 + 1)

def getQuotaDesignation {σ : Type} (b : Backend σ) (s : σ) (aw : AppWrapper) : Designation :=
  let qmTreeIDs := b.getTreeNames s
  if qmTreeIDs.length ≤ 0 then ⟨[], ∅, none⟩
  else
    let found := aw.labels.entries.foldl (designateLabel b s qmTreeIDs) ([], ∅)
    if found.1.length < qmTreeIDs.length then
      let allocationMessage :=
        (qmTreeIDs.foldl (writeMissing found.1) ("Missing required quota designation: ", 0)).1
      let err := if allocationMessage.length > 0 then sprintf (allocationMessage ++ ".")
        else sprintf "Unknown error verifying quota designations."
      ⟨found.1, found.2, some err⟩
    else ⟨found.1, found.2, none⟩

def designatedGroups (qmTreeIDs : List String) (aw : AppWrapper) : List QuotaGroup :=
  (aw.labels.entries.filter fun label => label.1 ∈ qmTreeIDs).map fun label => ⟨label.1, label.2⟩

@[simp] theorem isValidQuota_eq (quotaGroup : QuotaGroup) (qmTreeIDs : List String) :
    isValidQuota quotaGroup qmTreeIDs = decide (quotaGroup.groupContext ∈ qmTreeIDs) := by
  rw [isValidQuota, Bool.eq_iff_iff, List.any_eq_true, decide_eq_true_iff]
  exact ⟨fun ⟨_, mem, same⟩ => of_decide_eq_true same ▸ mem, fun mem => ⟨_, mem, decide_eq_true rfl⟩⟩

variable {σ : Type} {b : Backend σ} {s : σ} {aw : AppWrapper} {qmTreeIDs : List String}

theorem foldl_designateLabel (labels : List Label) (found) :
    (labels.foldl (designateLabel b s qmTreeIDs) found).1 =
      found.1 ++ (labels.filter fun label => label.1 ∈ qmTreeIDs).map fun label => ⟨label.1, label.2⟩ := by
  induction labels generalizing found with
  | nil => simp
  | cons label labels ih =>
    rw [List.foldl_cons, ih]
    by_cases known : label.1 ∈ qmTreeIDs <;> simp [designateLabel, known]

theorem foldl_designateLabel_lookup (labels : List Label) (found) (treeName : String) :
    (labels.foldl (designateLabel b s qmTreeIDs) found).2.lookup treeName =
      if treeName ∈ qmTreeIDs ∧ treeName ∈ labels.map (·.1) then some (b.getResourceNames s treeName)
      else found.2.lookup treeName := by
  induction labels generalizing found with
  | nil => simp
  | cons label labels ih =>
    rw [List.foldl_cons, ih]
    simp only [List.map_cons, List.mem_cons]
    by_cases known : label.1 ∈ qmTreeIDs <;> by_cases same : treeName = label.1
    · subst same; simp [designateLabel, known]
    · simp only [designateLabel, isValidQuota_eq, decide_eq_true_eq, known, if_true, same, false_or,
        AList.lookup_insert_ne same]
    · subst same; simp [designateLabel, known]
    · simp only [designateLabel, isValidQuota_eq, decide_eq_true_eq, known, if_false, same, false_or]

theorem mem_designatedGroups {quotaGroup : QuotaGroup} :
    quotaGroup ∈ designatedGroups qmTreeIDs aw ↔
      quotaGroup.groupContext ∈ qmTreeIDs ∧ aw.labels.lookup quotaGroup.groupContext = some quotaGroup.groupId := by
  simp only [designatedGroups, List.mem_map, List.mem_filter, decide_eq_true_eq]
  constructor
  · rintro ⟨⟨key, value⟩, ⟨mem, known⟩, rfl⟩
    exact ⟨known, AList.mem_lookup_iff.mpr mem⟩
  · rintro ⟨known, found⟩
    exact ⟨⟨_, _⟩, ⟨AList.mem_lookup_iff.mp found, known⟩, rfl⟩

theorem designatedGroups_contexts :
    (designatedGroups qmTreeIDs aw).map (·.groupContext) =
      (aw.labels.entries.filter fun label => label.1 ∈ qmTreeIDs).map (·.1) := by
  simp [designatedGroups, Function.comp_def]

theorem designatedGroups_nodup : ((designatedGroups qmTreeIDs aw).map (·.groupContext)).Nodup := by
  rw [designatedGroups_contexts]
  exact aw.labels.nodupKeys.sublist (List.filter_sublist _)

theorem mem_designatedGroups_contexts {treeName : String} :
    treeName ∈ (designatedGroups qmTreeIDs aw).map (·.groupContext) ↔
      treeName ∈ qmTreeIDs ∧ treeName ∈ aw.labels := by
  rw [designatedGroups_contexts, AList.mem_keys, AList.keys, List.keys]
  simp only [List.mem_map, List.mem_filter, decide_eq_true_eq]
  constructor
  · rintro ⟨label, ⟨mem, known⟩, rfl⟩
    exact ⟨known, label, mem, rfl⟩
  · rintro ⟨known, label, mem, rfl⟩
    exact ⟨label, ⟨mem, known⟩, rfl⟩

theorem designatedGroups_length_lt {treeName : String} (known : treeName ∈ qmTreeIDs)
    (unlabelled : treeName ∉ aw.labels) : (designatedGroups qmTreeIDs aw).length < qmTreeIDs.length := by
  have within : (designatedGroups qmTreeIDs aw).map (·.groupContext) ⊆ qmTreeIDs.erase treeName := by
    intro context mem
    obtain ⟨inTrees, labelled⟩ := mem_designatedGroups_contexts.mp mem
    exact (List.mem_erase_of_ne (fun same => unlabelled (by subst same; exact labelled))).mpr inTrees
  have bounded := (designatedGroups_nodup.subperm within).length_le
  rw [List.length_map, List.length_erase_of_mem known] at bounded
  have : 0 < qmTreeIDs.length := List.length_pos_of_mem known
  omega

theorem length_le_designatedGroups (distinct : qmTreeIDs.Nodup)
    (labelled : ∀ treeName ∈ qmTreeIDs, treeName ∈ aw.labels) :
    qmTreeIDs.length ≤ (designatedGroups qmTreeIDs aw).length := by
  have within : qmTreeIDs ⊆ (designatedGroups qmTreeIDs aw).map (·.groupContext) :=
    fun treeName known => mem_designatedGroups_contexts.mpr ⟨known, labelled treeName known⟩
  simpa using (distinct.subperm within).length_le

/-- The separator fold behind String.intercalate. -/
def joinAfter (sep acc : String) (names : List String) : String :=
  names.foldl (fun text name => text ++ sep ++ name) acc

theorem intercalate_cons (sep name : String) (names : List String) :
    sep.intercalate (name :: names) = joinAfter sep name names := by
  suffices go : ∀ acc, String.intercalate.go acc sep names = joinAfter sep acc names from go name
  induction names with
  | nil => intro acc; rfl
  | cons next names ih => intro acc; exact ih _

theorem joinAfter_append (sep text acc : String) (names : List String) :
    text ++ joinAfter sep acc names = joinAfter sep (text ++ acc) names := by
  induction names generalizing acc with
  | nil => rfl
  | cons name names ih => simp only [joinAfter, List.foldl_cons] at ih ⊢; rw [ih, String.append_assoc,
      String.append_assoc, String.append_assoc]

theorem foldl_writeMissing_of_pos (groups : List QuotaGroup) (treeNames : List String) (text : String)
    {count : Nat} (started : 1 ≤ count) :
    (treeNames.foldl (writeMissing groups) (text, count)).1 =
      joinAfter ", " text (treeNames.filter fun treeName => !groups.any (·.groupContext = treeName)) := by
  induction treeNames generalizing text count with
  | nil => rfl
  | cons treeName treeNames ih =>
    by_cases designated : groups.any (·.groupContext = treeName)
    · simp only [List.foldl_cons, writeMissing, designated, if_true, List.filter_cons, Bool.not_true]
      exact ih text started
    · have notFirst : ¬count < 1 := by omega
      simp only [List.foldl_cons, writeMissing, designated, notFirst, if_false, List.filter_cons,
        Bool.not_false, Bool.false_eq_true]
      exact ih _ (by omega)

theorem foldl_writeMissing (groups : List QuotaGroup) (treeNames : List String) (text : String) :
    (treeNames.foldl (writeMissing groups) (text, 0)).1 =
      text ++ ", ".intercalate (treeNames.filter fun treeName => !groups.any (·.groupContext = treeName)) := by
  induction treeNames generalizing text with
  | nil => exact (String.append_empty _).symm
  | cons treeName treeNames ih =>
    by_cases designated : groups.any (·.groupContext = treeName)
    · simp only [List.foldl_cons, writeMissing, designated, if_true, List.filter_cons, Bool.not_true]
      exact ih text
    · simp only [List.foldl_cons, writeMissing, designated, if_false, List.filter_cons,
        Bool.not_false, Bool.false_eq_true, Nat.zero_lt_one, if_true, intercalate_cons, joinAfter_append]
      exact foldl_writeMissing_of_pos _ _ _ le_rfl

theorem any_designated_iff {treeName : String} (known : treeName ∈ qmTreeIDs) :
    (designatedGroups qmTreeIDs aw).any (·.groupContext = treeName) = true ↔ treeName ∈ aw.labels := by
  rw [List.any_eq_true]
  constructor
  · rintro ⟨group, mem, same⟩
    rw [← of_decide_eq_true same]
    exact (mem_designatedGroups_contexts.mp (List.mem_map_of_mem _ mem)).2
  · intro labelled
    obtain ⟨group, mem, same⟩ := List.mem_map.mp (mem_designatedGroups_contexts.mpr ⟨known, labelled⟩)
    exact ⟨group, mem, decide_eq_true same⟩

/-- The text getQuotaDesignation passes to fmt.Errorf: the unlabelled known trees, in tree order. -/
def missingDesignationMessage (qmTreeIDs : List String) (aw : AppWrapper) : String :=
  "Missing required quota designation: " ++ ", ".intercalate (qmTreeIDs.filter (· ∉ aw.labels)) ++ "."

theorem getQuotaDesignation_spec :
    getQuotaDesignation b s aw =
      if b.getTreeNames s = [] then ⟨[], ∅, none⟩
      else ⟨designatedGroups (b.getTreeNames s) aw,
        (aw.labels.entries.foldl (designateLabel b s (b.getTreeNames s)) ([], ∅)).2,
        if (designatedGroups (b.getTreeNames s) aw).length < (b.getTreeNames s).length then
          some (sprintf (missingDesignationMessage (b.getTreeNames s) aw))
        else none⟩ := by
  have groups : (aw.labels.entries.foldl (designateLabel b s (b.getTreeNames s)) ([], ∅)).1 =
      designatedGroups (b.getTreeNames s) aw := foldl_designateLabel _ _
  have missing : (b.getTreeNames s).filter (fun treeName =>
      !(designatedGroups (b.getTreeNames s) aw).any (·.groupContext = treeName)) =
      (b.getTreeNames s).filter (· ∉ aw.labels) :=
    List.filter_congr fun treeName known => by
      rw [decide_not]; exact congrArg (!·) (Bool.eq_iff_iff.mpr
        ((any_designated_iff known).trans decide_eq_true_iff.symm))
  unfold getQuotaDesignation
  simp only [Nat.le_zero, List.length_eq_zero, groups]
  split_ifs with empty short written
  · rfl
  · rw [foldl_writeMissing, missing]; rfl
  · have prefixed : 0 < "Missing required quota designation: ".length := by decide
    rw [foldl_writeMissing, String.length_append] at written
    omega
  · rfl

theorem labelled_of_err_eq_none (succeeded : (getQuotaDesignation b s aw).err = none) :
    ∀ treeName ∈ b.getTreeNames s, treeName ∈ aw.labels := by
  intro treeName known
  by_contra unlabelled
  have short := designatedGroups_length_lt known unlabelled
  rw [getQuotaDesignation_spec, if_neg (List.ne_nil_of_mem known), if_pos short] at succeeded
  cases succeeded

theorem getQuotaDesignation_err_ne_none_iff (distinct : (b.getTreeNames s).Nodup) :
    (getQuotaDesignation b s aw).err ≠ none ↔
      b.getTreeNames s ≠ [] ∧ ∃ treeName ∈ b.getTreeNames s, treeName ∉ aw.labels := by
  constructor
  · intro failed
    refine ⟨fun empty => failed (by rw [getQuotaDesignation_spec, if_pos empty]), ?_⟩
    by_contra labelled
    push_neg at labelled
    exact failed (by
      rw [getQuotaDesignation_spec]
      split_ifs with _ short
      · rfl
      · exact absurd short (not_lt.mpr (length_le_designatedGroups distinct labelled))
      · rfl)
  · rintro ⟨-, treeName, known, unlabelled⟩ succeeded
    exact unlabelled (labelled_of_err_eq_none succeeded treeName known)

theorem getQuotaDesignation_err_eq_some {text : String}
    (failed : (getQuotaDesignation b s aw).err = some text) :
    text = sprintf (missingDesignationMessage (b.getTreeNames s) aw) := by
  rw [getQuotaDesignation_spec] at failed
  split_ifs at failed
  exact (Option.some.inj failed).symm

theorem getQuotaDesignation_groups_perm (distinct : (b.getTreeNames s).Nodup)
    (succeeded : (getQuotaDesignation b s aw).err = none) :
    (getQuotaDesignation b s aw).groups.Perm
      ((b.getTreeNames s).map fun treeName => ⟨treeName, (aw.labels.lookup treeName).getD ""⟩) := by
  have labelled := labelled_of_err_eq_none succeeded
  have groups : (getQuotaDesignation b s aw).groups =
      if b.getTreeNames s = [] then [] else designatedGroups (b.getTreeNames s) aw := by
    rw [getQuotaDesignation_spec]; split_ifs <;> rfl
  rw [groups]
  split_ifs with empty
  · simp [empty]
  refine (List.perm_ext_iff_of_nodup designatedGroups_nodup.of_map
    (distinct.map fun _ _ same => congrArg QuotaGroup.groupContext same)).mpr fun group => ?_
  rw [mem_designatedGroups, List.mem_map]
  constructor
  · rintro ⟨known, found⟩
    exact ⟨_, known, by rw [found]; rfl⟩
  · rintro ⟨treeName, known, rfl⟩
    obtain ⟨value, found⟩ := Option.isSome_iff_exists.mp (AList.lookup_isSome.mpr (labelled treeName known))
    exact ⟨known, by simp [found]⟩

theorem mem_getQuotaDesignation_groups {group : QuotaGroup}
    (mem : group ∈ (getQuotaDesignation b s aw).groups) :
    group.groupContext ∈ b.getTreeNames s ∧ aw.labels.lookup group.groupContext = some group.groupId := by
  by_cases empty : b.getTreeNames s = []
  · rw [getQuotaDesignation_spec, if_pos empty] at mem; cases mem
  · rw [getQuotaDesignation_spec, if_neg empty] at mem; exact mem_designatedGroups.mp mem

theorem getQuotaDesignation_resourceTypes (treeName : String) :
    (getQuotaDesignation b s aw).treeNameToResourceTypes.lookup treeName =
      if treeName ∈ b.getTreeNames s ∧ treeName ∈ aw.labels then some (b.getResourceNames s treeName)
      else none := by
  rw [getQuotaDesignation_spec]
  by_cases empty : b.getTreeNames s = []
  · simp [empty]
  · rw [if_neg empty]
    exact (foldl_designateLabel_lookup _ _ _).trans (if_congr Iff.rfl rfl rfl)

theorem getQuotaDesignation_correct (distinct : (b.getTreeNames s).Nodup) :
    ((getQuotaDesignation b s aw).err = none ↔ ∀ treeName ∈ b.getTreeNames s, treeName ∈ aw.labels) ∧
      ((getQuotaDesignation b s aw).err = none →
        (getQuotaDesignation b s aw).groups.Perm
          ((b.getTreeNames s).map fun treeName => ⟨treeName, (aw.labels.lookup treeName).getD ""⟩)) ∧
      ∀ text, (getQuotaDesignation b s aw).err = some text →
        text = sprintf (missingDesignationMessage (b.getTreeNames s) aw) := by
  refine ⟨⟨labelled_of_err_eq_none, fun labelled => ?_⟩, getQuotaDesignation_groups_perm distinct,
    fun _ => getQuotaDesignation_err_eq_some⟩
  by_contra failed
  obtain ⟨-, treeName, known, unlabelled⟩ := (getQuotaDesignation_err_ne_none_iff distinct).mp failed
  exact unlabelled (labelled treeName known)

theorem getQuotaDesignation_correct_on_two_trees :
    let aw : AppWrapper :=
      ⟨"default", "job", ((∅ : AList _).insert "silver" "b").insert "gold" "a", 0, true⟩
    (getQuotaDesignation (Backend.fixed ["gold", "silver"] fun _ => []) () aw).err = none :=
  (getQuotaDesignation_correct (by decide)).1.mpr (by decide)

/-- A tree name holding a `%` reaches fmt.Errorf as part of the format, which reads it as a verb. -/
theorem missing_designation_with_percent :
    let aw : AppWrapper := ⟨"default", "job", ∅, 0, true⟩
    (getQuotaDesignation (Backend.fixed ["team%d"] fun _ => []) () aw).err =
        some "Missing required quota designation: team%!d(MISSING)." ∧
      missingDesignationMessage ["team%d"] aw = "Missing required quota designation: team%d." := by
  decide

end Mcad.Quota