import Mathlib.Algebra.BigOperators.Group.List
import Mathlib.Algebra.Order.Group.Defs

namespace Mcad.Api

/-- Modelled from the spec: the `Resource` vector of `clusterstate/api`, whose source is not part of
    the repository. The ledger and the quota manager read its three dimensions `MilliCPU`, `Memory`
    and `GPU`; quantities are integers. -/
@[ext]
structure Resource where
  milliCPU : Int
  memory : Int
  gpu : Int
  deriving DecidableEq, Repr

/-- Modelled from the spec: the two readings of `Resource.Sub` on a dimension that would go
    negative, which the spec leaves open: clamp that dimension to zero, or keep the raw
    difference. -/
inductive Underflow where
  | clamp
  | raw
  deriving DecidableEq, Repr

def Underflow.dimSub : Underflow → Int → Int → Int
  | .clamp, a, b => if a < b then 0 else a - b
  | .raw, a, b => a - b

def emptyResource : Resource := ⟨0, 0, 0⟩

def Resource.add (r rr : Resource) : Resource :=
  ⟨r.milliCPU + rr.milliCPU, r.memory + rr.memory, r.gpu + rr.gpu⟩

/-- `Resource.Sub`; the error it returns on underflow is only logged by its callers. -/
def Resource.sub (mode : Underflow) (r rr : Resource) : Resource :=
  ⟨mode.dimSub r.milliCPU rr.milliCPU, mode.dimSub r.memory rr.memory, mode.dimSub r.gpu rr.gpu⟩

instance : Zero Resource := ⟨emptyResource⟩
instance : Add Resource := ⟨Resource.add⟩
instance : Neg Resource := ⟨fun r => ⟨-r.milliCPU, -r.memory, -r.gpu⟩⟩
instance : Sub Resource := ⟨fun r rr => ⟨r.milliCPU - rr.milliCPU, r.memory - rr.memory, r.gpu - rr.gpu⟩⟩

instance : LE Resource :=
  ⟨fun r rr => r.milliCPU ≤ rr.milliCPU ∧ r.memory ≤ rr.memory ∧ r.gpu ≤ rr.gpu⟩

instance (r rr : Resource) : Decidable (r ≤ rr) := inferInstanceAs (Decidable (_ ∧ _ ∧ _))

namespace Resource

variable (r rr : Resource)

@[simp] theorem zero_milliCPU : (0 : Resource).milliCPU = 0 := rfl
@[simp] theorem zero_memory : (0 : Resource).memory = 0 := rfl
@[simp] theorem zero_gpu : (0 : Resource).gpu = 0 := rfl
@[simp] theorem add_milliCPU : (r + rr).milliCPU = r.milliCPU + rr.milliCPU := rfl
@[simp] theorem add_memory : (r + rr).memory = r.memory + rr.memory := rfl
@[simp] theorem add_gpu : (r + rr).gpu = r.gpu + rr.gpu := rfl
@[simp] theorem neg_milliCPU : (-r).milliCPU = -r.milliCPU := rfl
@[simp] theorem neg_memory : (-r).memory = -r.memory := rfl
@[simp] theorem neg_gpu : (-r).gpu = -r.gpu := rfl
@[simp] theorem sub_milliCPU : (r - rr).milliCPU = r.milliCPU - rr.milliCPU := rfl
@[simp] theorem sub_memory : (r - rr).memory = r.memory - rr.memory := rfl
@[simp] theorem sub_gpu : (r - rr).gpu = r.gpu - rr.gpu := rfl
@[simp] theorem emptyResource_eq : emptyResource = 0 := rfl

theorem le_def : r ≤ rr ↔ r.milliCPU ≤ rr.milliCPU ∧ r.memory ≤ rr.memory ∧ r.gpu ≤ rr.gpu :=
  Iff.rfl

instance : AddCommGroup Resource where
  add_assoc _ _ _ := Resource.ext (Int.add_assoc _ _ _) (Int.add_assoc _ _ _) (Int.add_assoc _ _ _)
  zero_add _ := Resource.ext (Int.zero_add _) (Int.zero_add _) (Int.zero_add _)
  add_zero _ := Resource.ext (Int.add_zero _) (Int.add_zero _) (Int.add_zero _)
  add_comm _ _ := Resource.ext (Int.add_comm _ _) (Int.add_comm _ _) (Int.add_comm _ _)
  neg_add_cancel _ := Resource.ext (Int.add_left_neg _) (Int.add_left_neg _) (Int.add_left_neg _)
  sub_eq_add_neg _ _ := Resource.ext Int.sub_eq_add_neg Int.sub_eq_add_neg Int.sub_eq_add_neg
  nsmul := nsmulRec
  zsmul := zsmulRec

instance : PartialOrder Resource where
  le_refl _ := ⟨Int.le_refl _, Int.le_refl _, Int.le_refl _⟩
  le_trans _ _ _ h h' := ⟨Int.le_trans h.1 h'.1, Int.le_trans h.2.1 h'.2.1, Int.le_trans h.2.2 h'.2.2⟩
  le_antisymm _ _ h h' := Resource.ext (Int.le_antisymm h.1 h'.1) (Int.le_antisymm h.2.1 h'.2.1)
    (Int.le_antisymm h.2.2 h'.2.2)

instance : OrderedAddCommGroup Resource where
  __ := (inferInstance : AddCommGroup Resource)
  __ := (inferInstance : PartialOrder Resource)
  add_le_add_left a b h c := by simp only [le_def] at *; simp only [add_milliCPU, add_memory, add_gpu]; omega

end Resource

namespace Underflow

variable (mode : Underflow) {a b c : Int}

theorem dimSub_of_le (fits : b ≤ a) : mode.dimSub a b = a - b := by
  cases mode <;> simp [dimSub]; omega

theorem dimSub_le (h : a ≤ c) (fits : b ≤ c) : mode.dimSub a b ≤ c - b := by
  cases mode
  · simp only [dimSub]; split <;> omega
  · simp only [dimSub]; omega

theorem clamp_dimSub_nonneg (a b : Int) : 0 ≤ Underflow.clamp.dimSub a b := by
  simp only [dimSub]; split <;> omega

theorem dimSub_dimSub (nonneg : 0 ≤ c) : mode.dimSub (mode.dimSub a b) c = mode.dimSub a (b + c) := by
  cases mode
  · simp only [dimSub]; split_ifs <;> omega
  · simp only [dimSub]; omega

end Underflow

namespace Resource

variable (mode : Underflow) {r rr s : Resource}

@[simp] theorem sub_raw (r rr : Resource) : r.sub .raw rr = r - rr := rfl

theorem sub_of_le (fits : rr ≤ r) : r.sub mode rr = r - rr := by
  obtain ⟨h₁, h₂, h₃⟩ := fits
  ext <;> simp only [sub, sub_milliCPU, sub_memory, sub_gpu, mode.dimSub_of_le, *]

theorem sub_le (h : r ≤ s) (fits : rr ≤ s) : r.sub mode rr ≤ s - rr := by
  obtain ⟨h₁, h₂, h₃⟩ := h
  obtain ⟨f₁, f₂, f₃⟩ := fits
  exact ⟨mode.dimSub_le h₁ f₁, mode.dimSub_le h₂ f₂, mode.dimSub_le h₃ f₃⟩

theorem add_sub_of_nonneg (keeps : mode = .raw ∨ 0 ≤ r) : (r + rr).sub mode rr = r := by
  rcases keeps with rfl | ⟨h₁, h₂, h₃⟩
  · simp
  · rw [sub_of_le mode (le_add_of_nonneg_left ⟨h₁, h₂, h₃⟩), add_sub_cancel_right]

theorem sub_add_of_le (fits : mode = .raw ∨ rr ≤ r) : r.sub mode rr + rr = r := by
  rcases fits with rfl | fits
  · simp
  · rw [sub_of_le mode fits, sub_add_cancel]

theorem clamp_sub_nonneg (r rr : Resource) : 0 ≤ r.sub .clamp rr :=
  ⟨Underflow.clamp_dimSub_nonneg _ _, Underflow.clamp_dimSub_nonneg _ _, Underflow.clamp_dimSub_nonneg _ _⟩

theorem sub_sub (a : Resource) (nonneg : 0 ≤ rr) : (r.sub mode a).sub mode rr = r.sub mode (a + rr) := by
  obtain ⟨h₁, h₂, h₃⟩ := nonneg
  ext <;> simp only [sub, add_milliCPU, add_memory, add_gpu] <;> exact mode.dimSub_dimSub ‹_›

end Resource

end Mcad.Api
