import Mathlib.Algebra.Group.Int

namespace Mcad.Go

/-- A float64, taken as the exact rational `num / den` it stands for. -/
structure ExactFloat where
  num : Int
  den : Nat
  den_pos : 0 < den

def ExactFloat.ofInt (n : Int) : ExactFloat := ⟨n, 1, Nat.one_pos⟩

def ExactFloat.div (x : ExactFloat) (d : Nat) (pos : 0 < d) : ExactFloat :=
  ⟨x.num, x.den * d, Nat.mul_pos x.den_pos pos⟩

def bitLengthAux : Nat → Nat → Nat
  | 0, _ => 0
  | fuel + 1, n => if n = 0 then 0 else bitLengthAux fuel (n / 2) + 1

def bitLength (n : Nat) : Nat := bitLengthAux n n

def roundHalfEven (num den : Nat) : Nat :=
  if den < 2 * (num % den) ∨ (2 * (num % den) = den ∧ num / den % 2 = 1) then num / den + 1
  else num / den

def scaleBy (a d : Nat) (e : Int) : Nat × Nat :=
  if 0 ≤ e then (a, d * 2 ^ e.toNat) else (a * 2 ^ (-e).toNat, d)

/-- The float64 nearest `x`, ties to even: a 53-bit significand times a power of two. This is IEEE
    754 rounding wherever the result is a normal double, which covers every value the quota
    manager converts (integers, and integers over 10^6, below 2^1024). -/
def ExactFloat.toFloat64 (x : ExactFloat) : ExactFloat :=
  let a := x.num.natAbs
  let k : Int := (bitLength a : Int) - bitLength x.den
  let first := scaleBy a x.den (k - 53)
  let e : Int := if 2 ^ 53 ≤ first.1 / first.2 then k - 52 else k - 53
  let scaled := scaleBy a x.den e
  let m : Int := x.num.sign * roundHalfEven scaled.1 scaled.2
  if 0 ≤ e then ⟨m * 2 ^ e.toNat, 1, Nat.one_pos⟩ else ⟨m, 2 ^ (-e).toNat, Nat.two_pow_pos _⟩

def ExactFloat.trunc (x : ExactFloat) : Int := x.num.tdiv x.den

/-- Go's int() of a float64 as amd64 computes it (CVTTSD2SQ): the truncation when it fits in 64
    bits, and MinInt64 otherwise. The Go specification leaves an out-of-range result to the
    implementation. -/
def ExactFloat.toInt (x : ExactFloat) : Int :=
  if -2 ^ 63 ≤ x.trunc ∧ x.trunc < 2 ^ 63 then x.trunc else -2 ^ 63

/-- Go's `%f`: six decimals of the exact value, rounded half to even. -/
def ExactFloat.format (x : ExactFloat) : String :=
  let scaled := roundHalfEven (x.num.natAbs * 10 ^ 6) x.den
  let fraction := toString (scaled % 10 ^ 6)
  (if x.num < 0 then "-" else "") ++ toString (scaled / 10 ^ 6) ++ "." ++
    ⟨List.replicate (6 - fraction.length) '0'⟩ ++ fraction

example : (ExactFloat.ofInt (2 ^ 53 + 1)).toFloat64.num = 2 ^ 53 := by decide
example : ((ExactFloat.ofInt 1099511627778999936).div 1000000 (by decide)).toFloat64.trunc = 1099511627779 := by
  decide

end Mcad.Go
