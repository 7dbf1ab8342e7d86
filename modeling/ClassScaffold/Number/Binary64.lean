/-! Magnitudes with 53 significant bits and no bit below the 1074th after the point. -/
namespace ClassScaffold

/-- The magnitude `significand * 2 ^ exponent`. -/
structure Binary64 where
  significand : Nat
  exponent : Int
  deriving DecidableEq

namespace Binary64

/-- The quotient as the nearest whole number; halfway between two of them, as the even one. -/
def roundDiv (n d : Nat) : Nat :=
  if 2 * (n % d) < d ∨ (2 * (n % d) = d ∧ n / d % 2 = 0) then n / d else n / d + 1

/-- The exponent at which the quotient of two positive numbers has 53 bits, or the least one. -/
def exponentOf (n d : Nat) : Int :=
  let e : Int := (n.log2 : Int) - d.log2 - 53
  max (-1074) (if n <<< (-e).toNat / (d <<< e.toNat) < 1 <<< 53 then e else e + 1)

/-- The magnitude nearest to a quotient. -/
def ofRatio (n d : Nat) : Binary64 :=
  if n = 0 then ⟨0, -1074⟩
  else
    let e := exponentOf n d
    let m := roundDiv (n <<< (-e).toNat) (d <<< e.toNat)
    if m = 1 <<< 53 then ⟨1 <<< 52, e + 1⟩ else ⟨m, e⟩

def ratio (x : Binary64) : Nat × Nat :=
  (x.significand <<< x.exponent.toNat, 1 <<< (-x.exponent).toNat)

def mul (x y : Binary64) : Binary64 :=
  ofRatio (x.ratio.1 * y.ratio.1) (x.ratio.2 * y.ratio.2)

def div (x y : Binary64) : Binary64 :=
  ofRatio (x.ratio.1 * y.ratio.2) (x.ratio.2 * y.ratio.1)

def powerOfTen (n : Nat) : Binary64 :=
  ofRatio (Nat.pow 10 n) 1

/-- The largest power of ten that still is a magnitude of 64 bits. -/
def powerLimit : Nat := 308

def isFinite (x : Binary64) : Bool :=
  x.exponent ≤ 971

/-- Divides by a power of ten, by the largest one first. -/
def divPower (x : Binary64) (n : Nat) : Binary64 :=
  if n ≤ powerLimit then x.div (powerOfTen n)
  else if x.significand = 0 then x
  else divPower (x.div (powerOfTen powerLimit)) (n - powerLimit)
termination_by n
decreasing_by simp only [powerLimit] at *; omega

/-- Drops digits from the end of a number until it fits into 64 bits. -/
def leadingDigits (digits : Nat) (exponent : Int) : Nat × Int :=
  if digits < UInt64.size then (digits, exponent) else leadingDigits (digits / 10) (exponent + 1)
termination_by digits
decreasing_by simp only [UInt64.size] at *; omega

/-- The magnitude that stands for `digits * 10 ^ exponent`, unless it is too large. The leading
digits are rounded first, and then scaled by a power of ten, so it need not be the nearest one. -/
def ofDecimal? (digits : Nat) (exponent : Int) : Option Binary64 :=
  let (digits, exponent) := leadingDigits digits exponent
  let x := ofRatio digits 1
  if exponent < 0 then some (x.divPower (-exponent).toNat)
  else if digits = 0 then some x
  else if exponent ≤ powerLimit then
    let y := x.mul (powerOfTen exponent.toNat)
    if y.isFinite then some y else none
  else none

end Binary64

end ClassScaffold
