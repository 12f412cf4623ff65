/-!
Binary floating point numbers of 64 bits as exact numbers.

The magnitudes of these numbers stand in one ascending list, and the bits of a number without its
sign are its place in that list. `numerator` and `denominator` say which number stands at a place,
and `nearestPlace` finds the place nearest to a fraction, of two places equally near the even one.
-/

-- Powers of numbers mean the same in every module, whatever else it imports.
attribute [default_instance 20000, instance (20000)] instPowNat

namespace OfferPolicy.Decimal

def infinityPlace : Nat := 2047 * 2 ^ 52

def place (x : Float) : Nat :=
  x.toBits.toNat % 2 ^ 63

def isNegative (x : Float) : Bool :=
  2 ^ 63 ≤ x.toBits.toNat

def ofPlace (negative : Bool) (p : Nat) : Float :=
  Float.ofBits (p + if negative then 2 ^ 63 else 0).toUInt64

def nan : Float :=
  ofPlace false (infinityPlace + 2 ^ 51)

def infinity (negative : Bool) : Float :=
  ofPlace negative infinityPlace

def isFinite (x : Float) : Bool :=
  place x < infinityPlace

def isNaN (x : Float) : Bool :=
  infinityPlace < place x

/-- The magnitude at a finite place in units of `2 ^ (-1074)`, the smallest positive magnitude. -/
def units (p : Nat) : Nat :=
  if p < 2 ^ 52 then p else (p % 2 ^ 52 + 2 ^ 52) * 2 ^ (p / 2 ^ 52 - 1)

theorem units_of_lt {p : Nat} (h : p < 2 ^ 53) : units p = p := by
  unfold units
  split
  · rfl
  · have h1 : p / 2 ^ 52 = 1 := by omega
    rw [h1]
    omega

theorem units_pos {p : Nat} (h : 0 < p) : 0 < units p := by
  unfold units
  split
  · exact h
  · exact Nat.mul_pos (by omega) (Nat.pow_pos (by omega))

def roundEven (num den : Nat) : Nat :=
  if 2 * (num % den) < den || (2 * (num % den) == den && num / den % 2 == 0) then num / den
  else num / den + 1

theorem roundEven_mul (q : Nat) {den : Nat} (h : 0 < den) : roundEven (q * den) den = q := by
  simp [roundEven, Nat.mul_div_cancel q h, h]

/-- The place nearest to `num / den`; the place of infinity if the fraction is too large. -/
def nearestPlace (num den : Nat) : Nat :=
  let step := (num * 2 ^ 1074 / den).log2 - 52
  min infinityPlace (step * 2 ^ 52 + roundEven (num * 2 ^ 1074) (den * 2 ^ step))

theorem nearestPlace_le (num den : Nat) : nearestPlace num den ≤ infinityPlace :=
  Nat.min_le_left ..

def ofRatio (negative : Bool) (num den : Nat) : Float :=
  ofPlace negative (nearestPlace num den)

end OfferPolicy.Decimal
