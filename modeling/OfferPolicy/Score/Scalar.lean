import OfferPolicy.Decimal.Binary64

/-!
The numbers key figures are computed with: floating point numbers when the program runs, exact
fractions when one asks what the formulas mean.
-/

namespace OfferPolicy.Score

def maxCount : Nat := 2 ^ 32 - 1

class Scalar (α : Type) extends Add α, Sub α, Mul α, Div α where
  ofNat : Nat → α
  emptySum : α
  /-- At most; false if one of the two is no number. -/
  ble : α → α → Bool
  /-- To the nearest count, a half upwards; nothing below zero and nothing above `maxCount`. -/
  toCount : α → Nat

namespace Scalar

variable {α : Type} [Scalar α]

def blt (a b : α) : Bool :=
  ble a b && !ble b a

def max (a b : α) : α :=
  if ble a b then b else if ble a a then a else b

def min (a b : α) : α :=
  if ble a b then a else if ble b b then b else a

def sum (as : List α) : α :=
  as.foldl (· + ·) emptySum

end Scalar

def floatCount (x : Float) : Nat :=
  if Decimal.isNaN x || Decimal.isNegative x then 0
  else if Decimal.isFinite x then
    Nat.min maxCount ((2 * Decimal.units (Decimal.place x) + 2 ^ 1074) / 2 ^ 1075)
  else maxCount

instance : Scalar Float where
  ofNat := Float.ofNat
  -- of the two zeros the one that leaves the sign of the other as it is
  emptySum := -0.0
  ble a b := a ≤ b
  toCount := floatCount

instance : Scalar Rat where
  ofNat n := n
  emptySum := 0
  ble a b := a ≤ b
  toCount x := Nat.min maxCount ((2 * x.num + x.den) / (2 * x.den)).toNat

end OfferPolicy.Score
