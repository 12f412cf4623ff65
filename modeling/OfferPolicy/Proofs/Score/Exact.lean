import Mathlib.Algebra.Order.Round
import Mathlib.Data.Rat.Floor
import OfferPolicy.Proofs.Decimal.Amount
import OfferPolicy.Score.Kpi

namespace OfferPolicy

namespace Score

open Scalar (ofNat toCount)

section Map

variable {α β : Type} (f : α → β)

def Scoring.map (s : Scoring α) : Scoring β where
  highRiskThreshold := f s.highRiskThreshold
  coverageTarget := f s.coverageTarget
  safetyPoints := f s.safetyPoints
  budgetCeiling := f s.budgetCeiling
  efficiencyBase := f s.efficiencyBase
  efficiencyPoints := f s.efficiencyPoints
  penaltyRate := f s.penaltyRate

def Tally.map (t : Tally α) : Tally β := ⟨t.highRisk, t.offered, f t.cost⟩

def Kpi.map (k : Kpi α) : Kpi β where
  rows := k.rows
  totalCost := f k.totalCost
  avgCost := f k.avgCost
  highRisk := k.highRisk
  covered := k.covered
  coverage := f k.coverage
  safetyScore := f k.safetyScore
  efficiencyScore := f k.efficiencyScore
  penalty := f k.penalty
  finalScore := k.finalScore

lemma highRisk_map (ts : List (Tally α)) : highRisk (ts.map (Tally.map f)) = highRisk ts :=
  List.countP_map

lemma covered_map (ts : List (Tally α)) : covered (ts.map (Tally.map f)) = covered ts :=
  List.countP_map

end Map

def roundAway (x : Rat) : Int := if 0 ≤ x then round x else -round (-x)

section Formulas

variable (s : Scoring Rat) (x y : Rat)

lemma scalar_min_eq : Scalar.min x y = min x y := by
  have hself : decide (y ≤ y) = true := decide_eq_true le_rfl
  change (if decide (x ≤ y) = true then x else if decide (y ≤ y) = true then y else x) = min x y
  rw [hself, if_pos rfl, min_def]
  simp only [decide_eq_true_iff]

lemma scalar_max_eq : Scalar.max x y = max x y := by
  have hself : decide (x ≤ x) = true := decide_eq_true le_rfl
  change (if decide (x ≤ y) = true then y else if decide (x ≤ x) = true then x else y) = max x y
  rw [hself, if_pos rfl, max_def]
  simp only [decide_eq_true_iff]

lemma scalar_blt_iff : Scalar.blt x y = true ↔ x < y := by
  change (decide (x ≤ y) && !decide (y ≤ x)) = true ↔ x < y
  rw [Bool.and_eq_true, decide_eq_true_iff, Bool.not_eq_true', decide_eq_false_iff_not,
    lt_iff_le_not_ge]

lemma scalar_sum_eq (xs : List Rat) : Scalar.sum xs = xs.sum := by
  exact List.sum_eq_foldl.symm

lemma share_eq (whole : Nat) : share x whole = x / whole := by
  rw [share]
  split
  · next h =>
    change ((0 : Nat) : Rat) = x / whole
    rw [h, Nat.cast_zero, div_zero]
  · rfl

lemma safetyScore_eq : safetyScore s x =
    if s.coverageTarget ≤ 0 then s.safetyPoints
    else min (x / s.coverageTarget * s.safetyPoints) s.safetyPoints := by
  rw [safetyScore, scalar_min_eq]
  change (if decide (s.coverageTarget ≤ ((0 : Nat) : Rat)) = true then _ else _) = _
  simp only [decide_eq_true_iff, Nat.cast_zero]

lemma usedBudget_eq :
    usedBudget s x = if 0 < s.budgetCeiling then x / s.budgetCeiling else 0 := by
  simp only [usedBudget, scalar_blt_iff]
  change (if ((0 : Nat) : Rat) < s.budgetCeiling then _ else ((0 : Nat) : Rat)) = _
  rw [Nat.cast_zero]

lemma efficiencyScore_eq : efficiencyScore s x =
    if s.budgetCeiling < x then 0
    else s.efficiencyBase + s.efficiencyPoints * (1 - usedBudget s x) := by
  simp only [efficiencyScore, scalar_blt_iff]
  change (if s.budgetCeiling < x then ((0 : Nat) : Rat)
    else s.efficiencyBase + s.efficiencyPoints * (((1 : Nat) : Rat) - usedBudget s x)) = _
  rw [Nat.cast_zero, Nat.cast_one]

lemma penalty_eq : penalty s x = max ((x - s.budgetCeiling) * s.penaltyRate) 0 :=
  scalar_max_eq _ _

end Formulas

section Rounding

variable {x y : Rat}

lemma round_eq_num_div_den (x : Rat) : round x = (2 * x.num + x.den) / (2 * x.den) := by
  have hden : (x.den : Rat) ≠ 0 := Nat.cast_ne_zero.mpr x.den_nz
  have hhalf : x + 1 / 2 = ((2 * x.num + x.den : Int) : Rat) / ((2 * x.den : Nat) : Rat) := by
    rw [← eq_sub_iff_add_eq]
    nth_rewrite 1 [← x.num_div_den]
    push_cast
    field_simp
    ring
  rw [round_eq, hhalf, Rat.floor_intCast_div_natCast, Nat.cast_mul, Nat.cast_ofNat]

lemma round_mono (h : x ≤ y) : round x ≤ round y := by
  rw [round_eq, round_eq]
  exact Int.floor_mono (by linarith)

lemma round_nonneg (h : 0 ≤ x) : 0 ≤ round x := by
  have hround := round_mono h
  rwa [round_zero] at hround

lemma round_nonpos (h : x ≤ 0) : round x ≤ 0 := by
  have hround := round_mono h
  rwa [round_zero] at hround

lemma roundAway_nonneg (h : 0 ≤ x) : 0 ≤ roundAway x := by
  rw [roundAway, if_pos h]
  exact round_nonneg h

lemma roundAway_mono (h : x ≤ y) : roundAway x ≤ roundAway y := by
  rw [roundAway, roundAway]
  split
  · next hx =>
    rw [if_pos (hx.trans h)]
    exact round_mono h
  · next hx =>
    split
    · next hy =>
      have hleft : 0 ≤ round (-x) := round_nonneg (by linarith)
      have hright : 0 ≤ round y := round_nonneg hy
      omega
    · exact neg_le_neg (round_mono (neg_le_neg h))

lemma max_roundAway (x : Rat) : max 0 (roundAway x) = max 0 (round x) := by
  rcases le_or_gt 0 x with h | h
  · rw [roundAway, if_pos h]
  · have hround := round_nonpos h.le
    have haway : 0 ≤ round (-x) := round_nonneg (by linarith)
    rw [roundAway, if_neg h.not_ge, max_eq_left (by omega), max_eq_left hround]

lemma toCount_eq (x : Rat) : (toCount x : Int) = min (maxCount : Int) (max 0 (roundAway x)) := by
  change ((Nat.min maxCount ((2 * x.num + x.den) / (2 * x.den)).toNat : Nat) : Int) = _
  rw [← round_eq_num_div_den, max_roundAway, max_comm, ← Int.ofNat_toNat]
  exact Nat.cast_min _ _

lemma toCount_le_roundAway (h : 0 ≤ y) (hxy : x ≤ y) : (toCount x : Int) ≤ roundAway y := by
  rw [toCount_eq]
  exact (min_le_right _ _).trans (max_le (roundAway_nonneg h) (roundAway_mono hxy))

end Rounding

section Floats

open Decimal (amount infinityPlace isNegative place units worth)

lemma round_div_two_pow (u k : Nat) :
    round ((u : Rat) / 2 ^ k) = ((2 * u + 2 ^ k) / 2 ^ (k + 1) : Nat) := by
  have hpow : (2 : Rat) ^ k ≠ 0 := pow_ne_zero _ two_ne_zero
  have hhalf : (u : Rat) / 2 ^ k + 1 / 2 =
      ((2 * u + 2 ^ k : Nat) : Int) / ((2 ^ (k + 1) : Nat) : Rat) := by
    push_cast
    rw [pow_succ]
    field_simp
  rw [round_eq, hhalf, Rat.floor_intCast_div_natCast, Int.natCast_div]

lemma toCount_div_two_pow (u : Nat) {k l : Nat} (h : k + 1 = l) :
    toCount ((u : Rat) / 2 ^ k) = Nat.min maxCount ((2 * u + 2 ^ k) / 2 ^ l) := by
  subst h
  have hcount := toCount_eq ((u : Rat) / 2 ^ k)
  rw [max_roundAway, round_div_two_pow, max_eq_right (Int.natCast_nonneg _), ← Nat.cast_min]
    at hcount
  exact Int.ofNat.inj hcount

lemma toCount_of_nonpos {x : Rat} (h : x ≤ 0) : toCount x = 0 := by
  have hcount := toCount_eq x
  rw [max_roundAway, max_eq_left (round_nonpos h), min_eq_right (Int.natCast_nonneg _)] at hcount
  exact Int.ofNat.inj hcount

lemma count_infinityPlace :
    Nat.min maxCount ((2 * units infinityPlace + 2 ^ 1074) / 2 ^ 1075) = maxCount := by
  decide +kernel

lemma toCount_worth {x : Float} (h : Decimal.isNaN x = false) : toCount x = toCount (worth x) := by
  change floatCount x = _
  rw [floatCount, h, Bool.false_or, worth, amount]
  by_cases hneg : isNegative x = true
  · rw [if_pos hneg, if_pos hneg, toCount_of_nonpos]
    rw [Int.cast_neg, neg_div, neg_nonpos]
    exact div_nonneg (Int.cast_nonneg (Int.natCast_nonneg _)) (pow_nonneg zero_le_two _)
  · have hexponent : 1074 + 1 = 1075 := rfl
    rw [if_neg hneg, if_neg hneg, Int.cast_natCast, toCount_div_two_pow _ hexponent]
    split
    · rfl
    · next hfinite =>
      have hplace : place x = infinityPlace :=
        Nat.le_antisymm (Nat.not_lt.mp (of_decide_eq_false h))
          (Nat.not_lt.mp (mt decide_eq_true hfinite))
      rw [hplace, count_infinityPlace]

def rounded (x : Float) : Int :=
  if Decimal.isNaN x then 0 else min (maxCount : Int) (max 0 (roundAway (worth x)))

lemma toCount_eq_rounded (x : Float) : (toCount x : Int) = rounded x := by
  rw [rounded]
  split
  · next hnan =>
    change ((floatCount x : Nat) : Int) = 0
    rw [floatCount, hnan, Bool.true_or, if_pos rfl, Nat.cast_zero]
  · next hnumber => rw [toCount_worth (eq_false_of_ne_true hnumber), toCount_eq]

end Floats

inductive Checked
  | number (x : Rat)
  | undefined
  deriving DecidableEq

namespace Checked

def both (f : Rat → Rat → Checked) : Checked → Checked → Checked
  | .number x, .number y => f x y
  | _, _ => undefined

/-- What is undefined is less than all numbers, so that the smaller of two is not one of them. -/
def ble : Checked → Checked → Bool
  | .number x, .number y => decide (x ≤ y)
  | .number _, .undefined => false
  | .undefined, _ => true

instance : Scalar Checked where
  add := both fun x y => number (x + y)
  sub := both fun x y => number (x - y)
  mul := both fun x y => number (x * y)
  div := both fun x y => if y = 0 then undefined else number (x / y)
  ofNat n := number n
  emptySum := number 0
  ble := ble
  toCount
    | .number x => toCount x
    | .undefined => 0

section Numbers

variable (s : Scoring Rat) (x y : Rat)

lemma number_div (h : y ≠ 0) : number x / number y = number (x / y) := if_neg h

lemma min_number : Scalar.min (number x) (number y) = number (Scalar.min x y) := by
  rw [Scalar.min, Scalar.min, apply_ite number, apply_ite number]
  rfl

lemma max_number : Scalar.max (number x) (number y) = number (Scalar.max x y) := by
  rw [Scalar.max, Scalar.max, apply_ite number, apply_ite number]
  rfl

lemma sum_number (xs : List Rat) : Scalar.sum (xs.map number) = number (Scalar.sum xs) := by
  rw [Scalar.sum, Scalar.sum, List.foldl_map]
  exact List.foldl_hom number fun _ _ => rfl

lemma share_number (whole : Nat) : share (number x) whole = number (share x whole) := by
  rw [share, share, apply_ite number]
  refine ite_congr rfl (fun _ => rfl) fun h => ?_
  exact number_div _ _ (Nat.cast_ne_zero.mpr h)

lemma safetyScore_number : safetyScore (s.map number) (number x) = number (safetyScore s x) := by
  rw [safetyScore, safetyScore, apply_ite number, ← min_number]
  refine ite_congr rfl (fun _ => rfl) fun h => ?_
  -- a target of zero has all points without a share of it
  have hzero : s.coverageTarget ≠ 0 := fun heq => h (decide_eq_true heq.le)
  change Scalar.min (number x / number s.coverageTarget * number s.safetyPoints) _ = _
  rw [number_div _ _ hzero]
  rfl

lemma usedBudget_number : usedBudget (s.map number) (number x) = number (usedBudget s x) := by
  rw [usedBudget, usedBudget, apply_ite number]
  refine ite_congr rfl (fun h => ?_) fun _ => rfl
  have hpos : ((0 : Nat) : Rat) < s.budgetCeiling := (scalar_blt_iff _ _).mp h
  rw [Nat.cast_zero] at hpos
  exact number_div _ _ hpos.ne'

lemma efficiencyScore_number :
    efficiencyScore (s.map number) (number x) = number (efficiencyScore s x) := by
  rw [efficiencyScore, efficiencyScore, apply_ite number, usedBudget_number]
  rfl

lemma penalty_number : penalty (s.map number) (number x) = number (penalty s x) :=
  max_number _ _

end Numbers

lemma summarize_number (s : Scoring Rat) (ts : List (Tally Rat)) :
    summarize (s.map number) (ts.map (Tally.map number)) = (summarize s ts).map number := by
  have hcosts : (ts.map (Tally.map number)).map Tally.cost = (ts.map Tally.cost).map number := by
    rw [List.map_map, List.map_map]
    rfl
  have htotal : totalCost (ts.map (Tally.map number)) = number (totalCost ts) := by
    rw [totalCost, hcosts, sum_number, totalCost]
  have hcoverage : share (ofNat (covered ts)) (highRisk ts) =
      number (share (ofNat (covered ts)) (highRisk ts)) := share_number _ _
  simp only [summarize, List.length_map, highRisk_map, covered_map, htotal, hcoverage,
    share_number, safetyScore_number, efficiencyScore_number, penalty_number]
  rfl

end Checked

end Score

end OfferPolicy
