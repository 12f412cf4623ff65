import OfferPolicy.Customer
import OfferPolicy.Score.Scalar

/-!
Key figures of a batch of offers: what they cost, how many of the customers at risk they reach, and
the score both make.

Reaching customers earns points up to a target. Spending within the budget earns points for what is
left of it. Spending beyond the budget earns none of these and costs a penalty.
-/

namespace OfferPolicy.Score

open Scalar

structure Scoring (α : Type) where
  highRiskThreshold : α
  coverageTarget : α
  safetyPoints : α
  budgetCeiling : α
  efficiencyBase : α
  efficiencyPoints : α
  penaltyRate : α

def Scoring.standard : Scoring Float where
  highRiskThreshold := 0.7
  coverageTarget := 0.9
  safetyPoints := 50.0
  budgetCeiling := 3500.0
  efficiencyBase := 30.0
  efficiencyPoints := 20.0
  penaltyRate := 0.1

structure Tally (α : Type) where
  highRisk : Bool
  offered : Bool
  cost : α

def Tally.ofOutcome (threshold : Float) (o : Outcome) : Tally Float where
  highRisk := o.customer.isHighRisk threshold
  offered := o.offer ≠ .noOffer
  cost := o.cost

structure Kpi (α : Type) where
  rows : Nat
  totalCost : α
  avgCost : α
  highRisk : Nat
  covered : Nat
  coverage : α
  safetyScore : α
  efficiencyScore : α
  penalty : α
  finalScore : Nat

section

variable {α : Type}

def highRisk (ts : List (Tally α)) : Nat :=
  ts.countP Tally.highRisk

def covered (ts : List (Tally α)) : Nat :=
  ts.countP fun t => t.highRisk && t.offered

theorem covered_le_highRisk (ts : List (Tally α)) : covered ts ≤ highRisk ts :=
  List.countP_mono_left fun t _ h => by
    simp only [Bool.and_eq_true] at h
    exact h.1

theorem highRisk_le_length (ts : List (Tally α)) : highRisk ts ≤ ts.length :=
  List.countP_le_length

variable [Scalar α]

def share (part : α) (whole : Nat) : α :=
  if whole = 0 then ofNat 0 else part / ofNat whole

def safetyScore (s : Scoring α) (coverage : α) : α :=
  if ble s.coverageTarget (ofNat 0) then s.safetyPoints
  else min (coverage / s.coverageTarget * s.safetyPoints) s.safetyPoints

def usedBudget (s : Scoring α) (totalCost : α) : α :=
  if blt (ofNat 0) s.budgetCeiling then totalCost / s.budgetCeiling else ofNat 0

def efficiencyScore (s : Scoring α) (totalCost : α) : α :=
  if blt s.budgetCeiling totalCost then ofNat 0
  else s.efficiencyBase + s.efficiencyPoints * (ofNat 1 - usedBudget s totalCost)

def penalty (s : Scoring α) (totalCost : α) : α :=
  max ((totalCost - s.budgetCeiling) * s.penaltyRate) (ofNat 0)

def totalCost (ts : List (Tally α)) : α :=
  sum (ts.map Tally.cost)

def summarize (s : Scoring α) (ts : List (Tally α)) : Kpi α :=
  let total := totalCost ts
  let coverage := share (ofNat (covered ts)) (highRisk ts)
  let safety := safetyScore s coverage
  let efficiency := efficiencyScore s total
  let lost := penalty s total
  { rows := ts.length
    totalCost := total
    avgCost := share total ts.length
    highRisk := highRisk ts
    covered := covered ts
    coverage := coverage
    safetyScore := safety
    efficiencyScore := efficiency
    penalty := lost
    finalScore := toCount (safety + efficiency - lost) }

def Kpi.coveragePercent (k : Kpi α) : Nat :=
  toCount (k.coverage * ofNat 100)

end

def ofOutcomes (s : Scoring Float) (os : List Outcome) : Kpi Float :=
  summarize s (os.map (Tally.ofOutcome s.highRiskThreshold))

end OfferPolicy.Score
