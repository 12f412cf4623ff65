import OfferPolicy.Customer.Form
import OfferPolicy.Rule.Decision

namespace OfferPolicy.Score

open OfferPolicy.Tree

namespace Scoring

def fieldNames : List String :=
  ["high_risk_threshold", "coverage_target", "safety_points", "budget_ceiling", "efficiency_base",
    "efficiency_points", "penalty_rate"]

def toTree (s : Scoring Float) : Tree :=
  .table [("high_risk_threshold", .ofFloat s.highRiskThreshold),
    ("coverage_target", .ofFloat s.coverageTarget),
    ("safety_points", .ofFloat s.safetyPoints),
    ("budget_ceiling", .ofFloat s.budgetCeiling),
    ("efficiency_base", .ofFloat s.efficiencyBase),
    ("efficiency_points", .ofFloat s.efficiencyPoints),
    ("penalty_rate", .ofFloat s.penaltyRate)]

def ofTree : Tree → Except Mismatch (Scoring Float) :=
  asRow fieldNames fun row => do
    let d := Scoring.standard
    .ok
      { highRiskThreshold := ← row.withDefault "high_risk_threshold" asFloat d.highRiskThreshold
        coverageTarget := ← row.withDefault "coverage_target" asFloat d.coverageTarget
        safetyPoints := ← row.withDefault "safety_points" asFloat d.safetyPoints
        budgetCeiling := ← row.withDefault "budget_ceiling" asFloat d.budgetCeiling
        efficiencyBase := ← row.withDefault "efficiency_base" asFloat d.efficiencyBase
        efficiencyPoints := ← row.withDefault "efficiency_points" asFloat d.efficiencyPoints
        penaltyRate := ← row.withDefault "penalty_rate" asFloat d.penaltyRate }

end Scoring

namespace Kpi

def fieldNames : List String :=
  ["rows", "total_cost", "avg_cost", "high_risk", "covered", "coverage", "safety_score",
    "efficiency_score", "penalty", "final_score"]

def toTree (k : Kpi Float) : Tree :=
  .table [("rows", .int k.rows),
    ("total_cost", .ofFloat k.totalCost),
    ("avg_cost", .ofFloat k.avgCost),
    ("high_risk", .int k.highRisk),
    ("covered", .int k.covered),
    ("coverage", .ofFloat k.coverage),
    ("safety_score", .ofFloat k.safetyScore),
    ("efficiency_score", .ofFloat k.efficiencyScore),
    ("penalty", .ofFloat k.penalty),
    ("final_score", .int k.finalScore)]

def ofTree : Tree → Except Mismatch (Kpi Float) :=
  asRow fieldNames fun row => do
    .ok
      { rows := ← row.required "rows" asCount
        totalCost := ← row.required "total_cost" asFloat
        avgCost := ← row.required "avg_cost" asFloat
        highRisk := ← row.required "high_risk" asCount
        covered := ← row.required "covered" asCount
        coverage := ← row.required "coverage" asFloat
        safetyScore := ← row.required "safety_score" asFloat
        efficiencyScore := ← row.required "efficiency_score" asFloat
        penalty := ← row.required "penalty" asFloat
        finalScore := ← row.required "final_score" (asNat (maxCount + 1)) }

end Kpi

end OfferPolicy.Score

namespace OfferPolicy

def Simulation.toTree (s : Simulation) : Tree :=
  .table [("records", .list (s.outcomes.map Outcome.toTree)), ("summary", s.summary.toTree)]

end OfferPolicy
