import OfferPolicy.Condition.Eval
import OfferPolicy.Rule.Basic
import OfferPolicy.Score.Kpi

namespace OfferPolicy

def Guard.admits (c : Customer) : Guard → Bool
  | always => true
  | holds condition => condition.holds c
  | broken .. => false

def Rule.applies (r : Rule) (c : Customer) : Bool :=
  r.guard.admits c

def Rules.decide (rules : Rules) (c : Customer) : Label :=
  match rules.find? (·.applies c) with
  | some r => r.offer
  | none => .noOffer

theorem Rules.decide_cons_of_applies {r : Rule} {rules : Rules} {c : Customer}
    (h : r.applies c = true) : decide (r :: rules) c = r.offer := by
  simp [decide, h]

theorem Rules.decide_cons_of_not_applies {r : Rule} {rules : Rules} {c : Customer}
    (h : r.applies c = false) : decide (r :: rules) c = decide rules c := by
  simp [decide, h]

structure Simulation where
  outcomes : List Outcome
  summary : Score.Kpi Float

def Rules.outcome (rules : Rules) (c : Customer) : Outcome :=
  .priced c (rules.decide c)

def Rules.simulate (rules : Rules) (s : Score.Scoring Float) (cs : List Customer) : Simulation :=
  let outcomes := cs.map rules.outcome
  ⟨outcomes, Score.ofOutcomes s outcomes⟩

@[simp] theorem Rules.outcomes_simulate (rules : Rules) (s : Score.Scoring Float)
    (cs : List Customer) : (rules.simulate s cs).outcomes = cs.map rules.outcome := rfl

end OfferPolicy
