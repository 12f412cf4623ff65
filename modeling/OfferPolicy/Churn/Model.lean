import OfferPolicy.Churn.Noise
import OfferPolicy.Customer

namespace OfferPolicy

def Segment.ofCharges (charges : Option Float) : Segment :=
  match charges with
  | some c => if 90.0 ≤ c then .vip else if 50.0 ≤ c then .standard else .other
  | none => .other

namespace Churn

structure Model where
  noise : Noise
  jitter : Float

def defaultJitter : Float := 0.1

namespace Model

def ofSeed (seed : UInt64) : Model := ⟨.ofSeed seed, defaultJitter⟩

def withJitter (m : Model) (jitter : Float) : Model :=
  { m with jitter := if 0.0 < jitter then jitter else 0.0 }

def contractShare (contract : Option String) (score : Float) : Float :=
  if contract = some "Month-to-month" then score + 0.4
  else if contract = some "Two year" then score - 0.3
  else score

def tenureShare (tenure : Option Float) (score : Float) : Float :=
  match tenure with
  | some t => if 48.0 < t then score - 0.2 else score
  | none => score

def baseScore (c : Customer) : Float :=
  tenureShare c.tenure (contractShare c.contract 0.3)

def clamp (score : Float) : Float :=
  let low := if score < 0.01 then 0.01 else score
  if 0.99 < low then 0.99 else low

def isNoisy (m : Model) : Bool := 0.0 < m.jitter

def noiseOf (m : Model) : Float :=
  if m.isNoisy then m.noise.value * m.jitter else 0.0

def scoreOf (m : Model) (c : Customer) : Float :=
  clamp (baseScore c + m.noiseOf)

def advance (m : Model) : Model :=
  if m.isNoisy then { m with noise := m.noise.advance } else m

def enrich (m : Model) (c : Customer) : Customer :=
  { c with segment := some (.ofCharges c.monthlyCharges), churnScore := some (m.scoreOf c) }

def runAll {α : Type} (f : Model → Customer → α) (m : Model) : List Customer → List α × Model
  | [] => ([], m)
  | c :: cs =>
    let r := runAll f m.advance cs
    (f m c :: r.1, r.2)

def scoreAll (m : Model) (cs : List Customer) : List Float × Model :=
  runAll scoreOf m cs

def enrichAll (m : Model) (cs : List Customer) : List Customer × Model :=
  runAll enrich m cs

theorem runAll_append {α : Type} (f : Model → Customer → α) (m : Model) (as bs : List Customer) :
    runAll f m (as ++ bs) =
      ((runAll f m as).1 ++ (runAll f (runAll f m as).2 bs).1,
        (runAll f (runAll f m as).2 bs).2) := by
  induction as generalizing m with
  | nil => rfl
  | cons a as ih => simp [runAll, ih]

end Model

end Churn

end OfferPolicy
