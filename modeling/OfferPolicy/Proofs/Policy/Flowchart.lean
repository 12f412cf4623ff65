import OfferPolicy.Proofs.Decimal.Order
import OfferPolicy.Proofs.Policy.Default
import OfferPolicy.Proofs.Rule.Trace
import OfferPolicy.Proofs.Simulation

/-! Flowcharts of questions about a customer, with an offer at every end. The rules of the default
policy make the offers of the flowchart in its diagram section, so they reach all customers at high
risk and spend nothing on others. -/

namespace OfferPolicy

inductive Question where
  | highRisk
  | monthlyVip
  | twoYear
  | standard

namespace Question

def text : Question → String
  | highRisk => "Risk >= 0.7?"
  | monthlyVip => "VIP & M2M?"
  | twoYear => "2-Year Contract?"
  | standard => "Standard?"

def answer (c : Customer) : Question → Bool
  | highRisk => c.isHighRisk 0.7
  | monthlyVip => c.segment = some .vip ∧ c.contract = some "Month-to-month"
  | twoYear => c.contract = some "Two year"
  | standard => c.segment = some .standard

end Question

/-- A node with an offer, or one with a question, where `first` is what the given answer leads to
and `other` what the opposite answer does. -/
inductive Flowchart where
  | offer (node : String) (label : Label)
  | ask (node : String) (question : Question) (answer : Bool) (first other : Flowchart)

namespace Flowchart

def decide (c : Customer) : Flowchart → Label
  | offer _ label => label
  | ask _ question answer first other =>
    if question.answer c = answer then first.decide c else other.decide c

def box : Flowchart → String
  | offer node label => node ++ "([" ++ label.text ++ "])"
  | ask node question _ _ _ => node ++ "\x7b" ++ question.text ++ "\x7d"

def edge (node : String) (answer : Bool) (target : Flowchart) : String :=
  "  " ++ node ++ " -- " ++ (if answer then "Yes" else "No") ++ " --> " ++ target.box

def edges : Flowchart → List String
  | offer .. => []
  | ask node _ answer first other =>
    edge node answer first :: first.edges ++ edge node (!answer) other :: other.edges

def lines (chart : Flowchart) : List String :=
  "flowchart TD" :: ("  Start --> " ++ chart.box) :: chart.edges

end Flowchart

def defaultFlowchart : Flowchart :=
  .ask "Risk" .highRisk false (.offer "Z" .noOffer) <|
  .ask "VIP_M2M" .monthlyVip true (.offer "B" .big) <|
  .ask "LongTerm" .twoYear true (.offer "S" .small) <|
  .ask "Std" .standard true (.offer "M" .medium) (.offer "S2" .small)

lemma decide_defaultFlowchart (c : Customer) : defaultFlowchart.decide c =
    if c.isHighRisk 0.7 then
      if c.segment = some .vip ∧ c.contract = some "Month-to-month" then .big
      else if c.contract = some "Two year" then .small
      else if c.segment = some .standard then .medium
      else .small
    else .noOffer := by
  cases hrisk : c.isHighRisk 0.7 <;>
    simp [defaultFlowchart, Flowchart.decide, Question.answer, hrisk]

lemma diagram_defaultPolicy : (Document.ofText defaultPolicy).diagram =
    ("\n".intercalate defaultFlowchart.lines).toList := by
  have hne : defaultPolicyLines ≠ [] := List.cons_ne_nil _ _
  rw [defaultPolicy, Document.ofText_joined hne lineFeed_notMem_defaultPolicyLines,
    String.toList_intercalate, defaultPolicyLines]
  simp only [List.map_cons, List.map_nil]
  repeat rw [String.toList_ofList]
  decide +kernel

def Customer.IsNumeric (c : Customer) : Prop :=
  ∀ s, c.churnScore = some s → s.isNaN = false

section

open Comparison (unscored scoreBelow)

variable {c : Customer}

lemma Customer.isHighRisk_eq_false_iff (h : c.IsNumeric) {x : Float} (hx : x.isNaN = false) :
    c.isHighRisk x = false ↔ unscored.holds c = true ∨ (scoreBelow x).holds c = true := by
  rw [Comparison.holds_unscored, Comparison.holds_scoreBelow, Customer.isHighRisk]
  cases hs : c.churnScore with
  | none => simp
  | some s => simp [← Decimal.not_lt_iff (h s hs) hx]

lemma find?_defaultRules (h : c.IsNumeric) :
    ∃ r, defaultRules.find? (·.applies c) = some r ∧ r.offer = defaultFlowchart.decide c ∧
      r.line ≠ some 30 := by
  have hnumber : (0.7 : Float).isNaN = false := by decide +kernel
  have hlow := Customer.isHighRisk_eq_false_iff h hnumber
  have hhigh := Comparison.holds_scoreFrom c 0.7
  simp only [defaultRules_eq, Rules.numbered, defaultCommented, List.find?_cons,
    Rule.applies_onLine, Rule.applies_given, List.all_cons, List.all_nil, Bool.and_true,
    Comparison.holds_inSegment, Comparison.holds_onContract, ← Bool.decide_and, hhigh]
  rw [decide_defaultFlowchart]
  -- The rules below the second one see customers at high risk only.
  cases hrisk : c.isHighRisk 0.7 with
  | false =>
    by_cases hnone : unscored.holds c = true
    · simp [hnone]
    · have hbelow := (hlow.mp hrisk).resolve_left hnone
      simp [hnone, hbelow]
  | true =>
    obtain ⟨hnone, hbelow⟩ := not_or.mp (mt hlow.mpr (by simp [hrisk]))
    simp only [hnone, hbelow]
    by_cases hvip : c.segment = some .vip ∧ c.contract = some "Month-to-month"
    · simp [hvip]
    by_cases htwo : c.contract = some "Two year"
    · simp [htwo]
    by_cases hstandard : c.segment = some .standard
    · simp [htwo, hstandard]
    simp [hvip, htwo, hstandard]

lemma decide_defaultRules (h : c.IsNumeric) :
    defaultRules.decide c = defaultFlowchart.decide c := by
  obtain ⟨r, hr, hoffer, _⟩ := find?_defaultRules h
  rw [Rules.decide, hr]
  exact hoffer

lemma matchedLine_defaultRules_ne (h : c.IsNumeric) :
    (defaultRules.trace c).matchedLine ≠ some 30 := by
  obtain ⟨r, hr, _, hline⟩ := find?_defaultRules h
  rwa [Rules.trace, Trace.matchedLine_runFrom, hr]

lemma decide_defaultFlowchart_eq_noOffer_iff :
    defaultFlowchart.decide c = .noOffer ↔ c.isHighRisk 0.7 = false := by
  rw [decide_defaultFlowchart]
  cases c.isHighRisk 0.7 with
  | false => exact iff_of_true rfl rfl
  | true =>
    refine iff_of_false ?_ nofun
    simp only [if_true]
    split_ifs <;> decide

end

namespace Rules

variable {rules : Rules}

lemma cost_outcome_of_noOffer {c : Customer} (h : rules.decide c = .noOffer) :
    (rules.outcome c).cost = 0 := by
  rw [outcome, h]
  rfl

end Rules

/-- The default policy makes the offers its flowchart shows, and its last rule never decides. So all
customers at high risk get an offer, and no other customer costs anything. -/
theorem defaultRules_follow_flowchart {cs : List Customer} (h : ∀ c ∈ cs, c.IsNumeric) :
    (Document.ofText defaultPolicy).diagram = ("\n".intercalate defaultFlowchart.lines).toList ∧
    defaultRules.getLast? = some ⟨.always, .noOffer, some 30⟩ ∧
    (∀ c ∈ cs, defaultRules.decide c = defaultFlowchart.decide c ∧
      (defaultRules.trace c).matchedLine ≠ some 30) ∧
    (defaultRules.simulate .standard cs).summary.covered =
      (defaultRules.simulate .standard cs).summary.highRisk ∧
    ∀ o ∈ (defaultRules.simulate .standard cs).outcomes,
      o.customer.isHighRisk Score.Scoring.standard.highRiskThreshold = false → o.cost = 0 := by
  have hnoOffer : ∀ c ∈ cs, defaultRules.decide c = .noOffer ↔
      c.isHighRisk Score.Scoring.standard.highRiskThreshold = false := by
    intro c hc
    rw [decide_defaultRules (h c hc)]
    exact decide_defaultFlowchart_eq_noOffer_iff
  refine ⟨diagram_defaultPolicy, by rw [defaultRules_eq]; rfl, fun c hc => ?_, ?_, ?_⟩
  · exact ⟨decide_defaultRules (h c hc), matchedLine_defaultRules_ne (h c hc)⟩
  · refine Rules.covered_simulate_eq_highRisk fun c hc hrisk hoffer => ?_
    have hlow := (hnoOffer c hc).mp hoffer
    rw [hrisk] at hlow
    cases hlow
  · rw [Rules.outcomes_simulate, List.forall_mem_map]
    exact fun c hc hrisk => Rules.cost_outcome_of_noOffer ((hnoOffer c hc).mpr hrisk)

def monthlyVip (score : Option Float) : Customer :=
  { segment := some .vip, contract := some "Month-to-month", churnScore := score }

theorem defaultRules_follow_flowchart_at_threshold :
    (∀ c ∈ [monthlyVip (some 0.7), monthlyVip (some 0.5), monthlyVip none], c.IsNumeric) ∧
    [monthlyVip (some 0.7), monthlyVip (some 0.5), monthlyVip none].map defaultRules.decide =
      [.big, .noOffer, .noOffer] ∧
    (defaultRules.simulate .standard
      [monthlyVip (some 0.7), monthlyVip (some 0.5), monthlyVip none]).summary.covered = 1 := by
  have h : ∀ c ∈ [monthlyVip (some 0.7), monthlyVip (some 0.5), monthlyVip none],
      c.IsNumeric := by
    simp only [List.forall_mem_cons]
    refine ⟨?_, ?_, ?_, List.forall_mem_nil _⟩ <;> rintro _ ⟨⟩ <;> decide +kernel
  obtain ⟨_, _, hdecide, hcovered, _⟩ := defaultRules_follow_flowchart h
  refine ⟨h, ?_, ?_⟩
  · rw [List.map_congr_left fun c hc => (hdecide c hc).1]
    decide +kernel
  · rw [hcovered]
    decide +kernel

end OfferPolicy
