import OfferPolicy.Proofs.Decimal.Amount
import OfferPolicy.Proofs.Policy.Default
import OfferPolicy.Proofs.Simulation

/-! High risk is one notion for the rules and for the figures of a batch: a score that is at least
the threshold. So a first rule on that score decides which customers at high risk are reached, as
long as its threshold is not above the one of the figures. -/

namespace OfferPolicy

open Comparison (scoreBelow scoreFrom)

namespace Customer

variable {c : Customer} {t u : Float}

lemma isHighRisk_iff : c.isHighRisk t = true ↔ ∃ x, c.churnScore = some x ∧ t ≤ x := by
  rw [isHighRisk]
  cases c.churnScore <;> simp

lemma isHighRisk_of_le (htu : t ≤ u) (h : c.isHighRisk u = true) : c.isHighRisk t = true := by
  obtain ⟨x, hx, hux⟩ := isHighRisk_iff.mp h
  exact isHighRisk_iff.mpr ⟨x, hx, Decimal.le_of_le_of_le htu hux⟩

lemma holds_scoreBelow_of_isHighRisk (h : c.isHighRisk t = true) :
    (scoreBelow t).holds c = false := by
  obtain ⟨x, hx, htx⟩ := isHighRisk_iff.mp h
  rw [Comparison.holds_scoreBelow, hx, Option.any_some]
  exact decide_eq_false (Decimal.not_lt_of_le htx)

end Customer

namespace Rule

def whenever (t : Comparison) (offer : Label) (line : Option Nat) : Rule :=
  ⟨.holds ⟨[t], List.cons_ne_nil t []⟩, offer, line⟩

variable {t : Comparison} {offer : Label}

lemma applies_whenever (line : Option Nat) (c : Customer) :
    (whenever t offer line).applies c = t.holds c :=
  Bool.and_true _

lemma source_whenever (line : Option Nat) : (whenever t offer line).source =
    "IF " ++ t.source ++ " THEN RETURN \"" ++ offer.text ++ "\"" := by
  have hcondition : Condition.source ⟨[t], List.cons_ne_nil t []⟩ = t.source :=
    congrArg String.ofList List.intercalate_singleton
  rw [whenever, source, Guard.source?, hcondition]

lemma ofLine?_source_whenever (hl : t.literal.IsFinite) (hfeed : ¬ t.literal.BreaksLine)
    (ho : offer.IsTag) (n : Nat) :
    ofLine? ⟨n, (whenever t offer none).source.toList⟩ = some (whenever t offer (some n)) := by
  have hliterals : (whenever t offer none).guard.literals = [t.literal] := rfl
  have hfinite : ∀ l ∈ (whenever t offer none).guard.literals, l.IsFinite := by
    rwa [hliterals, List.forall_mem_singleton]
  have hread := isRead_of_isFinite (r := whenever t offer none) rfl hfinite ho
  have hline := hread.lineFeed_notMem_source (by rwa [hliterals, List.forall_mem_singleton])
  exact ofLine?_source_of_isFinite rfl hfinite ho hline n

def scoreText (op : Operator) (x : Float) (offer : Label) : String :=
  "IF " ++ ("churn_score " ++ op.symbol ++ " " ++ Decimal.plain.render x) ++
    " THEN RETURN \"" ++ offer.text ++ "\""

lemma source_scored (op : Operator) (x : Float) :
    Comparison.source ⟨.churnScore, op, .number x, rfl⟩ =
      "churn_score " ++ op.symbol ++ " " ++ Decimal.plain.render x := by
  rw [← String.toList_inj]
  simp [Comparison.source, Comparison.chars, Literal.chars, Field.name]

lemma scoreText_eq (op : Operator) (x : Float) : scoreText op x offer =
    (whenever ⟨.churnScore, op, .number x, rfl⟩ offer none).source := by
  rw [source_whenever, source_scored, scoreText]

lemma ofLine?_scoreText (op : Operator) {x : Float} (hx : Decimal.isFinite x = true)
    (ho : offer.IsTag) (n : Nat) : ofLine? ⟨n, (scoreText op x offer).toList⟩ =
      some (whenever ⟨.churnScore, op, .number x, rfl⟩ offer (some n)) := by
  rw [scoreText_eq]
  exact ofLine?_source_whenever (t := ⟨.churnScore, op, .number x, rfl⟩) hx not_false ho n

end Rule

namespace Rules

lemma decide_cons_whenever (t : Comparison) (offer : Label) (line : Option Nat) (rules : Rules)
    (c : Customer) : decide (Rule.whenever t offer line :: rules) c =
      if t.holds c then offer else rules.decide c := by
  have happlies : (Rule.whenever t offer line).applies c = t.holds c :=
    Rule.applies_whenever line c
  split
  · next h => exact decide_cons_of_applies (happlies.trans h)
  · next h => exact decide_cons_of_not_applies (happlies.trans (eq_false_of_ne_true h))

end Rules

/-- A rule on the score asks for the high risk that the figures count. In front of other rules, one
that makes an offer from a threshold on reaches all at high risk, one that makes none there reaches
nobody, and one that makes none below it takes nobody away. -/
theorem Rules.simulate_cons_whenever {t : Float} (ht : Decimal.isFinite t = true) :
    (∀ c : Customer, c.isHighRisk t = (scoreFrom t).holds c) ∧
      (∀ (offer : Label) (n : Nat), offer.IsTag →
        Rule.ofLine? ⟨n, (Rule.scoreText .ge t offer).toList⟩ =
            some (Rule.whenever (scoreFrom t) offer (some n)) ∧
          Rule.ofLine? ⟨n, (Rule.scoreText .lt t offer).toList⟩ =
            some (Rule.whenever (scoreBelow t) offer (some n))) ∧
      ∀ (rules : Rules) (s : Score.Scoring Float) (cs : List Customer) (line : Option Nat),
        t ≤ s.highRiskThreshold →
        (∀ offer : Label, offer ≠ .noOffer →
          (simulate (.whenever (scoreFrom t) offer line :: rules) s cs).summary.covered =
            (simulate (.whenever (scoreFrom t) offer line :: rules) s cs).summary.highRisk) ∧
        (simulate (.whenever (scoreFrom t) .noOffer line :: rules) s cs).summary.covered = 0 ∧
        (simulate (.whenever (scoreBelow t) .noOffer line :: rules) s cs).summary.highRisk =
          (rules.simulate s cs).summary.highRisk ∧
        (simulate (.whenever (scoreBelow t) .noOffer line :: rules) s cs).summary.covered =
          (rules.simulate s cs).summary.covered ∧
        ∀ c : Customer, c.isHighRisk s.highRiskThreshold = true →
          decide (.whenever (scoreBelow t) .noOffer line :: rules) c = rules.decide c := by
  refine ⟨fun c => (Comparison.holds_scoreFrom c t).symm, fun offer n ho => ?_,
    fun rules s cs line hle => ?_⟩
  · exact ⟨Rule.ofLine?_scoreText .ge ht ho n, Rule.ofLine?_scoreText .lt ht ho n⟩
  have hfrom : ∀ c : Customer, c.isHighRisk s.highRiskThreshold = true → ∀ offer,
      decide (.whenever (scoreFrom t) offer line :: rules) c = offer := by
    intro c hrisk offer
    rw [decide_cons_whenever, Comparison.holds_scoreFrom, Customer.isHighRisk_of_le hle hrisk,
      if_pos rfl]
  have hbelow : ∀ c : Customer, c.isHighRisk s.highRiskThreshold = true →
      decide (.whenever (scoreBelow t) .noOffer line :: rules) c = rules.decide c := by
    intro c hrisk
    have hnot := Customer.holds_scoreBelow_of_isHighRisk (Customer.isHighRisk_of_le hle hrisk)
    rw [decide_cons_whenever, hnot, if_neg Bool.false_ne_true]
  refine ⟨fun offer hoffer => ?_, ?_, ?_, ?_, hbelow⟩
  · exact covered_simulate_eq_highRisk fun c _ hrisk => by rwa [hfrom c hrisk]
  · exact covered_simulate_eq_zero fun c _ hrisk => hfrom c hrisk .noOffer
  · rw [highRisk_simulate, highRisk_simulate]
  · exact covered_simulate_congr fun c _ => hbelow c

theorem Rules.simulate_cons_whenever_at_threshold :
    Decimal.isFinite 0.7 = true ∧ Label.small.IsTag ∧ Label.small ≠ .noOffer ∧
      0.7 ≤ Score.Scoring.standard.highRiskThreshold ∧
      Rule.ofLine? ⟨11, (Rule.scoreText .ge 0.7 .small).toList⟩ =
        some (.whenever (scoreFrom 0.7) .small (some 11)) ∧
      (simulate (.whenever (scoreFrom 0.7) .small none :: [⟨.always, .noOffer, none⟩]) .standard
        [{ churnScore := some 0.7 }, { churnScore := some 0.9 },
          { churnScore := some Decimal.nan }, {}]).summary.covered = 2 := by
  have ht : Decimal.isFinite 0.7 = true := by decide +kernel
  have htag : Label.small.IsTag :=
    Label.isTag_of_ofTag_text (by decide +kernel) (by decide) (by decide)
  have hoffer : Label.small ≠ .noOffer := by decide
  have hle : 0.7 ≤ Score.Scoring.standard.highRiskThreshold := by decide +kernel
  obtain ⟨-, htext, hrules⟩ := simulate_cons_whenever ht
  refine ⟨ht, htag, hoffer, hle, (htext .small 11 htag).1, ?_⟩
  rw [(hrules [⟨.always, .noOffer, none⟩] .standard _ none hle).1 .small hoffer, highRisk_simulate]
  decide +kernel

end OfferPolicy
