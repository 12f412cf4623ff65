import OfferPolicy.Proofs.Score.Bounds

/-! Reaching no fewer customers at no higher cost never lowers the score of a batch. Every formula
goes one way only: safety with the share of customers reached, efficiency and penalty with what is
spent, also across the ceiling of the budget. -/

namespace OfferPolicy

namespace Score

open Decimal (worth)
open Scalar (ofNat toCount)

section Formulas

variable {s : Scoring Rat} {x y : Rat}

lemma share_mono (whole : Nat) (h : x ≤ y) : share x whole ≤ share y whole := by
  rw [share_eq, share_eq]
  exact div_le_div_of_nonneg_right h (Nat.cast_nonneg whole)

lemma safetyScore_mono (hpoints : 0 ≤ s.safetyPoints) (h : x ≤ y) :
    safetyScore s x ≤ safetyScore s y := by
  rw [safetyScore_eq, safetyScore_eq]
  split
  · exact le_rfl
  · next htarget =>
    have hshare : x / s.coverageTarget ≤ y / s.coverageTarget :=
      div_le_div_of_nonneg_right h (not_le.mp htarget).le
    exact min_le_min_right _ (mul_le_mul_of_nonneg_right hshare hpoints)

lemma usedBudget_mono (h : x ≤ y) : usedBudget s x ≤ usedBudget s y := by
  rw [usedBudget_eq, usedBudget_eq]
  split
  · next hpos => exact div_le_div_of_nonneg_right h hpos.le
  · exact le_rfl

lemma efficiencyScore_anti (hbase : 0 ≤ s.efficiencyBase) (hpoints : 0 ≤ s.efficiencyPoints)
    (h : x ≤ y) : efficiencyScore s y ≤ efficiencyScore s x := by
  rcases le_or_gt y s.budgetCeiling with hy | hy
  · have hleft : 1 - usedBudget s y ≤ 1 - usedBudget s x := sub_le_sub_left (usedBudget_mono h) 1
    rw [efficiencyScore_eq, efficiencyScore_eq, if_neg hy.not_gt, if_neg (h.trans hy).not_gt]
    exact add_le_add_right (mul_le_mul_of_nonneg_left hleft hpoints) _
  · rw [efficiencyScore_beyond hy]
    rcases le_or_gt x s.budgetCeiling with hx | hx
    · exact hbase.trans (le_efficiencyScore hpoints hx)
    · exact (efficiencyScore_beyond hx).ge

lemma penalty_mono (hrate : 0 ≤ s.penaltyRate) (h : x ≤ y) : penalty s x ≤ penalty s y := by
  rw [penalty_eq, penalty_eq]
  exact max_le_max_right 0 (mul_le_mul_of_nonneg_right (sub_le_sub_right h _) hrate)

lemma toCount_mono (h : x ≤ y) : toCount x ≤ toCount y := by
  have hcount := min_le_min_left (maxCount : Int) (max_le_max_left 0 (roundAway_mono h))
  rw [← toCount_eq, ← toCount_eq] at hcount
  exact Int.ofNat_le.mp hcount

end Formulas

structure Kpi.Improves (k' k : Kpi Rat) : Prop where
  highRisk : k'.highRisk = k.highRisk
  covered : k.covered ≤ k'.covered
  totalCost : k'.totalCost ≤ k.totalCost

lemma finalScore_summarize_mono {s : Scoring Rat} {ts us : List (Tally Rat)}
    (hs : ∀ x ∈ s.fields, 0 ≤ x) (h : (summarize s us).Improves (summarize s ts)) :
    (summarize s ts).finalScore ≤ (summarize s us).finalScore := by
  obtain ⟨-, -, hsafety, -, hbase, hpoints, hrate⟩ := forall_fields hs
  have hhigh : highRisk us = highRisk ts := h.highRisk
  have hcost : totalCost us ≤ totalCost ts := h.totalCost
  have hcovered : (covered ts : Rat) ≤ covered us := Nat.cast_le.mpr h.covered
  have hreached : safetyScore s (share (ofNat (covered ts)) (highRisk ts)) ≤
      safetyScore s (share (ofNat (covered us)) (highRisk us)) := by
    rw [hhigh]
    exact safetyScore_mono hsafety (share_mono (highRisk ts) hcovered)
  have hefficiency := efficiencyScore_anti hbase hpoints hcost
  have hpenalty := penalty_mono hrate hcost
  exact toCount_mono (sub_le_sub (add_le_add hreached hefficiency) hpenalty)

lemma improves_replace {s : Scoring Rat} {t u : Tally Rat} (front behind : List (Tally Rat))
    (hhigh : u.highRisk = t.highRisk)
    (hcovered : t.highRisk = true → t.offered = true → u.offered = true) (hcost : u.cost ≤ t.cost) :
    (summarize s (front ++ u :: behind)).Improves (summarize s (front ++ t :: behind)) where
  highRisk := by
    change highRisk _ = highRisk _
    simp only [highRisk, List.countP_append, List.countP_cons, hhigh]
  covered := by
    have hone : (if (t.highRisk && t.offered) = true then 1 else 0) ≤
        if (u.highRisk && u.offered) = true then 1 else 0 := by
      rw [hhigh]
      split
      · next h =>
        obtain ⟨hrisk, hoffered⟩ := Bool.and_eq_true_iff.mp h
        rw [hrisk, hcovered hrisk hoffered]
        exact le_rfl
      · exact Nat.zero_le _
    change covered _ ≤ covered _
    simp only [covered, List.countP_append, List.countP_cons]
    omega
  totalCost := by
    change totalCost _ ≤ totalCost _
    simp only [totalCost_eq, List.map_append, List.map_cons, List.sum_append, List.sum_cons]
    linarith

lemma improves_figures_replace {s : Scoring Float} {c : Customer} {l l' : Label}
    (front behind : List Outcome)
    (hcovered : c.isHighRisk s.highRiskThreshold = true → l ≠ .noOffer → l' ≠ .noOffer)
    (hprice : l'.price ≤ l.price) :
    (figures worth s (front ++ .priced c l' :: behind)).Improves
      (figures worth s (front ++ .priced c l :: behind)) := by
  have hcost : worth (Outcome.priced c l').cost ≤ worth (Outcome.priced c l).cost := by
    rw [worth_cost rfl, worth_cost rfl]
    exact Nat.cast_le.mpr hprice
  simp only [figures, List.map_append, List.map_cons]
  refine improves_replace _ _ rfl (fun hrisk hoffered => ?_) hcost
  exact decide_eq_true (hcovered hrisk (of_decide_eq_true hoffered))

/-- In exact numbers, a batch that reaches no fewer of as many customers at risk, at no higher cost,
scores no less. So it never costs score to make no offer to a customer who is not at risk, nor to
make one that is free to a customer who is. -/
theorem finalScore_mono (s : Scoring Float)
    (hs : ∀ x ∈ s.fields, 0 ≤ x ∧ Decimal.isFinite x = true) :
    (∀ os os' : List Outcome, (figures worth s os').Improves (figures worth s os) →
        (figures worth s os).finalScore ≤ (figures worth s os').finalScore) ∧
      (∀ (front behind : List Outcome) (c : Customer) (l : Label),
        c.isHighRisk s.highRiskThreshold = false →
          (figures worth s (front ++ .priced c l :: behind)).finalScore ≤
            (figures worth s (front ++ .priced c .noOffer :: behind)).finalScore) ∧
      ∀ (front behind : List Outcome) (c : Customer) (l : Label),
        c.isHighRisk s.highRiskThreshold = true → l ≠ .noOffer → l.price = 0 →
          (figures worth s (front ++ .priced c .noOffer :: behind)).finalScore ≤
            (figures worth s (front ++ .priced c l :: behind)).finalScore := by
  have hworth : ∀ x ∈ (s.map worth).fields, 0 ≤ x :=
    List.forall_mem_map.mpr fun x hx => Decimal.worth_nonneg (hs x hx).1
  refine ⟨fun os os' => finalScore_summarize_mono hworth, fun front behind c l hlow => ?_,
    fun front behind c l hrisk hoffer hfree => ?_⟩
  · apply finalScore_summarize_mono hworth
    refine improves_figures_replace front behind (fun hrisk => ?_) (Nat.zero_le _)
    rw [hlow] at hrisk
    cases hrisk
  · apply finalScore_summarize_mono hworth
    exact improves_figures_replace front behind (fun _ h => (h rfl).elim) hfree.le

def tightBudget : Scoring Float := { Scoring.standard with budgetCeiling := 50.0 }

theorem finalScore_mono_into_budget :
    (∀ x ∈ tightBudget.fields, 0 ≤ x ∧ Decimal.isFinite x = true) ∧
      (figures worth tightBudget
        [.priced { churnScore := some 0.8 } .small, .priced default .noOffer]).Improves
          (figures worth tightBudget
            [.priced { churnScore := some 0.8 } .big, .priced default .small]) ∧
      (figures worth tightBudget
        [.priced { churnScore := some 0.8 } .big, .priced default .small]).finalScore = 49 ∧
      49 ≤ (figures worth tightBudget
        [.priced { churnScore := some 0.8 } .small, .priced default .noOffer]).finalScore ∧
      (figures worth tightBudget
        [.priced { churnScore := some 0.8 } .noOffer, .priced default .big]).finalScore ≤
          (figures worth tightBudget
            [.priced { churnScore := some 0.8 } ⟨"CALL"⟩, .priced default .big]).finalScore := by
  have hs : ∀ x ∈ tightBudget.fields, 0 ≤ x ∧ Decimal.isFinite x = true := by
    decide +kernel
  have himproves : (figures worth tightBudget
      [.priced { churnScore := some 0.8 } .small, .priced default .noOffer]).Improves
        (figures worth tightBudget
          [.priced { churnScore := some 0.8 } .big, .priced default .small]) := by
    constructor <;> decide +kernel
  have hscore : (figures worth tightBudget
      [.priced { churnScore := some 0.8 } .big, .priced default .small]).finalScore = 49 := by
    decide +kernel
  obtain ⟨hmono, -, hfree⟩ := finalScore_mono _ hs
  refine ⟨hs, himproves, hscore, hscore.ge.trans (hmono _ _ himproves), ?_⟩
  exact hfree [] _ _ _ (by decide +kernel) (by decide) (by decide)

end Score

end OfferPolicy
