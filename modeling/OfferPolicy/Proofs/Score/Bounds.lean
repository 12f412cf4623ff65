import OfferPolicy.Proofs.Score.Exact
import OfferPolicy.Proofs.Simulation

/-! The bounds of the figures of a batch. Coverage is a share, safety does not pass its points, a
batch within the budget pays no penalty and one beyond it earns nothing for efficiency. So no batch
scores more than all points together. -/

namespace OfferPolicy

namespace Score

open Decimal (worth)

def Scoring.fields {α : Type} (s : Scoring α) : List α :=
  [s.highRiskThreshold, s.coverageTarget, s.safetyPoints, s.budgetCeiling, s.efficiencyBase,
    s.efficiencyPoints, s.penaltyRate]

structure Kpi.Bounded (k : Kpi Rat) (s : Scoring Rat) : Prop where
  covered_le : k.covered ≤ k.highRisk
  highRisk_le : k.highRisk ≤ k.rows
  coverage_nonneg : 0 ≤ k.coverage
  coverage_le : k.coverage ≤ 1
  coverage_of_none : k.highRisk = 0 → k.coverage = 0
  highRisk_mul_coverage : k.highRisk * k.coverage = k.covered
  coverage_eq_one : k.coverage = 1 ↔ k.covered = k.highRisk ∧ 0 < k.highRisk
  avgCost_nonneg : 0 ≤ k.avgCost
  avgCost_le : k.avgCost ≤ 50
  rows_mul_avgCost : k.rows * k.avgCost = k.totalCost
  safety_nonneg : 0 ≤ k.safetyScore
  safety_le : k.safetyScore ≤ s.safetyPoints
  safety_of_target : s.coverageTarget ≤ k.coverage → k.safetyScore = s.safetyPoints
  safety_below_target : k.coverage ≤ s.coverageTarget →
    s.coverageTarget * k.safetyScore = k.coverage * s.safetyPoints
  within_budget : k.totalCost ≤ s.budgetCeiling → k.penalty = 0 ∧
    s.efficiencyBase ≤ k.efficiencyScore ∧
      k.efficiencyScore ≤ s.efficiencyBase + s.efficiencyPoints
  points_for_rest : k.totalCost ≤ s.budgetCeiling →
    s.budgetCeiling * (k.efficiencyScore - s.efficiencyBase) =
      s.efficiencyPoints * (s.budgetCeiling - k.totalCost)
  beyond_budget : s.budgetCeiling < k.totalCost → k.efficiencyScore = 0 ∧
    k.penalty = (k.totalCost - s.budgetCeiling) * s.penaltyRate
  finalScore_eq : (k.finalScore : Int) =
    min (maxCount : Int) (max 0 (roundAway (k.safetyScore + k.efficiencyScore - k.penalty)))
  finalScore_le : (k.finalScore : Int) ≤
    roundAway (s.safetyPoints + s.efficiencyBase + s.efficiencyPoints)

structure Kpi.Rounded (k : Kpi Float) : Prop where
  finalScore_eq : (k.finalScore : Int) = rounded (k.safetyScore + k.efficiencyScore - k.penalty)
  coveragePercent_eq : (k.coveragePercent : Int) = rounded (k.coverage * 100)

section Share

variable {x b : Rat} {whole : Nat}

lemma share_zero (x : Rat) : share x 0 = 0 := by
  rw [share_eq, Nat.cast_zero, div_zero]

lemma share_nonneg (h : 0 ≤ x) : 0 ≤ share x whole := by
  rw [share_eq]
  exact div_nonneg h (Nat.cast_nonneg whole)

lemma share_le (hb : 0 ≤ b) (h : x ≤ whole * b) : share x whole ≤ b := by
  rw [share_eq]
  exact div_le_of_le_mul₀ (Nat.cast_nonneg whole) hb (by rwa [mul_comm])

lemma mul_share (h : whole = 0 → x = 0) : whole * share x whole = x := by
  rw [share_eq]
  rcases Nat.eq_zero_or_pos whole with hzero | hpos
  · rw [h hzero, zero_div, mul_zero]
  · exact mul_div_cancel₀ x (Nat.cast_ne_zero.mpr hpos.ne')

lemma share_eq_one_iff (part whole : Nat) :
    share (part : Rat) whole = 1 ↔ part = whole ∧ 0 < whole := by
  rw [share_eq]
  rcases Nat.eq_zero_or_pos whole with rfl | hpos
  · rw [Nat.cast_zero, div_zero]
    exact iff_of_false zero_ne_one fun h => Nat.lt_irrefl 0 h.2
  · rw [div_eq_one_iff_eq (Nat.cast_ne_zero.mpr hpos.ne'), Nat.cast_inj, and_iff_left hpos]

end Share

section Formulas

variable {s : Scoring Rat} {x : Rat}

lemma safetyScore_le (s : Scoring Rat) (x : Rat) : safetyScore s x ≤ s.safetyPoints := by
  rw [safetyScore_eq]
  split
  · exact le_rfl
  · exact min_le_right _ _

lemma safetyScore_nonneg (hpoints : 0 ≤ s.safetyPoints) (hx : 0 ≤ x) : 0 ≤ safetyScore s x := by
  rw [safetyScore_eq]
  split
  · exact hpoints
  · next htarget =>
    have hshare : 0 ≤ x / s.coverageTarget := div_nonneg hx (not_le.mp htarget).le
    exact le_min (mul_nonneg hshare hpoints) hpoints

lemma safetyScore_of_target (hpoints : 0 ≤ s.safetyPoints) (h : s.coverageTarget ≤ x) :
    safetyScore s x = s.safetyPoints := by
  rw [safetyScore_eq]
  split
  · rfl
  · next htarget =>
    have hshare : 1 ≤ x / s.coverageTarget := (one_le_div₀ (not_le.mp htarget)).mpr h
    exact min_eq_right (le_mul_of_one_le_left hpoints hshare)

lemma mul_safetyScore (htarget : 0 ≤ s.coverageTarget) (hpoints : 0 ≤ s.safetyPoints)
    (hx : 0 ≤ x) (h : x ≤ s.coverageTarget) :
    s.coverageTarget * safetyScore s x = x * s.safetyPoints := by
  rw [safetyScore_eq]
  split
  · next hzero =>
    rw [le_antisymm hzero htarget, le_antisymm (h.trans hzero) hx]
  · next hpos =>
    have hshare : x / s.coverageTarget ≤ 1 := (div_le_one₀ (not_le.mp hpos)).mpr h
    rw [min_eq_left (mul_le_of_le_one_left hpoints hshare), ← mul_assoc,
      mul_div_cancel₀ x (not_le.mp hpos).ne']

lemma usedBudget_nonneg (hx : 0 ≤ x) : 0 ≤ usedBudget s x := by
  rw [usedBudget_eq]
  split
  · next hpos => exact div_nonneg hx hpos.le
  · exact le_rfl

lemma usedBudget_le_one (h : x ≤ s.budgetCeiling) : usedBudget s x ≤ 1 := by
  rw [usedBudget_eq]
  split
  · next hpos => exact (div_le_one₀ hpos).mpr h
  · exact zero_le_one

lemma mul_usedBudget (hx : 0 ≤ x) (h : x ≤ s.budgetCeiling) :
    s.budgetCeiling * usedBudget s x = x := by
  rw [usedBudget_eq]
  split
  · next hpos => exact mul_div_cancel₀ x hpos.ne'
  · next hzero => rw [mul_zero, le_antisymm (h.trans (not_lt.mp hzero)) hx]

lemma le_efficiencyScore (hpoints : 0 ≤ s.efficiencyPoints) (h : x ≤ s.budgetCeiling) :
    s.efficiencyBase ≤ efficiencyScore s x := by
  rw [efficiencyScore_eq, if_neg h.not_gt]
  exact le_add_of_nonneg_right (mul_nonneg hpoints (sub_nonneg.mpr (usedBudget_le_one h)))

lemma efficiencyScore_le (hpoints : 0 ≤ s.efficiencyPoints) (hx : 0 ≤ x)
    (h : x ≤ s.budgetCeiling) : efficiencyScore s x ≤ s.efficiencyBase + s.efficiencyPoints := by
  have hused : 1 - usedBudget s x ≤ 1 := sub_le_self 1 (usedBudget_nonneg hx)
  rw [efficiencyScore_eq, if_neg h.not_gt]
  exact add_le_add_right (mul_le_of_le_one_right hpoints hused) _

lemma mul_efficiencyScore (hx : 0 ≤ x) (h : x ≤ s.budgetCeiling) :
    s.budgetCeiling * (efficiencyScore s x - s.efficiencyBase) =
      s.efficiencyPoints * (s.budgetCeiling - x) := by
  rw [efficiencyScore_eq, if_neg h.not_gt, add_sub_cancel_left, mul_left_comm, mul_sub, mul_one,
    mul_usedBudget hx h]

lemma efficiencyScore_beyond (h : s.budgetCeiling < x) : efficiencyScore s x = 0 := by
  rw [efficiencyScore_eq, if_pos h]

lemma penalty_within (hrate : 0 ≤ s.penaltyRate) (h : x ≤ s.budgetCeiling) : penalty s x = 0 := by
  rw [penalty_eq]
  exact max_eq_right (mul_nonpos_of_nonpos_of_nonneg (sub_nonpos.mpr h) hrate)

lemma penalty_beyond (hrate : 0 ≤ s.penaltyRate) (h : s.budgetCeiling < x) :
    penalty s x = (x - s.budgetCeiling) * s.penaltyRate := by
  rw [penalty_eq]
  exact max_eq_left (mul_nonneg (sub_nonneg.mpr h.le) hrate)

lemma efficiencyScore_sub_penalty_le (hbase : 0 ≤ s.efficiencyBase)
    (hpoints : 0 ≤ s.efficiencyPoints) (hrate : 0 ≤ s.penaltyRate) (hx : 0 ≤ x) :
    efficiencyScore s x - penalty s x ≤ s.efficiencyBase + s.efficiencyPoints := by
  rcases le_or_gt x s.budgetCeiling with h | h
  · rw [penalty_within hrate h, sub_zero]
    exact efficiencyScore_le hpoints hx h
  · rw [efficiencyScore_beyond h, penalty_beyond hrate h, zero_sub]
    have hlost : 0 ≤ (x - s.budgetCeiling) * s.penaltyRate :=
      mul_nonneg (sub_nonneg.mpr h.le) hrate
    linarith

end Formulas

section Summary

variable {s : Scoring Rat} {ts : List (Tally Rat)}

lemma forall_fields {p : Rat → Prop} (h : ∀ x ∈ s.fields, p x) :
    p s.highRiskThreshold ∧ p s.coverageTarget ∧ p s.safetyPoints ∧ p s.budgetCeiling ∧
      p s.efficiencyBase ∧ p s.efficiencyPoints ∧ p s.penaltyRate := by
  simpa [Scoring.fields] using h

lemma totalCost_eq (ts : List (Tally Rat)) : totalCost ts = (ts.map Tally.cost).sum :=
  scalar_sum_eq _

lemma totalCost_nonneg (h : ∀ t ∈ ts, 0 ≤ t.cost) : 0 ≤ totalCost ts := by
  rw [totalCost_eq]
  exact List.sum_nonneg (List.forall_mem_map.mpr h)

lemma totalCost_le {b : Rat} (h : ∀ t ∈ ts, t.cost ≤ b) : totalCost ts ≤ ts.length * b := by
  have hsum := List.sum_le_card_nsmul (ts.map Tally.cost) b (List.forall_mem_map.mpr h)
  rwa [List.length_map, nsmul_eq_mul, ← totalCost_eq] at hsum

lemma finalScore_summarize_le (hs : ∀ x ∈ s.fields, 0 ≤ x) (hts : ∀ t ∈ ts, 0 ≤ t.cost) :
    ((summarize s ts).finalScore : Int) ≤
      roundAway (s.safetyPoints + s.efficiencyBase + s.efficiencyPoints) := by
  obtain ⟨-, -, hsafety, -, hbase, hpoints, hrate⟩ := forall_fields hs
  have hcost := totalCost_nonneg hts
  have hall : 0 ≤ s.safetyPoints + s.efficiencyBase + s.efficiencyPoints := by linarith
  apply toCount_le_roundAway hall
  have hcovered := safetyScore_le s (share (Scalar.ofNat (covered ts)) (highRisk ts))
  have hspent := efficiencyScore_sub_penalty_le hbase hpoints hrate hcost
  linarith

lemma bounded_summarize (hs : ∀ x ∈ s.fields, 0 ≤ x) (hts : ∀ t ∈ ts, 0 ≤ t.cost ∧ t.cost ≤ 50) :
    (summarize s ts).Bounded s := by
  obtain ⟨-, htarget, hsafety, -, hbase, hpoints, hrate⟩ := forall_fields hs
  have hcost := totalCost_nonneg fun t ht => (hts t ht).1
  have hcost' := totalCost_le fun t ht => (hts t ht).2
  have hcovered := covered_le_highRisk ts
  have hcoverage : 0 ≤ share (covered ts : Rat) (highRisk ts) := share_nonneg (Nat.cast_nonneg _)
  exact
    { covered_le := hcovered
      highRisk_le := highRisk_le_length ts
      coverage_nonneg := hcoverage
      coverage_le := share_le zero_le_one (by rw [mul_one]; exact Nat.cast_le.mpr hcovered)
      coverage_of_none := fun h => (congrArg (share _) h).trans (share_zero _)
      highRisk_mul_coverage := mul_share fun h =>
        Nat.cast_eq_zero.mpr (Nat.eq_zero_of_le_zero (hcovered.trans_eq h))
      coverage_eq_one := share_eq_one_iff _ _
      avgCost_nonneg := share_nonneg hcost
      avgCost_le := share_le (by decide) hcost'
      rows_mul_avgCost := mul_share fun h => by
        rw [List.length_eq_zero_iff.mp h]
        rfl
      safety_nonneg := safetyScore_nonneg hsafety hcoverage
      safety_le := safetyScore_le s _
      safety_of_target := safetyScore_of_target hsafety
      safety_below_target := mul_safetyScore htarget hsafety hcoverage
      within_budget := fun h => ⟨penalty_within hrate h, le_efficiencyScore hpoints h,
        efficiencyScore_le hpoints hcost h⟩
      points_for_rest := mul_efficiencyScore hcost
      beyond_budget := fun h => ⟨efficiencyScore_beyond h, penalty_beyond hrate h⟩
      finalScore_eq := toCount_eq _
      finalScore_le := finalScore_summarize_le hs fun t ht => (hts t ht).1 }

end Summary

def figures {α : Type} [Scalar α] (f : Float → α) (s : Scoring Float) (os : List Outcome) : Kpi α :=
  summarize (s.map f) (os.map fun o => (Tally.ofOutcome s.highRiskThreshold o).map f)

section Batch

variable {s : Scoring Float} {os : List Outcome}

lemma rounded_ofOutcomes (s : Scoring Float) (os : List Outcome) : (ofOutcomes s os).Rounded :=
  ⟨toCount_eq_rounded _, toCount_eq_rounded _⟩

lemma figures_number (s : Scoring Float) (os : List Outcome) :
    figures (fun x => Checked.number (worth x)) s os =
      (figures worth s os).map Checked.number := by
  rw [figures, figures, ← Checked.summarize_number, List.map_map]
  rfl

lemma worth_cost {o : Outcome} (h : o.cost = Float.ofNat o.offer.price) :
    worth o.cost = o.offer.price := by
  rw [h]
  exact Decimal.worth_ofNat (Nat.lt_of_le_of_lt o.offer.price_le (by decide))

lemma totalCost_figures (h : ∀ o ∈ os, o.cost = Float.ofNat o.offer.price) :
    (figures worth s os).totalCost = Label.prices (os.map Outcome.offer) := by
  have hcosts : (os.map fun o => (Tally.ofOutcome s.highRiskThreshold o).map worth).map
      Tally.cost = ((os.map Outcome.offer).map Label.price).map Nat.cast := by
    rw [List.map_map, List.map_map, List.map_map]
    exact List.map_congr_left fun o ho => worth_cost (h o ho)
  rw [Label.prices, Nat.cast_list_sum, ← hcosts]
  exact totalCost_eq _

lemma bounded_figures (hs : ∀ x ∈ s.fields, 0 ≤ x)
    (hos : ∀ o ∈ os, o.cost = Float.ofNat o.offer.price) :
    (figures worth s os).Bounded (s.map worth) := by
  apply bounded_summarize
  · exact List.forall_mem_map.mpr fun x hx => Decimal.worth_nonneg (hs x hx)
  · refine List.forall_mem_map.mpr fun o ho => ?_
    change 0 ≤ worth o.cost ∧ worth o.cost ≤ 50
    rw [worth_cost (hos o ho)]
    exact ⟨Nat.cast_nonneg _, Nat.cast_le_ofNat.mpr o.offer.price_le⟩

/-- Computed without rounding, the figures of a batch keep to their bounds, and none of them
divides by zero. The same formulas over floating point numbers are the figures that are shown. -/
theorem figures_sound (s : Scoring Float) (os : List Outcome)
    (hs : ∀ x ∈ s.fields, 0 ≤ x ∧ Decimal.isFinite x = true)
    (hos : ∀ o ∈ os, o.cost = Float.ofNat o.offer.price) :
    (figures worth s os).Bounded (s.map worth) ∧
      (figures worth s os).rows = os.length ∧
      (figures worth s os).highRisk =
        os.countP (fun o => o.customer.isHighRisk s.highRiskThreshold) ∧
      (figures worth s os).covered =
        os.countP (fun o => o.customer.isHighRisk s.highRiskThreshold && o.offer ≠ .noOffer) ∧
      (figures worth s os).totalCost = Label.prices (os.map Outcome.offer) ∧
      figures (fun x => Checked.number (worth x)) s os =
        (figures worth s os).map Checked.number ∧
      figures id s os = ofOutcomes s os ∧
      (ofOutcomes s os).Rounded :=
  ⟨bounded_figures (fun x hx => (hs x hx).1) hos, List.length_map _, List.countP_map,
    List.countP_map, totalCost_figures hos, figures_number s os, rfl, rounded_ofOutcomes s os⟩

theorem figures_sound_all_spent :
    (∀ x ∈ ({ Scoring.standard with budgetCeiling := 60.0 } : Scoring Float).fields,
        0 ≤ x ∧ Decimal.isFinite x = true) ∧
      (∀ o ∈ [Outcome.priced { churnScore := some 0.7 } .big, Outcome.priced default .small],
        o.cost = Float.ofNat o.offer.price) ∧
      (figures worth { Scoring.standard with budgetCeiling := 60.0 }
        [.priced { churnScore := some 0.7 } .big, .priced default .small]).penalty = 0 := by
  have hs : ∀ x ∈ ({ Scoring.standard with budgetCeiling := 60.0 } : Scoring Float).fields,
      0 ≤ x ∧ Decimal.isFinite x = true := by
    decide +kernel
  have hos : ∀ o ∈ [Outcome.priced { churnScore := some 0.7 } .big, Outcome.priced default .small],
      o.cost = Float.ofNat o.offer.price := by
    simp [Outcome.priced]
  obtain ⟨hbounded, -, -, -, htotal, -⟩ := figures_sound _ _ hs hos
  have hceiling : worth 60.0 = 60 := by decide +kernel
  refine ⟨hs, hos, (hbounded.within_budget ?_).1⟩
  exact htotal.trans_le hceiling.ge

end Batch

end Score

end OfferPolicy
