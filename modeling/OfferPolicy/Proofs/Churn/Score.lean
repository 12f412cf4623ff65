import OfferPolicy.Churn.Model
import OfferPolicy.Proofs.Decimal.NotNumber

/-! What is derived of a customer: a tier from the charges, and a score that is a number from 0.01
to 0.99. Noise of any width but an infinite one leaves the score a number, and the bounds do the
rest. -/

namespace OfferPolicy

open Decimal (infinity not_lt_iff)

inductive Segment.Covers : Option Float → Segment → Prop
  | vip {x : Float} : 90.0 ≤ x → Covers (some x) .vip
  | standard {x : Float} : 50.0 ≤ x → x < 90.0 → Covers (some x) .standard
  | other {x : Float} : ¬ 90.0 ≤ x → ¬ (50.0 ≤ x ∧ x < 90.0) → Covers (some x) .other
  | absent : Covers none .other

structure Churn.Enriches (c c' : Customer) : Prop where
  id : c'.id = c.id
  contract : c'.contract = c.contract
  monthlyCharges : c'.monthlyCharges = c.monthlyCharges
  tenure : c'.tenure = c.tenure
  extra : c'.extra = c.extra
  segment : ∃ s, c'.segment = some s ∧ Segment.Covers c.monthlyCharges s
  churnScore : ∃ x, c'.churnScore = some x ∧ x.isNaN = false ∧ 0.01 ≤ x ∧ x ≤ 0.99

lemma Segment.covers_ofCharges (charges : Option Float) :
    Segment.Covers charges (.ofCharges charges) := by
  cases charges with
  | none => exact .absent
  | some x =>
    by_cases hvip : (90.0 : Float) ≤ x
    · simp only [ofCharges, hvip, if_true]
      exact .vip hvip
    · by_cases hstandard : (50.0 : Float) ≤ x
      · have hbelow : x < 90.0 := by
          by_contra h
          exact hvip ((not_lt_iff (Decimal.isNaN_of_le hstandard).2 (by rfl)).mp h)
        simp only [ofCharges, hvip, hstandard, if_true, if_false]
        exact .standard hstandard hbelow
      · simp only [ofCharges, hvip, hstandard, if_false]
        exact .other hvip fun h => hstandard h.1

namespace Churn

namespace Noise

lemma isNaN_value (g : Noise) : g.value.isNaN = false :=
  Decimal.isNaN_float_sub (Decimal.isNaN_ofRatio false _ _) (by rfl)

end Noise

namespace Model

variable {m : Model}

lemma isNaN_noiseOf (h : m.jitter ≠ infinity false) : m.noiseOf.isNaN = false := by
  rw [noiseOf]
  split
  · next hnoisy =>
    exact Decimal.isNaN_float_mul m.noise.isNaN_value (of_decide_eq_true hnoisy) h
  · decide +kernel

lemma contractShare_mem (contract : Option String) (x : Float) :
    contractShare contract x ∈ [x + 0.4, x - 0.3, x] := by
  rw [contractShare]
  split
  · exact List.mem_cons_self ..
  · split
    · exact List.mem_cons_of_mem _ (List.mem_cons_self ..)
    · exact List.mem_cons_of_mem _ (List.mem_cons_of_mem _ (List.mem_singleton_self _))

lemma isFinite_baseScore (c : Customer) : (baseScore c).toModel.unpack.isFinite = true := by
  have hshares : ∀ x ∈ [(0.3 : Float) + 0.4, 0.3 - 0.3, 0.3],
      x.toModel.unpack.isFinite = true ∧ (x - 0.2).toModel.unpack.isFinite = true := by
    decide +kernel
  obtain ⟨hkept, hless⟩ := hshares _ (contractShare_mem c.contract 0.3)
  rw [baseScore]
  cases c.tenure with
  | none => exact hkept
  | some t =>
    rw [tenureShare]
    split
    · exact hless
    · exact hkept

lemma clamp_bounds {x : Float} (h : x.isNaN = false) :
    (clamp x).isNaN = false ∧ 0.01 ≤ clamp x ∧ clamp x ≤ 0.99 := by
  have hends : (0.01 : Float) ≤ 0.99 := by decide +kernel
  by_cases hlow : x < 0.01
  · have hhigh : ¬ (0.99 : Float) < 0.01 := by decide +kernel
    simp only [clamp, hlow, hhigh, if_true, if_false]
    exact ⟨by decide +kernel, by decide +kernel, hends⟩
  · by_cases hhigh : (0.99 : Float) < x
    · simp only [clamp, hlow, hhigh, if_true, if_false]
      exact ⟨by decide +kernel, hends, by decide +kernel⟩
    · simp only [clamp, hlow, hhigh, if_false]
      exact ⟨h, (not_lt_iff h (by decide +kernel)).mp hlow,
        (not_lt_iff (by decide +kernel) h).mp hhigh⟩

lemma scoreOf_bounds (h : m.jitter ≠ infinity false) (c : Customer) :
    (m.scoreOf c).isNaN = false ∧ 0.01 ≤ m.scoreOf c ∧ m.scoreOf c ≤ 0.99 :=
  clamp_bounds (Decimal.isNaN_float_add (isFinite_baseScore c) (isNaN_noiseOf h))

lemma enriches_enrich (h : m.jitter ≠ infinity false) (c : Customer) : Enriches c (m.enrich c) where
  id := rfl
  contract := rfl
  monthlyCharges := rfl
  tenure := rfl
  extra := rfl
  segment := ⟨_, rfl, Segment.covers_ofCharges c.monthlyCharges⟩
  churnScore := ⟨_, rfl, scoreOf_bounds h c⟩

lemma jitter_advance (m : Model) : m.advance.jitter = m.jitter := by
  rw [advance]
  split <;> rfl

lemma forall₂_enrichAll (h : m.jitter ≠ infinity false) (cs : List Customer) :
    List.Forall₂ Enriches cs (m.enrichAll cs).1 := by
  induction cs generalizing m with
  | nil => exact .nil
  | cons c cs ih =>
    have htail := ih (m := m.advance) (by rwa [jitter_advance])
    exact .cons (enriches_enrich h c) htail

lemma isNoisy_withJitter {jitter : Float} (h : jitter ≤ 0.0 ∨ jitter.isNaN = true) (m : Model) :
    (m.withJitter jitter).isNoisy = false := by
  have hwidth : ¬ 0.0 < jitter := by
    intro hlt
    obtain ⟨hzero, hjitter⟩ := Decimal.isNaN_of_lt hlt
    rcases h with h | h
    · exact (not_lt_iff hzero hjitter).mpr h hlt
    · rw [hjitter] at h
      cases h
  rw [withJitter, if_neg hwidth]
  change decide ((0.0 : Float) < 0.0) = false
  decide +kernel

lemma enrichAll_eq_map (h : m.isNoisy = false) (cs : List Customer) :
    (m.enrichAll cs).1 = cs.map fun c =>
      { c with segment := some (.ofCharges c.monthlyCharges)
               churnScore := some (clamp (baseScore c + 0.0)) } := by
  have hadvance : m.advance = m := by
    rw [advance, h]
    rfl
  have hnoise : m.noiseOf = 0.0 := by
    rw [noiseOf, h]
    rfl
  induction cs with
  | nil => rfl
  | cons c cs ih =>
    rw [List.map_cons, ← ih, enrichAll, runAll, hadvance, enrich, scoreOf, hnoise]
    rfl

lemma jitter_withJitter (m : Model) {jitter : Float} (h : jitter ≠ infinity false) :
    (m.withJitter jitter).jitter ≠ infinity false := by
  rw [withJitter]
  split
  · exact h
  · change (0.0 : Float) ≠ infinity false
    decide +kernel

end Model

end Churn

end OfferPolicy
