import OfferPolicy.Condition.Eval
import OfferPolicy.Proofs.Decimal.Difference

/-! The six operators on numbers. The orders are those of the exact numbers, and equality is
tolerant: it holds of numbers whose distance does not round to the tolerance or more, and so also
where one of the orders holds. -/

namespace OfferPolicy

open Decimal (amount tolerated)

lemma stored_tolerance : Decimal.Stored tolerance.toModel.unpack (2 ^ 1022 : Nat) := by
  have hstored := Decimal.stored_unpack (x := tolerance) (by decide +kernel)
  have hamount : amount tolerance = (2 ^ 1022 : Nat) := by decide +kernel
  rwa [hamount] at hstored

namespace Operator

variable {x n : Float} (hx : x.isNaN = false) (hn : n.isNaN = false)

include hx hn

lemma compareNumbers_lt_iff : lt.compareNumbers x n = true ↔ amount x < amount n :=
  decide_eq_true_iff.trans (Decimal.lt_iff_amount hx hn)

lemma compareNumbers_le_iff : le.compareNumbers x n = true ↔ amount x ≤ amount n :=
  decide_eq_true_iff.trans (Decimal.le_iff_amount hx hn)

lemma compareNumbers_gt_iff : gt.compareNumbers x n = true ↔ amount n < amount x :=
  decide_eq_true_iff.trans (Decimal.lt_iff_amount hn hx)

lemma compareNumbers_ge_iff : ge.compareNumbers x n = true ↔ amount n ≤ amount x :=
  decide_eq_true_iff.trans (Decimal.le_iff_amount hn hx)

lemma compareNumbers_eq_iff (h : Decimal.isFinite x = true ∨ x ≠ n) :
    eq.compareNumbers x n = true ↔ (amount x - amount n).natAbs < tolerated := by
  obtain ⟨d, hstored, hd⟩ := Decimal.exists_stored_abs_sub hx hn h
  have hlt := hstored.compare_eq stored_tolerance
  change decide ((x - n).abs < tolerance) = true ↔ _
  rw [decide_eq_true_iff, Decimal.lt_iff, hlt, Option.some_inj, compare_lt_iff_lt, ← hd,
    Int.ofNat_lt]

end Operator

def ExactlyOne (p q r : Prop) : Prop := p ∧ ¬ q ∧ ¬ r ∨ ¬ p ∧ q ∧ ¬ r ∨ ¬ p ∧ ¬ q ∧ r

instance {p q r : Prop} [Decidable p] [Decidable q] [Decidable r] : Decidable (ExactlyOne p q r) :=
  inferInstanceAs (Decidable (_ ∨ _))

namespace Operator

structure Tolerant (x n : Float) (holds : Operator → Bool) : Prop where
  eq : holds .eq = true ↔ (amount x - amount n).natAbs < tolerated
  covered : holds .lt = true ∨ holds .eq = true ∨ holds .gt = true
  exclusive : amount x = amount n ∨ tolerated ≤ (amount x - amount n).natAbs →
    ExactlyOne (holds .lt = true) (holds .eq = true) (holds .gt = true)

structure Coherent (x n : Float) (holds : Operator → Bool) : Prop where
  lt : holds .lt = true ↔ amount x < amount n
  gt : holds .gt = true ↔ amount n < amount x
  order : ExactlyOne (holds .lt = true) (amount x = amount n) (holds .gt = true)
  le : holds .le = true ↔ holds .lt = true ∨ amount x = amount n
  ge : holds .ge = true ↔ holds .gt = true ∨ amount x = amount n
  ne : holds .ne = !holds .eq
  tolerant : Decimal.isFinite x = true ∨ x ≠ n → Tolerant x n holds
  exact : Decimal.isFinite x = true → amount x = amount n → holds .eq = true

lemma tolerated_pos : 0 < tolerated := by decide +kernel

variable {x n : Float}

lemma tolerant_compareNumbers (hx : x.isNaN = false) (hn : n.isNaN = false)
    (h : Decimal.isFinite x = true ∨ x ≠ n) : Tolerant x n (compareNumbers x n) := by
  have hpos := tolerated_pos
  have heq := compareNumbers_eq_iff hx hn h
  refine ⟨heq, ?_, fun hapart => ?_⟩
  · rw [compareNumbers_lt_iff hx hn, heq, compareNumbers_gt_iff hx hn]
    omega
  · rw [ExactlyOne, compareNumbers_lt_iff hx hn, heq, compareNumbers_gt_iff hx hn]
    omega

lemma coherent_compareNumbers (hx : x.isNaN = false) (hn : n.isNaN = false) :
    Coherent x n (compareNumbers x n) := by
  have hlt := compareNumbers_lt_iff hx hn
  have hgt := compareNumbers_gt_iff hx hn
  refine ⟨hlt, hgt, ?_, ?_, ?_, rfl, tolerant_compareNumbers hx hn, fun hfinite hsame => ?_⟩
  · rw [ExactlyOne, hlt, hgt]
    omega
  · rw [compareNumbers_le_iff hx hn, hlt]
    exact le_iff_lt_or_eq
  · rw [compareNumbers_ge_iff hx hn, hgt, eq_comm]
    exact le_iff_lt_or_eq
  · rw [compareNumbers_eq_iff hx hn (Or.inl hfinite), hsame, Int.sub_self, Int.natAbs_zero]
    exact tolerated_pos

end Operator

/-- Of a numeric field and a number, the orders are exact and equality is tolerant: numbers are
equal that are nearer than `2 ^ (-52)` less half the gap below it. -/
theorem Comparison.coherent_number {f : Field} (hf : f.isText = false) {c : Customer} {x n : Float}
    (hvalue : f.value c = .number x) (hx : x.isNaN = false) (hn : n.isNaN = false) :
    Operator.Coherent x n fun op => Comparison.holds ⟨f, op, .number n, hf⟩ c := by
  have hholds : (fun op => Comparison.holds ⟨f, op, .number n, hf⟩ c) =
      fun op => Operator.compareNumbers x n op := by
    funext op
    rw [holds, hvalue]
    rfl
  rw [hholds]
  exact Operator.coherent_compareNumbers hx hn

theorem Comparison.coherent_number_tenure :
    Comparison.holds ⟨.tenure, .eq, .number 12, rfl⟩ { tenure := some 12 } = true ∧
      ExactlyOne
        (Comparison.holds ⟨.churnScore, .lt, .number 0.5, rfl⟩ { churnScore := some 0.25 })
        (Comparison.holds ⟨.churnScore, .eq, .number 0.5, rfl⟩ { churnScore := some 0.25 })
        (Comparison.holds ⟨.churnScore, .gt, .number 0.5, rfl⟩ { churnScore := some 0.25 }) := by
  have hnumber : (12 : Float).isNaN = false := by decide +kernel
  have htenure := coherent_number (f := .tenure) (c := { tenure := some 12 }) rfl rfl
    hnumber hnumber
  have hexact := htenure.exact (by decide +kernel) rfl
  have hscore := coherent_number (f := .churnScore) (c := { churnScore := some 0.25 }) (n := 0.5)
    rfl rfl (by decide +kernel) (by decide +kernel)
  have hapart := (hscore.tolerant (Or.inl (by decide +kernel))).exclusive
    (Or.inr (by decide +kernel))
  exact ⟨hexact, hapart⟩

theorem Comparison.equal_and_greater :
    ¬ ExactlyOne
        (Comparison.holds ⟨.churnScore, .lt, .number 0.3, rfl⟩
          { churnScore := some 0.30000000000000004 })
        (Comparison.holds ⟨.churnScore, .eq, .number 0.3, rfl⟩
          { churnScore := some 0.30000000000000004 })
        (Comparison.holds ⟨.churnScore, .gt, .number 0.3, rfl⟩
          { churnScore := some 0.30000000000000004 }) ∧
      ¬ ExactlyOne
        (Comparison.holds ⟨.tenure, .lt, .number (Decimal.infinity false), rfl⟩
          { tenure := some (Decimal.infinity false) })
        (Comparison.holds ⟨.tenure, .eq, .number (Decimal.infinity false), rfl⟩
          { tenure := some (Decimal.infinity false) })
        (Comparison.holds ⟨.tenure, .gt, .number (Decimal.infinity false), rfl⟩
          { tenure := some (Decimal.infinity false) }) := by
  decide +kernel

end OfferPolicy
