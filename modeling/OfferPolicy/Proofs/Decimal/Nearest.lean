import Mathlib.Tactic.Common
import OfferPolicy.Decimal.Scientific

namespace OfferPolicy.Decimal

lemma roundEven_scale (num den k : Nat) (hk : 0 < k) :
    roundEven (num * k) (den * k) = roundEven num den := by
  have hm : num * k % (den * k) = num % den * k := Nat.mul_mod_mul_right k num den
  have hd : num * k / (den * k) = num / den := Nat.mul_div_mul_right num den hk
  have hlt : 2 * (num % den * k) < den * k ↔ 2 * (num % den) < den := by
    rw [← Nat.mul_assoc]
    exact Nat.mul_lt_mul_right hk
  have heq : 2 * (num % den * k) = den * k ↔ 2 * (num % den) = den := by
    rw [← Nat.mul_assoc]
    exact Nat.mul_left_inj (Nat.ne_of_gt hk)
  simp only [roundEven, hm, hd, hlt, Bool.beq_eq_decide_eq, heq]

lemma nearestPlace_scale (num den k : Nat) (hk : 0 < k) :
    nearestPlace (num * k) (den * k) = nearestPlace num den := by
  have hn : num * k * 2 ^ 1074 = num * 2 ^ 1074 * k := Nat.mul_right_comm ..
  have hd (step : Nat) : den * k * 2 ^ step = den * 2 ^ step * k := Nat.mul_right_comm ..
  simp only [nearestPlace, hn, hd, Nat.mul_div_mul_right _ _ hk, roundEven_scale _ _ _ hk]

lemma units_of_le {p : Nat} (h : 2 ^ 52 ≤ p) :
    units p = (p % 2 ^ 52 + 2 ^ 52) * 2 ^ (p / 2 ^ 52 - 1) := by
  rw [units, if_neg (Nat.not_lt.mpr h)]

lemma log2_units {p : Nat} (h : 2 ^ 52 ≤ p) : (units p).log2 = 52 + (p / 2 ^ 52 - 1) := by
  have hpos := units_pos (Nat.lt_of_lt_of_le (by decide : 0 < 2 ^ 52) h)
  have hm : p % 2 ^ 52 < 2 ^ 52 := Nat.mod_lt _ (by decide)
  rw [Nat.log2_eq_iff (Nat.ne_of_gt hpos), units_of_le h]
  constructor
  · rw [Nat.pow_add]
    exact Nat.mul_le_mul_right _ (Nat.le_add_left ..)
  · rw [Nat.add_right_comm, Nat.pow_add]
    exact Nat.mul_lt_mul_of_pos_right (by omega) (Nat.two_pow_pos _)

lemma nearestPlace_units {p : Nat} (h : p ≤ infinityPlace) :
    nearestPlace (units p) (2 ^ 1074) = p := by
  have hpos : 0 < 2 ^ 1074 := Nat.two_pow_pos 1074
  have hdiv : units p * 2 ^ 1074 / 2 ^ 1074 = units p := Nat.mul_div_cancel _ hpos
  rw [nearestPlace]
  simp only [hdiv]
  clear hdiv
  generalize 2 ^ 1074 = d at hpos ⊢
  by_cases hp : p < 2 ^ 52
  · have hu : units p = p := units_of_lt (Nat.lt_trans hp (by decide))
    have hs : p.log2 - 52 = 0 := by
      by_cases h0 : p = 0
      · rw [h0]
        rfl
      · have := (Nat.log2_lt h0).mpr hp
        omega
    rw [hu, hs, Nat.pow_zero, Nat.mul_one, roundEven_mul p hpos]
    omega
  · have hle := Nat.le_of_not_lt hp
    have hs : (units p).log2 - 52 = p / 2 ^ 52 - 1 := by
      rw [log2_units hle]
      omega
    have hr : roundEven (units p * d) (d * 2 ^ (p / 2 ^ 52 - 1)) = p % 2 ^ 52 + 2 ^ 52 := by
      rw [units_of_le hle, Nat.mul_assoc, Nat.mul_comm (2 ^ (p / 2 ^ 52 - 1))]
      exact roundEven_mul _ (Nat.mul_pos hpos (Nat.two_pow_pos _))
    have hq : 1 ≤ p / 2 ^ 52 := (Nat.one_le_div_iff (by decide)).mpr hle
    rw [hs, hr]
    omega

namespace Scientific

def nearest (digits : Nat) : Int → Nat
  | .ofNat e => nearestPlace (digits * 10 ^ e) 1
  | .negSucc e => nearestPlace digits (10 ^ (e + 1))

lemma nearest_eq (digits : Nat) (exponent : Int) (n : Nat) (h : 0 ≤ exponent + n) :
    nearest digits exponent = nearestPlace (digits * 10 ^ (exponent + n).toNat) (10 ^ n) := by
  cases exponent with
  | ofNat e =>
    have he : ((e : Int) + n).toNat = e + n := by omega
    have hs := nearestPlace_scale (digits * 10 ^ e) 1 (10 ^ n) (Nat.pow_pos (by decide))
    rw [Int.ofNat_eq_natCast, he, Nat.pow_add, ← Nat.mul_assoc]
    rw [Nat.one_mul] at hs
    exact hs.symm
  | negSucc e =>
    obtain ⟨m, rfl⟩ : ∃ m, n = e + 1 + m := ⟨n - (e + 1), by omega⟩
    have he : (Int.negSucc e + (e + 1 + m : Nat)).toNat = m := by omega
    have hs := nearestPlace_scale digits (10 ^ (e + 1)) (10 ^ m) (Nat.pow_pos (by decide))
    rw [he, Nat.pow_add]
    exact hs.symm

end Scientific

end OfferPolicy.Decimal
