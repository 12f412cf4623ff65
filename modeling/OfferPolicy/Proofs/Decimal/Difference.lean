import OfferPolicy.Proofs.Decimal.Rounding
import OfferPolicy.Proofs.Decimal.Shortest

/-! The difference of two floating point numbers is their exact difference, rounded. So the numbers
that compare as equal are those whose exact difference does not round to the tolerance or more. -/

namespace OfferPolicy.Decimal

open Float.Model (UnpackedFloat)
open Float.Model.UnpackedFloat hiding round normalize isNaN isFinite

def tolerated : Nat := 2 ^ 1022 - 2 ^ 968

section Tolerated

lemma roundEven_mul_lt_iff {d p : Nat} (hpos : 0 < p) (h : d / (2 * p) < 2 ^ 53) :
    roundEven d (2 * p) * (2 * p) < 2 ^ 54 * p ↔ d < 2 ^ 54 * p - p := by
  have hd := Nat.div_add_mod d (2 * p)
  have hlt : d % (2 * p) < 2 * p := Nat.mod_lt d (by omega)
  rcases Nat.lt_or_ge (d / (2 * p)) (2 ^ 53 - 1) with hq | hq
  · have hmantissa : roundEven d (2 * p) ≤ 2 ^ 53 - 1 := by
      rcases roundEven_eq_or d (2 * p) with h | h <;> rw [h] <;> omega
    have hrounded := Nat.mul_le_mul_right (2 * p) hmantissa
    have hquotient := Nat.mul_le_mul_left (2 * p) (by omega : d / (2 * p) ≤ 2 ^ 53 - 2)
    omega
  -- A mantissa of ones is odd, so half a place behind it is rounded up.
  · obtain hq : d / (2 * p) = 2 ^ 53 - 1 := by omega
    rw [hq] at hd
    rw [roundEven, hq]
    by_cases hdown : 2 * (d % (2 * p)) < 2 * p
    · rw [if_pos (by simp [hdown])]
      omega
    · rw [if_neg (by simp [hdown])]
      omega

lemma rounded_lt_iff (d : Nat) : rounded d < 2 ^ 1022 ↔ d < tolerated := by
  have hend : 2 ^ 1022 = 2 ^ 54 * 2 ^ 968 := by decide +kernel
  have hlast : lastPlace d = d.log2 - 52 := rfl
  rw [tolerated, hend]
  rcases lt_trichotomy d.log2 1021 with h | h | h
  · have hd : d < 2 ^ 53 * 2 ^ 968 :=
      calc d < 2 ^ (d.log2 + 1) := Nat.lt_log2_self
        _ ≤ 2 ^ 1021 := Nat.pow_le_pow_right (by decide) h
        _ = 2 ^ 53 * 2 ^ 968 := by decide +kernel
    have hrounded := rounded_le (d := d) (j := 968) (by omega)
    generalize 2 ^ 968 = p at hd hrounded ⊢
    omega
  · have hquotient := quotient_lt d
    have hlast : lastPlace d = 969 := by omega
    have hhalf : 2 ^ 969 = 2 * 2 ^ 968 := by decide +kernel
    have hpos : 0 < 2 ^ 968 := Nat.two_pow_pos 968
    rw [rounded, hlast, hhalf]
    rw [hlast, hhalf] at hquotient
    generalize 2 ^ 968 = p at hpos hquotient ⊢
    exact roundEven_mul_lt_iff hpos hquotient
  · have hd : 2 ^ 54 * 2 ^ 968 ≤ d :=
      calc 2 ^ 54 * 2 ^ 968 = 2 ^ 1022 := by decide +kernel
        _ ≤ 2 ^ d.log2 := Nat.pow_le_pow_right (by decide) h
        _ ≤ d := two_pow_log2_le (by omega)
    have hrounded : 2 ^ 54 * 2 ^ 968 ≤ rounded d :=
      calc 2 ^ 54 * 2 ^ 968 = 2 ^ 52 * 2 ^ 970 := by decide +kernel
        _ ≤ rounded d := le_rounded (by omega) (by omega)
    generalize 2 ^ 968 = p at hd hrounded ⊢
    omega

end Tolerated

section Subtraction

variable {u v : UnpackedFloat} {a b : Int}

lemma natAbs_apply (s : Sign) (n : Nat) : (s.apply n).natAbs = n := by
  cases s
  · exact Int.natAbs_neg n
  · rfl

def Writes (u : UnpackedFloat) (d : Nat) : Prop :=
  ∃ c, Stored (unpack .binary64 (pack .binary64 u)) c ∧ c.natAbs = d

lemma Stored.writes (h : Stored u a) : Writes u a.natAbs := ⟨a, h.unpack_pack.symm ▸ h, rfl⟩

lemma Fitted.writes {s : Sign} {d : Nat} (h : Fitted s d u) :
    Writes u (min d (units infinityPlace)) :=
  ⟨_, h.stored_unpack_pack, natAbs_apply s _⟩

lemma writes_normalize (M : Int) (k : Nat) :
    Writes (UnpackedFloat.normalize .binary64 M (k - 1074) .positive)
      (min (rounded (M.natAbs * 2 ^ k)) (units infinityPlace)) := by
  rw [UnpackedFloat.normalize]
  rcases lt_trichotomy M 0 with h | rfl | h
  · have habs : (-M).toNat = M.natAbs := by omega
    rw [compare_lt_iff_lt.mpr h, ← habs]
    exact (fitted_round (by omega) k).writes
  · rw [Int.natAbs_zero, Nat.zero_mul, rounded_zero, Nat.zero_min]
    exact (Stored.zero .positive).writes
  · have habs : M.toNat = M.natAbs := by omega
    rw [compare_gt_iff_gt.mpr h, ← habs]
    exact (fitted_round (by omega) k).writes

lemma apply_mul (s : Sign) (m n : Nat) : s.apply (m * n : Nat) = s.apply m * n := by
  cases s
  · exact (congrArg Neg.neg (Int.natCast_mul m n)).trans (Int.neg_mul _ _).symm
  · exact Int.natCast_mul m n

lemma writes_sub_finite {s t : Sign} {m n : Nat} (k l : Nat) (hm : 0 < m) (hn : 0 < n) :
    Writes (sub .binary64 (.finite s m (k - 1074) hm) (.finite t n (l - 1074) hn))
      (min (rounded (s.apply (m * 2 ^ k : Nat) - t.apply (n * 2 ^ l : Nat)).natAbs)
        (units infinityPlace)) := by
  have hmin : min ((k : Int) - 1074) (l - 1074) = (min k l : Nat) - 1074 := by omega
  have hk : ((k : Int) - 1074 - ((min k l : Nat) - 1074)).toNat = k - min k l := by omega
  have hl : ((l : Int) - 1074 - ((min k l : Nat) - 1074)).toNat = l - min k l := by omega
  have hscaled (s : Sign) (m : Nat) {k' : Nat} (hk' : min k l ≤ k') :
      s.apply (m * 2 ^ k' : Nat) =
        s.apply (m * 2 ^ (k' - min k l) : Nat) * (2 ^ min k l : Nat) := by
    rw [← apply_mul, Nat.mul_assoc, ← Nat.pow_add, Nat.sub_add_cancel hk']
  have hdifference : (s.apply (m * 2 ^ k : Nat) - t.apply (n * 2 ^ l : Nat)).natAbs =
      (s.apply (m * 2 ^ (k - min k l) : Nat) - t.apply (n * 2 ^ (l - min k l) : Nat)).natAbs *
        2 ^ min k l := by
    rw [hscaled s m (Nat.min_le_left k l), hscaled t n (Nat.min_le_right k l), ← Int.sub_mul,
      Int.natAbs_mul, Int.natAbs_natCast]
  rw [sub, hmin, hdifference]
  simp only [decreaseExponent, hk, hl, Nat.shiftLeft_eq]
  exact writes_normalize _ _

lemma min_rounded_scaled {m k : Nat} (hpos : 0 < m) (hm : Canonical m k) (hk : k ≤ 2045) :
    min (rounded (m * 2 ^ k)) (units infinityPlace) = m * 2 ^ k := by
  rw [rounded_scaled hpos hm, Nat.min_eq_left (scaled_lt_end hm hk).le]

lemma Stored.writes_sub (hu : Stored u a) (hv : Stored v b)
    (ha : a.natAbs < units infinityPlace) (hb : b.natAbs < units infinityPlace) :
    Writes (sub .binary64 u v) (min (rounded (a - b).natAbs) (units infinityPlace)) := by
  cases hu with
  | infinity s =>
    rw [natAbs_apply] at ha
    exact (Nat.lt_irrefl _ ha).elim
  | zero s =>
    cases hv with
    | infinity t =>
      rw [natAbs_apply] at hb
      exact (Nat.lt_irrefl _ hb).elim
    | zero t =>
      rw [Int.sub_zero, Int.natAbs_zero, rounded_zero, Nat.zero_min]
      cases s <;> cases t <;> exact (Stored.zero _).writes
    | @finite t n l hpos hn hl =>
      have hwrites := (Stored.finite (-t) hpos hn hl).writes
      rw [natAbs_apply] at hwrites
      rw [Int.zero_sub, Int.natAbs_neg, natAbs_apply, min_rounded_scaled hpos hn hl]
      exact hwrites
  | @finite s m k hpos hm hk =>
    cases hv with
    | infinity t =>
      rw [natAbs_apply] at hb
      exact (Nat.lt_irrefl _ hb).elim
    | zero t =>
      have hwrites := (Stored.finite s hpos hm hk).writes
      rw [natAbs_apply] at hwrites
      rw [Int.sub_zero, natAbs_apply, min_rounded_scaled hpos hm hk]
      exact hwrites
    | @finite t n l hpos' hn hl => exact writes_sub_finite k l hpos hpos'

lemma Stored.writes_sub_infinity (hu : Stored u a) (hv : Stored v b) (hne : a ≠ b)
    (h : (∃ s, u = .infinity s) ∨ ∃ t, v = .infinity t) :
    Writes (sub .binary64 u v) (units infinityPlace) := by
  have hinfinity (s : Sign) : Writes (.infinity s) (units infinityPlace) := by
    have hwrites := (Stored.infinity s).writes
    rwa [natAbs_apply] at hwrites
  cases hu with
  | infinity s =>
    cases hv with
    | infinity t =>
      cases s <;> cases t
      · exact (hne rfl).elim
      · exact hinfinity .negative
      · exact hinfinity .positive
      · exact (hne rfl).elim
    | zero t => exact hinfinity s
    | finite t => exact hinfinity s
  | zero s =>
    cases hv with
    | infinity t => exact hinfinity (-t)
    | zero t | finite t => simp at h
  | finite s =>
    cases hv with
    | infinity t => exact hinfinity (-t)
    | zero t | finite t => simp at h

lemma add_scaled_le {m d p q : Nat} (hm : m < 2 ^ 53) (hd : d ≤ p) (hq : q ≤ p) :
    q + m * d ≤ 2 ^ 53 * p :=
  calc q + m * d ≤ p + m * p := Nat.add_le_add hq (Nat.mul_le_mul_left m hd)
    _ = (m + 1) * p := by rw [Nat.succ_mul, Nat.add_comm]
    _ ≤ 2 ^ 53 * p := Nat.mul_le_mul_right p hm

lemma le_units_infinityPlace : 2 ^ 1022 ≤ units infinityPlace := by decide +kernel

lemma Stored.infinity_or_le (h : Stored u a) :
    (∃ s, u = .infinity s) ∧ a.natAbs = units infinityPlace ∨
      2 ^ 1022 ≤ units infinityPlace - a.natAbs := by
  cases h with
  | infinity s => exact Or.inl ⟨⟨s, rfl⟩, natAbs_apply s _⟩
  | zero s =>
    right
    rw [Int.natAbs_zero, Nat.sub_zero]
    exact le_units_infinityPlace
  | @finite s m k hpos hm hk =>
    right
    have hend : units infinityPlace = 2 ^ 53 * 2 ^ 2045 := by decide +kernel
    have hexponent := Nat.pow_le_pow_right Nat.two_pos hk
    have hlarge := Nat.pow_le_pow_right Nat.two_pos (by decide : 1022 ≤ 2045)
    have hgap := add_scaled_le hm.lt hexponent hlarge
    rw [natAbs_apply]
    exact Nat.le_sub_of_add_le (hgap.trans_eq hend.symm)

lemma tolerated_le : tolerated ≤ 2 ^ 1022 := by
  rw [tolerated]
  generalize 2 ^ 1022 = p
  exact Nat.sub_le p _

lemma Stored.exists_writes_sub (hu : Stored u a) (hv : Stored v b)
    (h : a ≠ b ∨ a.natAbs < units infinityPlace) :
    ∃ d, Writes (sub .binary64 u v) d ∧ (d < 2 ^ 1022 ↔ (a - b).natAbs < tolerated) := by
  have htolerated := tolerated_le
  have hpos : 0 < 2 ^ 1022 := Nat.two_pow_pos 1022
  have hend := le_units_infinityPlace
  have hfinite : min (rounded (a - b).natAbs) (units infinityPlace) < 2 ^ 1022 ↔
      (a - b).natAbs < tolerated := by
    rw [← rounded_lt_iff, min_lt_iff]
    exact or_iff_left (Nat.not_lt.mpr hend)
  have hu' := hu.infinity_or_le
  have hv' := hv.infinity_or_le
  -- No finite number is so near to an infinity, and what is left of one is infinite.
  have hinfinite (hinf : (∃ s, u = .infinity s) ∨ ∃ t, v = .infinity t) (hne : a ≠ b)
      (hfar : tolerated ≤ (a - b).natAbs) :
      ∃ d, Writes (sub .binary64 u v) d ∧ (d < 2 ^ 1022 ↔ (a - b).natAbs < tolerated) :=
    ⟨_, hu.writes_sub_infinity hv hne hinf,
      iff_of_false (Nat.not_lt.mpr hend) (Nat.not_lt.mpr hfar)⟩
  have hsub := hu.writes_sub hv
  generalize units infinityPlace = e at *
  generalize 2 ^ 1022 = p at *
  rcases hu' with ⟨hinf, ha⟩ | ha
  · exact hinfinite (Or.inl hinf) (by omega) (by omega)
  · rcases hv' with ⟨hinf, hb⟩ | hb
    · exact hinfinite (Or.inr hinf) (by omega) (by omega)
    · exact ⟨_, hsub (by omega) (by omega), hfinite⟩

end Subtraction

lemma Stored.abs {u : UnpackedFloat} {a : Int} (h : Stored u a) :
    Stored (UnpackedFloat.abs u) a.natAbs := by
  cases h with
  | infinity s =>
    rw [natAbs_apply]
    exact .infinity .positive
  | zero s => exact .zero .positive
  | finite s hpos hm hk =>
    rw [natAbs_apply]
    exact .finite .positive hpos hm hk

lemma Stored.eq_apply {s : Sign} {a : Int} (h : Stored (.infinity s) a) :
    a = s.apply (units infinityPlace) := by
  cases h
  rfl

lemma Stored.unpacked_eq {u v : UnpackedFloat} {a : Int} (hu : Stored u a) (hv : Stored v a)
    (h : a.natAbs = units infinityPlace) : u = v := by
  have hpos : 0 < 2 ^ 1022 := Nat.two_pow_pos 1022
  have hend := le_units_infinityPlace
  rcases hu.infinity_or_le with ⟨⟨s, rfl⟩, -⟩ | hgap
  · rcases hv.infinity_or_le with ⟨⟨t, rfl⟩, -⟩ | hgap
    · have hs := hu.eq_apply
      have ht := hv.eq_apply
      generalize units infinityPlace = e at hend hs ht
      cases s <;> cases t <;> first | rfl | (simp only [Sign.apply] at hs ht; omega)
    · omega
  · omega

section

variable {x y : Float}

lemma natAbs_amount (x : Float) : (amount x).natAbs = units (place x) := by
  rw [amount]
  split
  · rw [Int.natAbs_neg, Int.natAbs_natCast]
  · exact Int.natAbs_natCast _

lemma amount_ne_or_lt (hx : x.isNaN = false) (hy : y.isNaN = false)
    (h : isFinite x = true ∨ x ≠ y) :
    amount x ≠ amount y ∨ (amount x).natAbs < units infinityPlace := by
  have hend : units infinityPlace = 2 ^ 53 * 2 ^ 2045 := by decide +kernel
  rcases h with h | h
  · right
    rw [natAbs_amount, hend]
    exact units_lt (of_decide_eq_true h)
  · rw [or_iff_not_imp_right]
    intro hinfinite heq
    have hx' := stored_unpack hx
    have hy' := stored_unpack hy
    rw [← heq] at hy'
    have habs : (amount x).natAbs = units infinityPlace := by
      have hpos : 0 < 2 ^ 1022 := Nat.two_pow_pos 1022
      rcases hx'.infinity_or_le with ⟨-, habs⟩ | hgap
      · exact habs
      · omega
    exact h (eq_of_unpack_eq (hx'.unpacked_eq hy' habs))

lemma exists_stored_abs_sub (hx : x.isNaN = false) (hy : y.isNaN = false)
    (h : isFinite x = true ∨ x ≠ y) :
    ∃ d : Nat, Stored (x - y).abs.toModel.unpack d ∧
      (d < 2 ^ 1022 ↔ (amount x - amount y).natAbs < tolerated) := by
  obtain ⟨d, ⟨c, hc, rfl⟩, hd⟩ :=
    (stored_unpack hx).exists_writes_sub (stored_unpack hy) (amount_ne_or_lt hx hy h)
  refine ⟨c.natAbs, ?_, hd⟩
  have habs := hc.abs
  rw [← habs.unpack_pack] at habs
  exact habs

end

end OfferPolicy.Decimal
