import OfferPolicy.Proofs.Decimal.Nearest
import OfferPolicy.Proofs.Decimal.NotNumber
import OfferPolicy.Proofs.Decimal.Whole

/-! What a floating point number is worth, counted in the smallest positive one. Numbers are stored
with the least exponent their mantissa has room for, and so they are ordered by what they are worth,
infinities standing where the finite numbers end. -/

namespace OfferPolicy.Decimal

open Float.Model (Format UnpackedFloat)
open Float.Model.UnpackedFloat hiding round normalize isNaN isFinite

def amount (x : Float) : Int :=
  if isNegative x then -units (place x) else units (place x)

structure Canonical (m k : Nat) : Prop where
  lt : m < 2 ^ 53
  lead : 2 ^ 52 ≤ m ∨ k = 0

inductive Stored : UnpackedFloat → Int → Prop
  | infinity (s : Sign) : Stored (.infinity s) (s.apply (units infinityPlace))
  | zero (s : Sign) : Stored (.zero s) 0
  | finite (s : Sign) {m k : Nat} (hpos : 0 < m) : Canonical m k → k ≤ 2045 →
      Stored (.finite s m (k - 1074) hpos) (s.apply (m * 2 ^ k : Nat))

section Unpack

variable {b : BitVec Format.binary64.numBits}

lemma ofBitVec_unpackSign :
    Sign.ofBitVec (unpackSign b) = if 2 ^ 63 ≤ b.toNat then .negative else .positive := by
  have hlt : b.toNat < 2 ^ 64 := b.isLt
  have hsign : (unpackSign b).toNat = b.toNat / 2 ^ 63 % 2 := by
    simp [unpackSign, Nat.shiftRight_eq_div_pow]
  have hzero : unpackSign b = 0#1 ↔ ¬ 2 ^ 63 ≤ b.toNat := by
    rw [← BitVec.toNat_inj, hsign]
    change _ = 0 ↔ _
    omega
  rw [Sign.ofBitVec]
  split
  · next h => rw [if_neg (hzero.mp h)]
  · next h => rw [if_pos (not_not.mp (mt hzero.mpr h))]

lemma place_of_ones (he : unpackExponent b = -1#11) (hm : unpackMantissa b = 0#52) :
    b.toNat % 2 ^ 63 = infinityPlace := by
  have he' := toNat_unpackExponent b
  have hm' := toNat_unpackMantissa b
  rw [he] at he'
  rw [hm] at hm'
  change 2047 = _ at he'
  change 0 = _ at hm'
  rw [infinityPlace]
  omega

lemma units_of_zeros (he : (unpackExponent b).toNat = 0) :
    units (b.toNat % 2 ^ 63) = (unpackMantissa b).toNat := by
  have he' := toNat_unpackExponent b
  have hm' := toNat_unpackMantissa b
  rw [units_of_lt (by omega)]
  omega

lemma units_of_exponent (he : (unpackExponent b).toNat ≠ 0) :
    units (b.toNat % 2 ^ 63) =
      (1#1 ++ unpackMantissa b).toNat * 2 ^ ((unpackExponent b).toNat - 1) := by
  have he' := toNat_unpackExponent b
  have hm' := toNat_unpackMantissa b
  rw [units_of_le (by omega), toNat_leading]
  congr 1
  · omega
  · congr 1
    omega

lemma stored_of_eq {s : Sign} {m k n : Nat} {e : Int} (hpos : 0 < m) (hm : Canonical m k)
    (hk : k ≤ 2045) (he : e = k - 1074) (hn : n = m * 2 ^ k) :
    Stored (.finite s m e hpos) (s.apply n) := by
  subst he hn
  exact .finite s hpos hm hk

lemma stored_unpack_bits (h : (unpack .binary64 b).isNaN = false) :
    Stored (unpack .binary64 b)
      ((Sign.ofBitVec (unpackSign b)).apply (units (b.toNat % 2 ^ 63))) := by
  have hm : (unpackMantissa b).toNat < 2 ^ 52 := (unpackMantissa b).isLt
  have he : (unpackExponent b).toNat < 2 ^ 11 := (unpackExponent b).isLt
  have hexponent : ((unpackExponent b).toNat : Int) -
      (Format.binary64.exponentBias + Format.binary64.mantissaBitsWithoutImplicit) =
        (unpackExponent b).toNat - 1075 := rfl
  by_cases hones : unpackExponent b = -1#11
  · by_cases hzero : unpackMantissa b = 0#52
    · rw [unpack, if_pos hones, if_pos hzero, place_of_ones hones hzero]
      exact .infinity _
    · rw [unpack, if_pos hones, if_neg hzero] at h
      cases h
  · have hlast : (unpackExponent b).toNat ≠ 2047 := fun heq => hones (BitVec.eq_of_toNat_eq heq)
    rw [unpack, if_neg hones, hexponent]
    split
    · next hzeros =>
      have hfirst : (unpackExponent b).toNat = 0 := congrArg BitVec.toNat hzeros
      rw [units_of_zeros hfirst, hfirst]
      split
      · next hzero =>
        rw [hzero]
        cases Sign.ofBitVec (unpackSign b) <;> exact .zero _
      · exact stored_of_eq (k := 0) _ ⟨by omega, Or.inr rfl⟩ (Nat.zero_le _) rfl
          (Nat.mul_one _).symm
    · next hzeros =>
      have hfirst : (unpackExponent b).toNat ≠ 0 := fun heq => hzeros (BitVec.eq_of_toNat_eq heq)
      have hlead := toNat_leading (unpackMantissa b)
      exact stored_of_eq _ ⟨by omega, Or.inl (by omega)⟩ (by omega) (by omega)
        (units_of_exponent hfirst)

end Unpack

lemma stored_unpack {x : Float} (h : x.isNaN = false) : Stored x.toModel.unpack (amount x) := by
  have hstored := stored_unpack_bits (b := x.toModel.toBits.toBitVec) h
  have hamount : amount x =
      (Sign.ofBitVec (@unpackSign .binary64 x.toModel.toBits.toBitVec)).apply
        (units (place x)) := by
    rw [ofBitVec_unpackSign, amount, isNegative]
    change (if decide (2 ^ 63 ≤ x.toBits.toNat) = true then _ else _) =
      (if 2 ^ 63 ≤ x.toBits.toNat then Sign.negative else Sign.positive).apply (units (place x))
    by_cases hsign : 2 ^ 63 ≤ x.toBits.toNat
    · rw [if_pos (decide_eq_true hsign), if_pos hsign]
      rfl
    · rw [if_neg (by rwa [decide_eq_true_iff]), if_neg hsign]
      rfl
  rw [hamount]
  exact hstored

section Scaled

variable {m n k l : Nat}

lemma scaled_lt_scaled (hm : m < 2 ^ 53) (hn : 2 ^ 52 ≤ n) (h : k < l) : m * 2 ^ k < n * 2 ^ l :=
  calc m * 2 ^ k < 2 ^ 53 * 2 ^ k := Nat.mul_lt_mul_of_pos_right hm (Nat.two_pow_pos k)
    _ = 2 ^ 52 * 2 ^ (k + 1) := by
      rw [← Nat.pow_add, ← Nat.pow_add, Nat.add_comm k, ← Nat.add_assoc]
    _ ≤ n * 2 ^ l := Nat.mul_le_mul hn (Nat.pow_le_pow_right (by decide) h)

lemma compare_scaled (hm : Canonical m k) (hn : Canonical n l) :
    (compare (k - 1074 : Int) (l - 1074)).then (compare m n) =
      compare ((m * 2 ^ k : Nat) : Int) (n * 2 ^ l : Nat) := by
  rcases lt_trichotomy k l with h | rfl | h
  · have hscaled := scaled_lt_scaled hm.lt (hn.lead.resolve_right (by omega)) h
    rw [compare_lt_iff_lt.mpr (by omega : (k - 1074 : Int) < l - 1074),
      compare_lt_iff_lt.mpr (Int.ofNat_lt.mpr hscaled)]
    rfl
  · have hmantissas : compare ((m * 2 ^ k : Nat) : Int) (n * 2 ^ k : Nat) = compare m n := by
      rcases lt_trichotomy m n with h | rfl | h
      · have hscaled := Nat.mul_lt_mul_of_pos_right h (Nat.two_pow_pos k)
        rw [compare_lt_iff_lt.mpr h, compare_lt_iff_lt.mpr (Int.ofNat_lt.mpr hscaled)]
      · rw [compare_eq_iff_eq.mpr rfl, compare_eq_iff_eq.mpr rfl]
      · have hscaled := Nat.mul_lt_mul_of_pos_right h (Nat.two_pow_pos k)
        rw [compare_gt_iff_gt.mpr h, compare_gt_iff_gt.mpr (Int.ofNat_lt.mpr hscaled)]
    rw [hmantissas, compare_eq_iff_eq.mpr rfl, Ordering.eq_then]
  · have hscaled := scaled_lt_scaled hn.lt (hm.lead.resolve_right (by omega)) h
    rw [compare_gt_iff_gt.mpr (by omega : (k - 1074 : Int) > l - 1074),
      compare_gt_iff_gt.mpr (Int.ofNat_lt.mpr hscaled)]
    rfl

end Scaled

lemma compare_neg_neg (a b : Int) : compare (-a) (-b) = (compare a b).swap := by
  rcases lt_trichotomy a b with h | rfl | h
  · rw [compare_lt_iff_lt.mpr h, compare_gt_iff_gt.mpr (Int.neg_lt_neg h)]
    rfl
  · rw [compare_eq_iff_eq.mpr rfl, compare_eq_iff_eq.mpr rfl]
    rfl
  · rw [compare_gt_iff_gt.mpr h, compare_lt_iff_lt.mpr (Int.neg_lt_neg h)]
    rfl

section Compare

variable {u v : UnpackedFloat} {a b : Int}

lemma some_eq_compare_of_lt (h : a < b) : some Ordering.lt = some (compare a b) :=
  congrArg some (compare_lt_iff_lt.mpr h).symm

lemma some_eq_compare_of_gt (h : b < a) : some Ordering.gt = some (compare a b) :=
  congrArg some (compare_gt_iff_gt.mpr h).symm

lemma scaled_lt_end {m k : Nat} (hm : Canonical m k) (hk : k ≤ 2045) :
    m * 2 ^ k < units infinityPlace :=
  calc m * 2 ^ k < 2 ^ 53 * 2 ^ k := Nat.mul_lt_mul_of_pos_right hm.lt (Nat.two_pow_pos k)
    _ ≤ 2 ^ 53 * 2 ^ 2045 := Nat.mul_le_mul_left _ (Nat.pow_le_pow_right (by decide) hk)
    _ = units infinityPlace := by decide +kernel

lemma Stored.compare_eq (hu : Stored u a) (hv : Stored v b) : u.compare v = some (compare a b) := by
  have hend : 0 < units infinityPlace := units_pos (by decide)
  cases hu with
  | infinity s =>
    cases hv with
    | infinity t =>
      cases s <;> cases t <;>
        first
        | exact some_eq_compare_of_lt (by simp only [Sign.apply]; omega)
        | exact some_eq_compare_of_gt (by simp only [Sign.apply]; omega)
        | exact congrArg some (compare_eq_iff_eq.mpr rfl).symm
    | zero t =>
      cases s
      · exact some_eq_compare_of_lt (by simp only [Sign.apply]; omega)
      · exact some_eq_compare_of_gt (by simp only [Sign.apply]; omega)
    | @finite t n l hpos hn hl =>
      have hlt := scaled_lt_end hn hl
      generalize n * 2 ^ l = d at hlt ⊢
      cases s
      · exact some_eq_compare_of_lt (by cases t <;> simp only [Sign.apply] <;> omega)
      · exact some_eq_compare_of_gt (by cases t <;> simp only [Sign.apply] <;> omega)
  | zero s =>
    cases hv with
    | infinity t =>
      cases t
      · exact some_eq_compare_of_gt (by simp only [Sign.apply]; omega)
      · exact some_eq_compare_of_lt (by simp only [Sign.apply]; omega)
    | zero t => rfl
    | @finite t n l hpos hn hl =>
      have hscaled : 0 < n * 2 ^ l := Nat.mul_pos hpos (Nat.two_pow_pos l)
      cases t
      · exact some_eq_compare_of_gt (by simp only [Sign.apply]; omega)
      · exact some_eq_compare_of_lt (by simp only [Sign.apply]; omega)
  | @finite s m k hpos hm hk =>
    have hscaled : 0 < m * 2 ^ k := Nat.mul_pos hpos (Nat.two_pow_pos k)
    have hlt := scaled_lt_end hm hk
    cases hv with
    | infinity t =>
      generalize m * 2 ^ k = d at hlt ⊢
      cases t
      · exact some_eq_compare_of_gt (by cases s <;> simp only [Sign.apply] <;> omega)
      · exact some_eq_compare_of_lt (by cases s <;> simp only [Sign.apply] <;> omega)
    | zero t =>
      cases s
      · exact some_eq_compare_of_lt (by simp only [Sign.apply]; omega)
      · exact some_eq_compare_of_gt (by simp only [Sign.apply]; omega)
    | @finite t n l hpos' hn hl =>
      have hcompare := compare_scaled hm hn
      have hscaled' : 0 < n * 2 ^ l := Nat.mul_pos hpos' (Nat.two_pow_pos l)
      cases s <;> cases t
      · exact congrArg some (by rw [hcompare, ← compare_neg_neg]; rfl)
      · exact some_eq_compare_of_lt (by simp only [Sign.apply]; omega)
      · exact some_eq_compare_of_gt (by simp only [Sign.apply]; omega)
      · exact congrArg some hcompare

end Compare

section

variable {x y : Float} (hx : x.isNaN = false) (hy : y.isNaN = false)

include hx hy

lemma lt_iff_amount : x < y ↔ amount x < amount y := by
  rw [lt_iff, (stored_unpack hx).compare_eq (stored_unpack hy), Option.some_inj,
    compare_lt_iff_lt]

lemma le_iff_amount : x ≤ y ↔ amount x ≤ amount y := by
  rw [← not_lt_iff hy hx, lt_iff_amount hy hx, not_lt]

end

lemma le_of_le_of_le {x y z : Float} (hxy : x ≤ y) (hyz : y ≤ z) : x ≤ z := by
  obtain ⟨hx, hy⟩ := isNaN_of_le hxy
  obtain ⟨-, hz⟩ := isNaN_of_le hyz
  rw [le_iff_amount hx hy] at hxy
  rw [le_iff_amount hy hz] at hyz
  exact (le_iff_amount hx hz).mpr (hxy.trans hyz)

section Pack

variable {s : Sign} {m k : Nat}

lemma unpack_pack_subnormal (hpos : 0 < m) (hm : m < 2 ^ 52) :
    unpack .binary64 (pack .binary64 (.finite s m (-1074) hpos)) = .finite s m (-1074) hpos := by
  have hbits : m.log2 + 1 ≠ Format.binary64.mantissaBits := by
    have hlog := (Nat.log2_lt hpos.ne').mpr hm
    change m.log2 + 1 ≠ 53
    omega
  have hfinite : ¬ 2 ^ Format.binary64.exponentBits ≤ (-1074 + Format.binary64.exponentBias +
      Format.binary64.mantissaBitsWithoutImplicit : Int).toNat + 1 := by decide
  have hmantissa : (BitVec.ofNat 52 m).toNat = m := by
    rw [BitVec.toNat_ofNat, Nat.mod_eq_of_lt hm]
  have hne : BitVec.ofNat 52 m ≠ 0#52 := by
    intro hzero
    rw [hzero] at hmantissa
    exact hpos.ne hmantissa
  rw [pack, if_neg hfinite, if_neg hbits, unpack]
  simp only [unpackMantissa_packComponents, unpackExponent_packComponents,
    unpackSign_packComponents, Sign.ofBitVec_toBitVec]
  rw [if_neg (by decide), if_pos trivial, dif_neg hne]
  congr 1

lemma unpack_pack_infinity (s : Sign) :
    unpack .binary64 (pack .binary64 (.infinity s)) = .infinity s := by
  cases s <;> rfl

lemma pack_overflow (hpos : 0 < m) (hk : 2046 ≤ k) :
    pack .binary64 (.finite s m (k - 1074) hpos) = pack .binary64 (.infinity s) := by
  have hlarge : 2 ^ Format.binary64.exponentBits ≤ ((k : Int) - 1074 +
      Format.binary64.exponentBias + Format.binary64.mantissaBitsWithoutImplicit).toNat + 1 := by
    change 2048 ≤ ((k : Int) - 1074 + 1023 + 52).toNat + 1
    omega
  exact if_pos hlarge

lemma unpack_pack_finite (hpos : 0 < m) (hm : Canonical m k) (hk : k ≤ 2045) :
    unpack .binary64 (pack .binary64 (.finite s m (k - 1074) hpos)) =
      .finite s m (k - 1074) hpos := by
  rcases Nat.lt_or_ge m (2 ^ 52) with hlt | hge
  · obtain rfl : k = 0 := hm.lead.resolve_left (Nat.not_le.mpr hlt)
    exact unpack_pack_subnormal hpos hlt
  · have hlog : m.log2 = 52 := (Nat.log2_eq_iff hpos.ne').mpr ⟨hge, hm.lt⟩
    exact unpack_pack_normal hpos hlog (by omega) (by omega)

lemma Stored.unpack_pack {u : UnpackedFloat} {a : Int} (h : Stored u a) :
    unpack .binary64 (pack .binary64 u) = u := by
  cases h with
  | infinity s => exact unpack_pack_infinity s
  | zero s => exact unpack_packedZero
  | finite s hpos hm hk => exact unpack_pack_finite hpos hm hk

end Pack

section Worth

def worth (x : Float) : Rat := amount x / 2 ^ 1074

lemma worth_nonneg {x : Float} (h : 0 ≤ x) : 0 ≤ worth x := by
  obtain ⟨hzero, hx⟩ := isNaN_of_le h
  have hle : amount 0 ≤ amount x := (le_iff_amount hzero hx).mp h
  exact div_nonneg (Int.cast_nonneg hle) (pow_nonneg zero_le_two _)

lemma Stored.eq_of_finite {s : Sign} {m : Nat} {e a : Int} {hpos : 0 < m}
    (h : Stored (.finite s m e hpos) a) :
    ∃ k : Nat, e = k - 1074 ∧ a = s.apply (m * 2 ^ k : Nat) := by
  cases h
  exact ⟨_, rfl, rfl⟩

-- with the exponent as a variable nothing computes the power
lemma Stored.eq_of_whole {n : Nat} {a : Int} (h : n < 2 ^ 53) (hstored : Stored (whole n) a) :
    ∃ k : Nat, k = 1074 ∧ a = (n * 2 ^ k : Nat) := by
  rcases Nat.eq_zero_or_pos n with rfl | hpos
  · cases hstored
    have hzero : ∀ k : Nat, (0 : Int) = (0 * 2 ^ k : Nat) := fun k => by rw [Nat.zero_mul]; rfl
    exact ⟨1074, rfl, hzero 1074⟩
  · rw [whole_of_pos hpos] at hstored
    obtain ⟨k, hk, ha⟩ := hstored.eq_of_finite
    have hlog := log2_le h
    refine ⟨52 - n.log2 + k, by omega, ?_⟩
    rw [ha, Nat.mul_assoc, ← Nat.pow_add]
    rfl

lemma worth_ofNat {n : Nat} (h : n < 2 ^ 53) : worth (Float.ofNat n) = n := by
  have hunpack : (Float.ofNat n).toModel.unpack = whole n := by
    rw [ofNat_eq h, unpack_ofModel_pack, unpack_pack_whole h]
  have hnumber : (whole n).isNaN = false := by
    rw [whole]
    split <;> rfl
  have hnumber' : (Float.ofNat n).isNaN = false := by
    change (Float.ofNat n).toModel.unpack.isNaN = false
    rw [hunpack, hnumber]
  have hstored := stored_unpack hnumber'
  rw [hunpack] at hstored
  obtain ⟨k, hk, hamount⟩ := hstored.eq_of_whole h
  rw [worth, ← hk, hamount, Int.cast_natCast, Nat.cast_mul, Nat.cast_pow, Nat.cast_ofNat]
  exact mul_div_cancel_right₀ _ (pow_ne_zero _ two_ne_zero)

lemma worth_negZero : worth (-0.0) = 0 := by decide +kernel

end Worth

end OfferPolicy.Decimal
