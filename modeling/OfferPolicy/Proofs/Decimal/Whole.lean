import Mathlib
import OfferPolicy.Decimal.Binary64

namespace OfferPolicy.Decimal

open Float.Model (Format UnpackedFloat totalExponent)
open Float.Model.UnpackedFloat hiding round normalize

lemma log2_mul_two_pow {n : Nat} (hpos : 0 < n) (k : Nat) : (n * 2 ^ k).log2 = n.log2 + k := by
  induction k with
  | zero => simp
  | succ k ih =>
    have hne : n * 2 ^ k ≠ 0 := (Nat.mul_pos hpos (Nat.two_pow_pos k)).ne'
    rw [Nat.pow_succ, ← Nat.mul_assoc, Nat.mul_comm _ 2, Nat.log2_two_mul hne, ih, Nat.add_assoc]

lemma targetExponent_eq {m : Nat} {e : Int} (he : -1022 ≤ m.log2 + e) :
    Format.binary64.targetExponent (totalExponent m e) = m.log2 + e - 52 := by
  simp only [Format.targetExponent, totalExponent, Format.mantissaBits, Format.minExponent]
  omega

section Normal

variable {s : Sign} {m : Nat} {e : Int}

lemma shift_zeros (m k : Nat) :
    ExtendedMantissa.mk (m * 2 ^ k) false false >>> k = ⟨m, false, false⟩ := by
  induction k generalizing m with
  | zero =>
    rw [Nat.pow_zero, Nat.mul_one]
    rfl
  | succ k ih =>
    have hstep : ExtendedMantissa.mk (m * 2 ^ (k + 1)) false false >>> (k + 1) =
        (ExtendedMantissa.mk (m * 2 ^ (k + 1)) false false >>> k).shiftRightOne := rfl
    rw [hstep, Nat.pow_succ', ← Nat.mul_assoc, ih]
    simp [ExtendedMantissa.shiftRightOne]

lemma shiftToTargetExponent_scaled (hpos : 0 < m) (hlog : m.log2 = 52) (he : -1074 ≤ e) (k : Nat) :
    shiftToTargetExponent .binary64 (m * 2 ^ k) (e - k) .exact = (⟨m, false, false⟩, e) := by
  have hscaled := log2_mul_two_pow hpos k
  have htarget : Format.binary64.targetExponent (totalExponent (m * 2 ^ k) (e - k)) = e := by
    rw [targetExponent_eq (by omega)]
    omega
  have hamount : (e - (e - k)).toNat = k := by omega
  rw [shiftToTargetExponent, htarget, shiftToExponent, hamount]
  simp only [ExtendedMantissa.ofMantissaAndAccuracy, shift_zeros]
  rw [Int.sub_add_cancel]

lemma roundWithAccuracy_scaled (hpos : 0 < m) (hlog : m.log2 = 52) (he : -1074 ≤ e) (k : Nat) :
    roundWithAccuracy .binary64 s (m * 2 ^ k) (e - k) .exact = .finite s m e hpos := by
  have hagain := shiftToTargetExponent_scaled hpos hlog he 0
  rw [Nat.pow_zero, Nat.mul_one, Nat.cast_zero, Int.sub_zero] at hagain
  rw [roundWithAccuracy, shiftToTargetExponent_scaled hpos hlog he k]
  simp [ExtendedMantissa.roundedMantissa, ExtendedMantissa.accuracy,
    Accuracy.roundToNearestEven, hagain, hpos.ne']

lemma toNat_leading (m : BitVec 52) : (1#1 ++ m).toNat = 2 ^ 52 + m.toNat := by
  rw [BitVec.toNat_append, ← Nat.shiftLeft_add_eq_or_of_lt m.isLt, Nat.shiftLeft_eq]
  rfl

lemma toNat_leading_append (hpos : 0 < m) (hlog : m.log2 = 52) :
    (1#1 ++ BitVec.ofNat 52 m).toNat = m := by
  obtain ⟨hlow, hhigh⟩ := (Nat.log2_eq_iff hpos.ne').mp hlog
  rw [toNat_leading, BitVec.toNat_ofNat]
  omega

lemma unpack_pack_normal (hpos : 0 < m) (hlog : m.log2 = 52) (he : -1074 ≤ e) (he' : e ≤ 971) :
    unpack .binary64 (pack .binary64 (.finite s m e hpos)) = .finite s m e hpos := by
  have hbits : m.log2 + 1 = Format.binary64.mantissaBits := by
    rw [hlog]
    rfl
  have hbiased : e + Format.binary64.exponentBias + Format.binary64.mantissaBitsWithoutImplicit =
      e + 1075 := by
    change e + 1023 + 52 = e + 1075
    omega
  have hfinite : ¬ 2 ^ Format.binary64.exponentBits ≤ (e + 1075).toNat + 1 := by
    change ¬ 2048 ≤ (e + 1075).toNat + 1
    omega
  have hstored : (BitVec.ofNat 11 (e + 1075).toNat).toNat = (e + 1075).toNat := by
    rw [BitVec.toNat_ofNat]
    omega
  have hne : ∀ v : BitVec 11, (e + 1075).toNat ≠ v.toNat →
      BitVec.ofNat 11 (e + 1075).toNat ≠ v := by
    rintro v hv rfl
    exact hv hstored.symm
  have hones : BitVec.ofNat 11 (e + 1075).toNat ≠ -1#11 := by
    apply hne
    change (e + 1075).toNat ≠ 2047
    omega
  have hzeros : BitVec.ofNat 11 (e + 1075).toNat ≠ 0#11 := by
    apply hne
    change (e + 1075).toNat ≠ 0
    omega
  have hexponent : ((e + 1075).toNat : Int) - (Format.binary64.exponentBias + 52) = e := by
    change ((e + 1075).toNat : Int) - (1023 + 52) = e
    omega
  rw [pack, hbiased, if_neg hfinite, if_pos hbits, unpack]
  simp only [unpackMantissa_packComponents, unpackExponent_packComponents,
    unpackSign_packComponents, Sign.ofBitVec_toBitVec]
  rw [if_neg hones, if_neg hzeros]
  simp only [toNat_leading_append hpos hlog, hstored]
  congr 1

end Normal

def whole (n : Nat) : UnpackedFloat :=
  if h : 0 < n then
    .finite .positive (n * 2 ^ (52 - n.log2)) (n.log2 - 52) (Nat.mul_pos h (Nat.two_pow_pos _))
  else .zero .positive

section Whole

variable {a b n : Nat}

lemma whole_zero : whole 0 = .zero .positive := rfl

lemma whole_of_pos (h : 0 < n) :
    whole n = .finite .positive (n * 2 ^ (52 - n.log2)) (n.log2 - 52)
      (Nat.mul_pos h (Nat.two_pow_pos _)) :=
  dif_pos h

lemma log2_le (h : n < 2 ^ 53) : n.log2 ≤ 52 := by
  by_cases hn : n = 0
  · rw [hn]
    decide
  · have hlt := (Nat.log2_lt hn).mpr h
    omega

lemma log2_mantissa (hpos : 0 < n) (h : n < 2 ^ 53) : (n * 2 ^ (52 - n.log2)).log2 = 52 := by
  rw [log2_mul_two_pow hpos, Nat.add_sub_cancel' (log2_le h)]

lemma unpack_pack_whole (h : n < 2 ^ 53) :
    unpack .binary64 (pack .binary64 (whole n)) = whole n := by
  have hlog := log2_le h
  rcases Nat.eq_zero_or_pos n with rfl | hpos
  · exact unpack_packedZero
  · rw [whole_of_pos hpos]
    exact unpack_pack_normal _ (log2_mantissa hpos h) (by omega) (by omega)

lemma round_scaled (hpos : 0 < n) (h : n < 2 ^ 53) (k : Nat) :
    UnpackedFloat.round .binary64 .positive (n * 2 ^ k) (-k) = whole n := by
  have hlog := log2_le h
  have hscaled := log2_mul_two_pow hpos k
  have htarget : Format.binary64.targetExponent (totalExponent (n * 2 ^ k) (-k)) =
      n.log2 - 52 := by
    rw [targetExponent_eq (by omega)]
    omega
  have hround := roundWithAccuracy_scaled (s := .positive) (e := n.log2 - 52)
    (Nat.mul_pos hpos (Nat.two_pow_pos _)) (log2_mantissa hpos h) (by omega)
  rw [UnpackedFloat.round, htarget, decreaseExponent, whole_of_pos hpos]
  rcases Nat.le_total k (52 - n.log2) with hk | hk
  · have hamount : (-(k : Int) - (n.log2 - 52)).toNat = 52 - n.log2 - k := by omega
    have hexponent : -(k : Int) - (52 - n.log2 - k : Nat) = n.log2 - 52 - (0 : Nat) := by omega
    have hmantissa : (n * 2 ^ k) <<< (52 - n.log2 - k) = n * 2 ^ (52 - n.log2) * 2 ^ 0 := by
      rw [Nat.shiftLeft_eq, Nat.mul_assoc, ← Nat.pow_add, Nat.add_sub_cancel' hk, Nat.pow_zero,
        Nat.mul_one]
    rw [hamount]
    simp only [hexponent, hmantissa]
    exact hround 0
  · have hamount : (-(k : Int) - (n.log2 - 52)).toNat = 0 := by omega
    have hexponent : -(k : Int) - (0 : Nat) = n.log2 - 52 - (k - (52 - n.log2) : Nat) := by omega
    have hmantissa : (n * 2 ^ k) <<< 0 =
        n * 2 ^ (52 - n.log2) * 2 ^ (k - (52 - n.log2)) := by
      rw [Nat.shiftLeft_zero, Nat.mul_assoc, ← Nat.pow_add, Nat.add_sub_cancel' hk]
    rw [hamount]
    simp only [hexponent, hmantissa]
    exact hround _

lemma normalize_scaled (hpos : 0 < n) (h : n < 2 ^ 53) (k : Nat) :
    UnpackedFloat.normalize .binary64 ((n * 2 ^ k : Nat) : Int) (-k) .positive = whole n := by
  have hgt : compare ((n * 2 ^ k : Nat) : Int) 0 = .gt :=
    Int.compare_eq_gt.mpr (Int.natCast_pos.mpr (Nat.mul_pos hpos (Nat.two_pow_pos k)))
  rw [UnpackedFloat.normalize, hgt]
  exact round_scaled hpos h k

lemma decreaseExponent_mantissa (h : n < 2 ^ 53) {k : Nat} (hk : k ≤ n.log2) :
    (decreaseExponent (n * 2 ^ (52 - n.log2)) (n.log2 - 52) (k - 52)).1 = n * 2 ^ (52 - k) := by
  have hlog := log2_le h
  have hamount : ((n.log2 : Int) - 52 - (k - 52)).toNat = n.log2 - k := by omega
  have hsum : 52 - n.log2 + (n.log2 - k) = 52 - k := by omega
  rw [decreaseExponent, hamount]
  simp only [Nat.shiftLeft_eq]
  rw [Nat.mul_assoc, ← Nat.pow_add, hsum]

lemma add_whole (h : a + b < 2 ^ 53) : add .binary64 (whole a) (whole b) = whole (a + b) := by
  rcases Nat.eq_zero_or_pos a with rfl | ha
  · rw [Nat.zero_add, whole_zero]
    rcases Nat.eq_zero_or_pos b with rfl | hb
    · rfl
    · rw [whole_of_pos hb]
      rfl
  rcases Nat.eq_zero_or_pos b with rfl | hb
  · rw [Nat.add_zero, whole_of_pos ha]
    rfl
  have ha' : a < 2 ^ 53 := Nat.lt_of_le_of_lt (Nat.le_add_right a b) h
  have hb' : b < 2 ^ 53 := Nat.lt_of_le_of_lt (Nat.le_add_left b a) h
  have hlog := log2_le ha'
  have hmin : min ((a.log2 : Int) - 52) (b.log2 - 52) = (min a.log2 b.log2 : Nat) - 52 := by omega
  have hexponent : ((min a.log2 b.log2 : Nat) : Int) - 52 = -(52 - min a.log2 b.log2 : Nat) := by
    omega
  rw [whole_of_pos ha, whole_of_pos hb, add, hmin]
  simp only [decreaseExponent_mantissa ha' (Nat.min_le_left a.log2 b.log2),
    decreaseExponent_mantissa hb' (Nat.min_le_right a.log2 b.log2)]
  have hsum : Sign.positive.apply (a * 2 ^ (52 - min a.log2 b.log2) : Nat) +
      Sign.positive.apply (b * 2 ^ (52 - min a.log2 b.log2) : Nat) =
      ((a + b) * 2 ^ (52 - min a.log2 b.log2) : Nat) := by
    rw [Nat.add_mul]
    rfl
  rw [hsum, hexponent]
  exact normalize_scaled (Nat.add_pos_left ha b) h _

lemma unpack_ofModel_pack (x : UnpackedFloat) :
    (Float.ofModel (.pack x)).toModel.unpack = unpack .binary64 (pack .binary64 x) := rfl

lemma toFloat_toUInt64 (h : n < 2 ^ 53) : n.toUInt64.toFloat = .ofModel (.pack (whole n)) := by
  have hword : n.toUInt64.toNat = n := UInt64.toNat_ofNat_of_lt' (Nat.lt_trans h (by decide))
  have hround :
      UnpackedFloat.normalize .binary64 (n.toUInt64.toNat : Int) 0 .positive = whole n := by
    rw [hword]
    rcases Nat.eq_zero_or_pos n with rfl | hpos
    · rfl
    · have hscaled := normalize_scaled hpos h 0
      rwa [Nat.pow_zero, Nat.mul_one] at hscaled
  exact congrArg (fun x => Float.ofModel (.pack x)) hround

lemma mul_one_whole (h : n < 2 ^ 53) :
    mul .binary64 (whole n) (.finite .positive (2 ^ 52) (-52) (by decide)) = whole n := by
  have hlog := log2_le h
  rcases Nat.eq_zero_or_pos n with rfl | hpos
  · rfl
  · rw [whole_of_pos hpos]
    exact roundWithAccuracy_scaled _ (log2_mantissa hpos h) (by omega) 52

lemma ofNat_eq (h : n < 2 ^ 53) : Float.ofNat n = .ofModel (.pack (whole n)) := by
  have hone : (Float.ofBits 0x3FF0000000000000).toModel.unpack =
      .finite .positive (2 ^ 52) (-52) (by decide) := by rfl
  have hfast : Float.ofNat n = n.toUInt64.toFloat * Float.ofBits 0x3FF0000000000000 :=
    dif_pos ⟨h, Nat.zero_le 22⟩
  have hmul : n.toUInt64.toFloat * Float.ofBits 0x3FF0000000000000 =
      .ofModel (.pack (mul .binary64 n.toUInt64.toFloat.toModel.unpack
        (Float.ofBits 0x3FF0000000000000).toModel.unpack)) := rfl
  rw [hfast, hmul, toFloat_toUInt64 h, unpack_ofModel_pack, unpack_pack_whole h, hone,
    mul_one_whole h]

theorem ofNat_add_ofNat (h : a + b < 2 ^ 53) :
    Float.ofNat a + Float.ofNat b = Float.ofNat (a + b) := by
  have ha : a < 2 ^ 53 := Nat.lt_of_le_of_lt (Nat.le_add_right a b) h
  have hb : b < 2 ^ 53 := Nat.lt_of_le_of_lt (Nat.le_add_left b a) h
  have hadd : Float.ofNat a + Float.ofNat b =
      .ofModel (.pack (add .binary64 (Float.ofNat a).toModel.unpack
        (Float.ofNat b).toModel.unpack)) := rfl
  rw [hadd, ofNat_eq ha, ofNat_eq hb, ofNat_eq h, unpack_ofModel_pack, unpack_ofModel_pack,
    unpack_pack_whole ha, unpack_pack_whole hb, add_whole h]

end Whole

section NegativeZero

variable {n : Nat}

lemma negZero_add_whole (n : Nat) : add .binary64 (.zero .negative) (whole n) = whole n := by
  rcases Nat.eq_zero_or_pos n with rfl | hpos
  · rfl
  · rw [whole_of_pos hpos]
    rfl

lemma whole_add_negZero (n : Nat) : add .binary64 (whole n) (.zero .negative) = whole n := by
  rcases Nat.eq_zero_or_pos n with rfl | hpos
  · rfl
  · rw [whole_of_pos hpos]
    rfl

lemma unpack_negZero : (-0.0 : Float).toModel.unpack = .zero .negative := by rfl

lemma negZero_add_ofNat (h : n < 2 ^ 53) : -0.0 + Float.ofNat n = Float.ofNat n := by
  have hadd : -0.0 + Float.ofNat n =
      .ofModel (.pack (add .binary64 (-0.0 : Float).toModel.unpack
        (Float.ofNat n).toModel.unpack)) := rfl
  rw [hadd, ofNat_eq h, unpack_negZero, unpack_ofModel_pack, unpack_pack_whole h,
    negZero_add_whole]

lemma ofNat_add_negZero (h : n < 2 ^ 53) : Float.ofNat n + -0.0 = Float.ofNat n := by
  have hadd : Float.ofNat n + -0.0 =
      .ofModel (.pack (add .binary64 (Float.ofNat n).toModel.unpack
        (-0.0 : Float).toModel.unpack)) := rfl
  rw [hadd, ofNat_eq h, unpack_negZero, unpack_ofModel_pack, unpack_pack_whole h,
    whole_add_negZero]

end NegativeZero

end OfferPolicy.Decimal
