import OfferPolicy.Proofs.Decimal.Bits
import OfferPolicy.Proofs.Decimal.Order

namespace OfferPolicy.Decimal

open Float.Model (Format UnpackedFloat)
open Float.Model.UnpackedFloat hiding round normalize isNaN isFinite

section Unpacked

variable {u v : UnpackedFloat} {s : Sign}

lemma isNaN_roundWithAccuracy (s : Sign) (m : Nat) (e : Int) (a : Accuracy) :
    (roundWithAccuracy .binary64 s m e a).isNaN = false := by
  simp only [roundWithAccuracy]
  split <;> rfl

lemma isNaN_normalize (m e : Int) (s : Sign) :
    (UnpackedFloat.normalize .binary64 m e s).isNaN = false := by
  rw [UnpackedFloat.normalize]
  split
  · exact isNaN_roundWithAccuracy _ _ _ _
  · rfl
  · exact isNaN_roundWithAccuracy _ _ _ _

lemma isNaN_unpack_infinity (s : Sign) :
    (unpack .binary64 (packedInfinity .binary64 s)).isNaN = false := by
  cases s <;> rfl

lemma isNaN_unpack_packComponents {e : BitVec 11} (he : e ≠ -1#11) (m : BitVec 52) :
    (unpack .binary64 (packComponents .binary64 s e m)).isNaN = false := by
  simp only [unpack, unpackExponent_packComponents]
  rw [if_neg he]
  split
  · split <;> rfl
  · rfl

lemma isNaN_unpack_pack (h : u.isNaN = false) :
    (unpack .binary64 (pack .binary64 u)).isNaN = false := by
  cases u with
  | notANumber => cases h
  | infinity s => exact isNaN_unpack_infinity s
  | zero s => rw [pack, unpack_packedZero]; rfl
  | finite s m e hpos =>
    rw [pack]
    split
    · exact isNaN_unpack_infinity s
    · next hsmall =>
      split
      · apply isNaN_unpack_packComponents
        intro hones
        have h' := congrArg BitVec.toNat hones
        rw [BitVec.toNat_ofNat] at h'
        change _ % 2048 = 2047 at h'
        change ¬ 2048 ≤ _ + 1 at hsmall
        omega
      · exact isNaN_unpack_packComponents (by decide) _

lemma isNaN_add (hu : u.isFinite = true) (hv : v.isNaN = false) :
    (u.add .binary64 v).isNaN = false := by
  cases u with
  | infinity _ | notANumber => cases hu
  | zero s =>
    cases v with
    | notANumber => cases hv
    | infinity _ | finite _ _ _ _ => rfl
    | zero t => cases s <;> cases t <;> rfl
  | finite _ _ _ _ =>
    cases v with
    | notANumber => cases hv
    | infinity _ | zero _ => rfl
    | finite _ _ _ _ => exact isNaN_normalize _ _ _

lemma isNaN_sub (hu : u.isNaN = false) (hv : v.isFinite = true) :
    (u.sub .binary64 v).isNaN = false := by
  cases v with
  | infinity _ | notANumber => cases hv
  | zero t =>
    cases u with
    | notANumber => cases hu
    | infinity _ | finite _ _ _ _ => rfl
    | zero s => cases s <;> cases t <;> rfl
  | finite _ _ _ _ =>
    cases u with
    | notANumber => cases hu
    | infinity _ | zero _ => rfl
    | finite _ _ _ _ => exact isNaN_normalize _ _ _

lemma isNaN_mul_finite (hu : u.isNaN = false) {m : Nat} {e : Int} (hpos : 0 < m) :
    (u.mul .binary64 (.finite s m e hpos)).isNaN = false := by
  cases u with
  | notANumber => cases hu
  | infinity _ | zero _ => rfl
  | finite _ _ _ _ => exact isNaN_roundWithAccuracy _ _ _ _

end Unpacked

section

variable {x y : Float}

lemma isNaN_eq_false_of_place_le (h : place x ≤ infinityPlace) : x.isNaN = false := by
  rw [Float.isNaN_eq_decide_eq_nan, decide_eq_false_iff_not]
  rintro rfl
  revert h
  decide

lemma isNaN_ofRatio (negative : Bool) (num den : Nat) :
    (ofRatio negative num den).isNaN = false := by
  have hplace := nearestPlace_le num den
  apply isNaN_eq_false_of_place_le
  rwa [ofRatio, place_ofPlace negative hplace]

lemma isNaN_float_add (hx : x.toModel.unpack.isFinite = true) (hy : y.isNaN = false) :
    (x + y).isNaN = false :=
  isNaN_unpack_pack (isNaN_add hx hy)

lemma isNaN_float_sub (hx : x.isNaN = false) (hy : y.toModel.unpack.isFinite = true) :
    (x - y).isNaN = false :=
  isNaN_unpack_pack (isNaN_sub hx hy)

lemma eq_of_unpack_eq (h : x.toModel.unpack = y.toModel.unpack) : x = y := by
  have hbits := (unpack_inj_of_valid x.toModel.valid y.toModel.valid).mp h
  exact Float.toBits_inj.mp (UInt64.toBitVec_inj.mp hbits)

lemma exists_finite_of_pos (h : 0.0 < x) (hx : x ≠ infinity false) :
    ∃ m e hpos, x.toModel.unpack = .finite .positive m e hpos := by
  rw [lt_iff] at h
  have hzero : (0.0 : Float).toModel.unpack = .zero .positive := by rfl
  rw [hzero] at h
  cases hu : x.toModel.unpack with
  | finite s m e hpos =>
    rw [hu] at h
    cases s with
    | negative => cases h
    | positive => exact ⟨m, e, hpos, rfl⟩
  | infinity s =>
    cases s with
    | negative =>
      rw [hu] at h
      cases h
    | positive => exact (hx (eq_of_unpack_eq (y := infinity false) hu)).elim
  | zero _ | notANumber =>
    rw [hu] at h
    cases h

lemma isNaN_float_mul (hx : x.isNaN = false) (hpos : 0.0 < y) (hy : y ≠ infinity false) :
    (x * y).isNaN = false := by
  obtain ⟨m, e, hm, hu⟩ := exists_finite_of_pos hpos hy
  apply isNaN_unpack_pack
  rw [hu]
  exact isNaN_mul_finite hx hm

end

end OfferPolicy.Decimal
