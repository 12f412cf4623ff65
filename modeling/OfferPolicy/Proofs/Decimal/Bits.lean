import Mathlib
import OfferPolicy.Decimal.Binary64

namespace OfferPolicy.Decimal

open Float.Model.UnpackedFloat

section Fields

variable (b : BitVec Float.Model.Format.binary64.numBits)

lemma toNat_unpackMantissa : (unpackMantissa b).toNat = b.toNat % 2 ^ 52 := by
  simp [unpackMantissa]

lemma toNat_unpackExponent : (unpackExponent b).toNat = b.toNat / 2 ^ 52 % 2 ^ 11 := by
  simp [unpackExponent, Nat.shiftRight_eq_div_pow]

end Fields

lemma toBits_ofBits {v : UInt64} (h : Float.Model.Format.binary64.Valid v.toBitVec) :
    (Float.ofBits v).toBits = v := by
  simp only [Float.toBits, Float.ofBits, Float.Model.ofBits, Float.Model.pack,
    pack_unpack_of_valid h]

theorem ofPlace_place (x : Float) : ofPlace (isNegative x) (place x) = x := by
  have hn : place x + (if isNegative x then 2 ^ 63 else 0) = x.toBits.toNat := by
    have hlt := x.toBits.toNat_lt
    rw [place, isNegative]
    by_cases h : 2 ^ 63 ≤ x.toBits.toNat
    · simp only [h, decide_true, if_true]
      omega
    · simp only [h, decide_false, Bool.false_eq_true, if_false]
      omega
  rw [ofPlace, hn]
  exact (congrArg Float.ofBits UInt64.ofNat_toNat).trans (Float.ofBits_toBits x)

lemma mantissa_eq_zero_of_le {b : BitVec Float.Model.Format.binary64.numBits}
    (h : b.toNat % 2 ^ 63 ≤ infinityPlace) (he : unpackExponent b = -1#11) :
    unpackMantissa b = 0#52 := by
  have he' := congrArg BitVec.toNat he
  rw [toNat_unpackExponent] at he'
  change b.toNat / 2 ^ 52 % 2 ^ 11 = 2047 at he'
  apply BitVec.eq_of_toNat_eq
  rw [toNat_unpackMantissa]
  change b.toNat % 2 ^ 52 = 0
  rw [infinityPlace] at h
  omega

lemma valid_of_le {v : UInt64} (h : v.toNat % 2 ^ 63 ≤ infinityPlace) :
    Float.Model.Format.binary64.Valid v.toBitVec where
  eq_packedNaN he hm := (hm (mantissa_eq_zero_of_le h he)).elim

lemma toNat_toBits_ofPlace (negative : Bool) {p : Nat} (h : p ≤ infinityPlace) :
    (ofPlace negative p).toBits.toNat = p + if negative then 2 ^ 63 else 0 := by
  have hp : p < 2 ^ 63 := Nat.lt_of_le_of_lt h (by decide)
  have hn : (p + if negative then 2 ^ 63 else 0).toUInt64.toNat =
      p + if negative then 2 ^ 63 else 0 := by
    apply UInt64.toNat_ofNat_of_lt'
    cases negative <;> simp only [Bool.false_eq_true, if_true, if_false, UInt64.size] <;> omega
  rw [ofPlace, toBits_ofBits, hn]
  apply valid_of_le
  rw [hn]
  cases negative <;> simp only [Bool.false_eq_true, if_true, if_false] <;> omega

theorem place_ofPlace (negative : Bool) {p : Nat} (h : p ≤ infinityPlace) :
    place (ofPlace negative p) = p := by
  have hp : p < 2 ^ 63 := Nat.lt_of_le_of_lt h (by decide)
  rw [place, toNat_toBits_ofPlace negative h]
  cases negative <;> simp only [Bool.false_eq_true, if_true, if_false] <;> omega

lemma beq_self_of_place_le {x : Float} (h : place x ≤ infinityPlace) : (x == x) = true := by
  apply Float.beq_self_iff.mpr
  rintro rfl
  revert h
  decide

lemma isFinite_iff {x : Float} (h : place x ≤ infinityPlace) :
    isFinite x = true ↔ ∀ negative, x ≠ infinity negative := by
  constructor
  · rintro hx negative rfl
    have hp := of_decide_eq_true hx
    rw [infinity, place_ofPlace negative (Nat.le_refl _)] at hp
    exact Nat.lt_irrefl _ hp
  · intro hx
    apply decide_eq_true
    apply Nat.lt_of_le_of_ne h
    intro hp
    have hplace := ofPlace_place x
    rw [hp] at hplace
    exact hx _ hplace.symm

end OfferPolicy.Decimal
