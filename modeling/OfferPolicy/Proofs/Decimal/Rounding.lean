import OfferPolicy.Proofs.Decimal.Amount

/-! Rounding an exact amount. The bits that are shifted out of the mantissa are kept as far as they
say on which side of half a place the amount was, so it becomes the nearest number, of two equally
near the even one. -/

namespace OfferPolicy.Decimal

open Float.Model (Format UnpackedFloat totalExponent)
open Float.Model.UnpackedFloat hiding round normalize isNaN isFinite

def lastPlace (d : Nat) : Nat := d.log2 - 52

def rounded (d : Nat) : Nat :=
  roundEven d (2 ^ lastPlace d) * 2 ^ lastPlace d

lemma rounded_zero : rounded 0 = 0 := rfl

section Shift

lemma shift_exact (m j : Nat) :
    ExtendedMantissa.mk m false false >>> j =
      ⟨m / 2 ^ j, decide (2 ^ j ≤ 2 * (m % 2 ^ j)),
        decide (m % 2 ^ j ≠ 0 ∧ 2 * (m % 2 ^ j) ≠ 2 ^ j)⟩ := by
  induction j with
  | zero =>
    rw [Nat.pow_zero, Nat.div_one, Nat.mod_one]
    rfl
  | succ j ih =>
    have hstep : ExtendedMantissa.mk m false false >>> (j + 1) =
        (ExtendedMantissa.mk m false false >>> j).shiftRightOne := rfl
    have hquotient : m / 2 ^ (j + 1) = m / 2 ^ j / 2 := by
      rw [Nat.pow_succ, Nat.div_div_eq_div_mul]
    have hremainder : m % 2 ^ (j + 1) = m % 2 ^ j + 2 ^ j * (m / 2 ^ j % 2) := Nat.mod_pow_succ
    have hlt : m % 2 ^ j < 2 ^ j := Nat.mod_lt m (Nat.two_pow_pos j)
    rw [hstep, ih, ExtendedMantissa.shiftRightOne, hquotient, hremainder, Nat.pow_succ]
    -- The bit shifted out last decides about the half, those before it about what is beside that.
    generalize m % 2 ^ j = r at hlt ⊢
    generalize m / 2 ^ j = q
    generalize 2 ^ j = p at hlt ⊢
    congr 1
    · rw [Bool.eq_iff_iff, bne_iff_ne, decide_eq_true_iff]
      rcases Nat.mod_two_eq_zero_or_one q with hbit | hbit <;> rw [hbit] <;> omega
    · rw [Bool.eq_iff_iff, Bool.or_eq_true, decide_eq_true_iff, decide_eq_true_iff,
        decide_eq_true_iff]
      rcases Nat.mod_two_eq_zero_or_one q with hbit | hbit <;> rw [hbit] <;> omega

lemma roundedMantissa_shift (m j : Nat) :
    (ExtendedMantissa.mk m false false >>> j).roundedMantissa = roundEven m (2 ^ j) := by
  have hpos : 0 < 2 ^ j := Nat.two_pow_pos j
  rw [shift_exact, roundEven]
  generalize m % 2 ^ j = r
  generalize m / 2 ^ j = q
  generalize 2 ^ j = p at hpos ⊢
  rcases lt_trichotomy (2 * r) p with h | h | h
  · have hdown : ¬ p ≤ 2 * r := Nat.not_le.mpr h
    rw [if_pos (by simp [h]), decide_eq_false hdown]
    cases decide (r ≠ 0 ∧ 2 * r ≠ p) <;> rfl
  · have hhalf : ¬ (r ≠ 0 ∧ 2 * r ≠ p) := fun hne => hne.2 h
    rw [decide_eq_true h.ge, decide_eq_false hhalf]
    change q + q % 2 = _
    rcases Nat.mod_two_eq_zero_or_one q with heven | heven <;> simp [h, heven]
  · have hmore : r ≠ 0 ∧ 2 * r ≠ p := by omega
    rw [decide_eq_true h.le, decide_eq_true hmore, if_neg (by simp; omega)]
    rfl

end Shift

section Quotient

lemma roundEven_eq_or (num den : Nat) :
    roundEven num den = num / den ∨ roundEven num den = num / den + 1 := by
  rw [roundEven]
  split
  · exact Or.inl rfl
  · exact Or.inr rfl

lemma quotient_lt (d : Nat) : d / 2 ^ lastPlace d < 2 ^ 53 := by
  rw [Nat.div_lt_iff_lt_mul (Nat.two_pow_pos _), ← Nat.pow_add, lastPlace]
  exact Nat.lt_of_lt_of_le Nat.lt_log2_self (Nat.pow_le_pow_right (by decide) (by omega))

lemma two_pow_log2_le {d : Nat} (h : 0 < d.log2) : 2 ^ d.log2 ≤ d := by
  apply Nat.log2_self_le
  rintro rfl
  exact absurd h (by decide)

lemma le_roundEven_of_log2 {d : Nat} (h : 52 ≤ d.log2) :
    2 ^ 52 ≤ roundEven d (2 ^ lastPlace d) := by
  have hle : 2 ^ 52 ≤ d / 2 ^ lastPlace d := by
    rw [Nat.le_div_iff_mul_le (Nat.two_pow_pos _), ← Nat.pow_add, lastPlace,
      Nat.add_sub_cancel' h]
    exact two_pow_log2_le (by omega)
  rcases roundEven_eq_or d (2 ^ lastPlace d) with h | h <;> rw [h] <;> omega

lemma roundEven_quotient_le (d : Nat) : roundEven d (2 ^ lastPlace d) ≤ 2 ^ 53 := by
  have hlt := quotient_lt d
  rcases roundEven_eq_or d (2 ^ lastPlace d) with h | h <;> rw [h] <;> omega

lemma roundEven_one (d : Nat) : roundEven d 1 = d := by
  have h := roundEven_mul d Nat.one_pos
  rwa [Nat.mul_one] at h

lemma roundEven_of_log2_lt {d : Nat} (h : d.log2 < 52) : roundEven d (2 ^ lastPlace d) = d := by
  rw [lastPlace, Nat.sub_eq_zero_of_le h.le, Nat.pow_zero, roundEven_one]

lemma roundEven_pos {d : Nat} (hpos : 0 < d) : 0 < roundEven d (2 ^ lastPlace d) := by
  rcases Nat.lt_or_ge d.log2 52 with hsmall | hlarge
  · rwa [roundEven_of_log2_lt hsmall]
  · exact Nat.lt_of_lt_of_le (by decide) (le_roundEven_of_log2 hlarge)

lemma canonical_or_eq (d : Nat) :
    Canonical (roundEven d (2 ^ lastPlace d)) (lastPlace d) ∨
      roundEven d (2 ^ lastPlace d) = 2 ^ 53 := by
  rcases Nat.lt_or_ge (roundEven d (2 ^ lastPlace d)) (2 ^ 53) with hlt | hge
  · left
    refine ⟨hlt, ?_⟩
    rcases Nat.lt_or_ge d.log2 52 with hsmall | hlarge
    · exact Or.inr (Nat.sub_eq_zero_of_le hsmall.le)
    · exact Or.inl (le_roundEven_of_log2 hlarge)
  · exact Or.inr (Nat.le_antisymm (roundEven_quotient_le d) hge)

lemma rounded_le {d j : Nat} (h : lastPlace d ≤ j) : rounded d ≤ 2 ^ 53 * 2 ^ j :=
  Nat.mul_le_mul (roundEven_quotient_le d) (Nat.pow_le_pow_right (by decide) h)

lemma le_rounded {d j : Nat} (hd : 52 ≤ d.log2) (h : j ≤ lastPlace d) :
    2 ^ 52 * 2 ^ j ≤ rounded d :=
  Nat.mul_le_mul (le_roundEven_of_log2 hd) (Nat.pow_le_pow_right (by decide) h)

end Quotient

/-- A number with room for it in the mantissa, however large its exponent. -/
inductive Fitted (s : Sign) (d : Nat) : UnpackedFloat → Prop
  | finite {m k : Nat} (hpos : 0 < m) : Canonical m k → m * 2 ^ k = d →
      Fitted s d (.finite s m (k - 1074) hpos)

section Round

variable {s : Sign} {m k : Nat}

lemma lastPlace_scaled (hpos : 0 < m) (k : Nat) : lastPlace (m * 2 ^ k) = m.log2 + k - 52 := by
  rw [lastPlace, log2_mul_two_pow hpos]

lemma targetExponent_scaled (hpos : 0 < m) (k : Nat) :
    Format.binary64.targetExponent (totalExponent m (k - 1074)) =
      lastPlace (m * 2 ^ k) - 1074 := by
  rw [lastPlace_scaled hpos]
  simp only [Format.targetExponent, totalExponent, Format.mantissaBits, Format.minExponent]
  omega

lemma shiftToTargetExponent_eq (hpos : 0 < m) (hk : k ≤ lastPlace (m * 2 ^ k)) :
    shiftToTargetExponent .binary64 m (k - 1074) .exact =
      (ExtendedMantissa.mk m false false >>> (lastPlace (m * 2 ^ k) - k),
        (lastPlace (m * 2 ^ k) : Int) - 1074) := by
  have hamount : ((lastPlace (m * 2 ^ k) : Int) - 1074 - (k - 1074)).toNat =
      lastPlace (m * 2 ^ k) - k := by omega
  rw [shiftToTargetExponent, targetExponent_scaled hpos, shiftToExponent, hamount]
  simp only [ExtendedMantissa.ofMantissaAndAccuracy]
  congr 1
  omega

lemma lastPlace_of_canonical (hpos : 0 < m) (h : Canonical m k) : lastPlace (m * 2 ^ k) = k := by
  have hlog := log2_le h.lt
  rw [lastPlace_scaled hpos]
  rcases h.lead with hlead | rfl
  · have hlog' : m.log2 = 52 := (Nat.log2_eq_iff hpos.ne').mpr ⟨hlead, h.lt⟩
    omega
  · omega

lemma shiftToTargetExponent_again {r j : Nat} (hpos : 0 < r) (h : Canonical r j ∨ r = 2 ^ 53) :
    ∃ em l, shiftToTargetExponent .binary64 r (j - 1074) .exact = (em, ((l : Nat) : Int) - 1074) ∧
      0 < em.mantissa ∧ Canonical em.mantissa l ∧ em.mantissa * 2 ^ l = r * 2 ^ j := by
  rcases h with hcanonical | rfl
  · have hlast := lastPlace_of_canonical hpos hcanonical
    refine ⟨⟨r, false, false⟩, j, ?_, hpos, hcanonical, rfl⟩
    rw [shiftToTargetExponent_eq hpos hlast.ge, hlast, Nat.sub_self]
    rfl
  -- Rounding up has filled the mantissa, which gives a zero bit to the exponent.
  · have hlast : lastPlace (2 ^ 53 * 2 ^ j) = j + 1 := by
      rw [lastPlace_scaled hpos, Nat.log2_two_pow]
      omega
    refine ⟨⟨2 ^ 52, false, false⟩, j + 1, ?_, by decide, ⟨by decide, Or.inl (Nat.le_refl _)⟩, ?_⟩
    · rw [shiftToTargetExponent_eq hpos (by omega), hlast, Nat.add_sub_cancel_left]
      rfl
    · rw [← Nat.pow_add, ← Nat.pow_add, Nat.add_comm j, ← Nat.add_assoc]

lemma fitted_roundWithAccuracy (hpos : 0 < m) (hk : k ≤ lastPlace (m * 2 ^ k)) :
    Fitted s (rounded (m * 2 ^ k)) (roundWithAccuracy .binary64 s m (k - 1074) .exact) := by
  have hscale := roundEven_scale m (2 ^ (lastPlace (m * 2 ^ k) - k)) (2 ^ k) (Nat.two_pow_pos k)
  rw [← Nat.pow_add, Nat.sub_add_cancel hk] at hscale
  have hd : 0 < m * 2 ^ k := Nat.mul_pos hpos (Nat.two_pow_pos k)
  obtain ⟨em, l, hagain, hem, hcanonical, hvalue⟩ :=
    shiftToTargetExponent_again (roundEven_pos hd) (canonical_or_eq (m * 2 ^ k))
  rw [roundWithAccuracy, shiftToTargetExponent_eq hpos hk, rounded]
  simp only [roundedMantissa_shift, ← hscale, hagain]
  rw [dif_neg hem.ne']
  exact .finite hem hcanonical hvalue

lemma fitted_round (hpos : 0 < m) (k : Nat) :
    Fitted s (rounded (m * 2 ^ k)) (UnpackedFloat.round .binary64 s m (k - 1074)) := by
  have hcommon : k - lastPlace (m * 2 ^ k) + min k (lastPlace (m * 2 ^ k)) = k := by omega
  have hscaled : m * 2 ^ (k - lastPlace (m * 2 ^ k)) * 2 ^ min k (lastPlace (m * 2 ^ k)) =
      m * 2 ^ k := by
    rw [Nat.mul_assoc, ← Nat.pow_add, hcommon]
  have hamount : ((k : Int) - 1074 - ((lastPlace (m * 2 ^ k) : Nat) - 1074)).toNat =
      k - lastPlace (m * 2 ^ k) := by omega
  have hexponent : (k : Int) - 1074 - (k - lastPlace (m * 2 ^ k) : Nat) =
      (min k (lastPlace (m * 2 ^ k)) : Nat) - 1074 := by omega
  have hfitted := fitted_roundWithAccuracy (s := s)
    (Nat.mul_pos hpos (Nat.two_pow_pos (k - lastPlace (m * 2 ^ k))))
    (by rw [hscaled]; exact Nat.min_le_right _ _)
  rw [hscaled] at hfitted
  rw [UnpackedFloat.round, targetExponent_scaled hpos, decreaseExponent, hamount]
  simp only [Nat.shiftLeft_eq, hexponent]
  exact hfitted

end Round

lemma Fitted.stored_unpack_pack {s : Sign} {d : Nat} {u : UnpackedFloat} (h : Fitted s d u) :
    Stored (unpack .binary64 (pack .binary64 u)) (s.apply (min d (units infinityPlace) : Nat)) := by
  obtain @⟨m, k, hpos, hm, rfl⟩ := h
  rcases Nat.lt_or_ge k 2046 with hk | hk
  · have hlt := scaled_lt_end hm (Nat.le_of_lt_succ hk)
    rw [unpack_pack_finite hpos hm (Nat.le_of_lt_succ hk), Nat.min_eq_left hlt.le]
    exact .finite s hpos hm (Nat.le_of_lt_succ hk)
  · have hge : units infinityPlace ≤ m * 2 ^ k :=
      calc units infinityPlace = 2 ^ 52 * 2 ^ 2046 := by decide +kernel
        _ ≤ m * 2 ^ k := Nat.mul_le_mul (hm.lead.resolve_right (by omega))
          (Nat.pow_le_pow_right (by decide) hk)
    rw [pack_overflow hpos hk, unpack_pack_infinity, Nat.min_eq_right hge]
    exact .infinity s

lemma rounded_scaled {m k : Nat} (hpos : 0 < m) (h : Canonical m k) :
    rounded (m * 2 ^ k) = m * 2 ^ k := by
  rw [rounded, lastPlace_of_canonical hpos h, roundEven_mul _ (Nat.two_pow_pos k)]

end OfferPolicy.Decimal
