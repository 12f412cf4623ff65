import Mathlib.Tactic.Common
import OfferPolicy.Decimal.Reader
import OfferPolicy.Decimal.Shortest
import OfferPolicy.Proofs.Decimal.Nearest

namespace OfferPolicy.Decimal

lemma natOf_eq (cs : List Char) : natOf cs = Nat.ofDigitChars 10 cs 0 := rfl

@[simp] lemma natOf_toDigits (n : Nat) : natOf (Nat.toDigits 10 n) = n :=
  Nat.ofDigitChars_ten_toDigits

lemma natOf_append_zeros (cs : List Char) (k : Nat) :
    natOf (cs ++ List.replicate k '0') = natOf cs * 10 ^ k := by
  rw [natOf_eq, Nat.ofDigitChars_append, Nat.ofDigitChars_replicate_zero, Nat.mul_comm]
  rfl

lemma natOf_zeros_append (k : Nat) (cs : List Char) :
    natOf (List.replicate k '0' ++ cs) = natOf cs := by
  rw [natOf_eq, Nat.ofDigitChars_append, Nat.ofDigitChars_replicate_zero, Nat.mul_zero]
  rfl

lemma toDigits_mul_ten {n : Nat} (h : 0 < n) :
    Nat.toDigits 10 (n * 10) = Nat.toDigits 10 n ++ ['0'] := by
  have := Nat.toDigits_append_toDigits (b := 10) (d := 0) (by decide) h (by decide)
  rw [Nat.add_zero, Nat.mul_comm] at this
  exact this.symm

lemma toDigits_mul_pow {n : Nat} (h : 0 < n) (k : Nat) :
    Nat.toDigits 10 (n * 10 ^ k) = Nat.toDigits 10 n ++ List.replicate k '0' := by
  induction k with
  | zero => simp
  | succ k ih =>
    have hpos : 0 < n * 10 ^ k := Nat.mul_pos h (Nat.pow_pos (by decide))
    rw [Nat.pow_succ, ← Nat.mul_assoc, toDigits_mul_ten hpos, ih, List.append_assoc,
      ← List.replicate_succ']

lemma exists_zeros_behind (cs : List Char) :
    ∃ front, cs = front ++ List.replicate (cs.reverse.takeWhile (· == '0')).length '0' := by
  refine ⟨(cs.reverse.dropWhile (· == '0')).reverse, ?_⟩
  have hz : cs.reverse.takeWhile (· == '0') =
      List.replicate (cs.reverse.takeWhile (· == '0')).length '0' := by
    apply List.eq_replicate_of_mem
    intro c hc
    have := List.all_eq_true.mp (List.all_takeWhile (p := (· == '0')) (l := cs.reverse)) c hc
    simpa using this
  have hs := congrArg List.reverse
    (List.takeWhile_append_dropWhile (p := (· == '0')) (l := cs.reverse))
  rw [List.reverse_append, List.reverse_reverse, hz, List.reverse_replicate] at hs
  exact hs.symm

namespace Scientific

lemma place_eq (d : Scientific) : d.place =
    if d.digits = 0 || d.point < -330 then 0
    else if 310 < d.point then infinityPlace
    else nearest d.digits d.exponent := by
  obtain ⟨digits, exponent⟩ := d
  cases exponent <;> rfl

lemma point_scale {digits : Nat} (h : 0 < digits) (exponent : Int) (k : Nat) :
    point ⟨digits * 10 ^ k, exponent - k⟩ = point ⟨digits, exponent⟩ := by
  simp only [point, text, toDigits_mul_pow h k, List.length_append, List.length_replicate]
  omega

lemma nearest_scale (digits : Nat) (exponent : Int) (k : Nat) :
    nearest (digits * 10 ^ k) (exponent - k) = nearest digits exponent := by
  have hn : 0 ≤ exponent - k + (exponent.natAbs + k : Nat) := by omega
  have hn' : 0 ≤ exponent + (exponent.natAbs + k : Nat) := by omega
  have he : (exponent + (exponent.natAbs + k : Nat)).toNat =
      k + (exponent - k + (exponent.natAbs + k : Nat)).toNat := by omega
  rw [nearest_eq _ _ _ hn, nearest_eq _ _ _ hn', he, Nat.mul_assoc, ← Nat.pow_add]

lemma place_scale (digits : Nat) (exponent : Int) (k : Nat) :
    place ⟨digits * 10 ^ k, exponent - k⟩ = place ⟨digits, exponent⟩ := by
  by_cases h : digits = 0
  · subst h
    simp [place_eq]
  · have hpos := Nat.pos_of_ne_zero h
    have hk : digits * 10 ^ k ≠ 0 := Nat.ne_of_gt (Nat.mul_pos hpos (Nat.pow_pos (by decide)))
    simp only [place_eq, point_scale hpos, nearest_scale, h, hk]

@[simp] lemma place_normal (d : Scientific) : d.normal.place = d.place := by
  obtain ⟨digits, exponent⟩ := d
  rw [normal]
  simp only [text]
  split
  · next h => simp [place_eq, h]
  · obtain ⟨front, hf⟩ := exists_zeros_behind (Nat.toDigits 10 digits)
    generalize ((Nat.toDigits 10 digits).reverse.takeWhile (· == '0')).length = z at hf ⊢
    have hd : digits = natOf front * 10 ^ z := by rw [← natOf_append_zeros, ← hf, natOf_toDigits]
    have hq : digits / 10 ^ z = natOf front := by
      rw [hd]
      exact Nat.mul_div_cancel _ (Nat.pow_pos (by decide))
    have hs := place_scale (natOf front) (exponent + z) z
    rw [← hd, Int.add_sub_cancel] at hs
    rw [hq, hs]

end Scientific

lemma ten_pow (n : Nat) : 10 ^ n = 2 ^ n * 5 ^ n :=
  Nat.mul_pow 2 5 n

lemma units_lt {p : Nat} (h : p < infinityPlace) : units p < 2 ^ 53 * 2 ^ 2045 := by
  have hq : p / 2 ^ 52 < 2047 := Nat.div_lt_of_lt_mul (by rwa [Nat.mul_comm])
  rw [units]
  split
  · next hp => exact Nat.lt_trans hp (by decide +kernel)
  · have hm : p % 2 ^ 52 + 2 ^ 52 < 2 ^ 53 := by omega
    have hexp : p / 2 ^ 52 - 1 ≤ 2045 := by omega
    calc (p % 2 ^ 52 + 2 ^ 52) * 2 ^ (p / 2 ^ 52 - 1)
        < 2 ^ 53 * 2 ^ (p / 2 ^ 52 - 1) := Nat.mul_lt_mul_of_pos_right hm (Nat.two_pow_pos _)
      _ ≤ 2 ^ 53 * 2 ^ 2045 := Nat.mul_le_mul_left _ (Nat.pow_le_pow_right (by decide) hexp)

lemma length_exact {p : Nat} (hp : 0 < p) (h : p < infinityPlace) :
    744 ≤ (exact p).text.length ∧ (exact p).text.length ≤ 1384 := by
  constructor
  · refine Nat.lt_of_not_le fun hle => ?_
    have hlt := (Nat.length_toDigits_le_iff (by decide) (by decide)).mp hle
    have hle' : 10 ^ 743 ≤ units p * 5 ^ 1074 :=
      calc 10 ^ 743 ≤ 1 * 5 ^ 1074 := by decide +kernel
        _ ≤ units p * 5 ^ 1074 := Nat.mul_le_mul_right _ (units_pos hp)
    exact Nat.not_lt.mpr hle' hlt
  · apply (Nat.length_toDigits_le_iff (by decide) (by decide)).mpr
    calc units p * 5 ^ 1074 < 2 ^ 53 * 2 ^ 2045 * 5 ^ 1074 :=
          Nat.mul_lt_mul_of_pos_right (units_lt h) (Nat.pow_pos (by decide))
      _ ≤ 10 ^ 1384 := by decide +kernel

lemma nearest_neg (m n : Nat) :
    Scientific.nearest (m * 5 ^ n) (-(n : Int)) = nearestPlace m (2 ^ n) := by
  have h0 : (-(n : Int) + n).toNat = 0 := by omega
  rw [Scientific.nearest_eq _ _ n (by omega), h0, Nat.pow_zero, Nat.mul_one, ten_pow,
    nearestPlace_scale _ _ _ (Nat.pow_pos (by decide))]

lemma place_exact {p : Nat} (hp : 0 < p) (h : p < infinityPlace) : (exact p).place = p := by
  obtain ⟨hlow, hhigh⟩ := length_exact hp h
  have hd : (exact p).digits ≠ 0 := by
    intro h0
    rw [Scientific.text, h0, Nat.toDigits_zero] at hlow
    exact absurd hlow (by decide)
  have hpoint : (exact p).point = (exact p).text.length - 1074 := rfl
  have h1 : ¬ (exact p).point < -330 := by omega
  have h2 : ¬ 310 < (exact p).point := by omega
  rw [Scientific.place_eq]
  simp only [hd, h1, h2, decide_false, Bool.or_false, Bool.false_eq_true, if_false]
  exact (nearest_neg (units p) 1074).trans (nearestPlace_units (Nat.le_of_lt h))

theorem place_shortest (tie : Tie) {p : Nat} (h : p < infinityPlace) :
    (shortest tie p).place = p := by
  rw [shortest]
  split
  · next h0 =>
    subst h0
    rfl
  · next h0 =>
    simp only
    split
    · next d hd =>
      obtain ⟨i, _, hi⟩ := List.exists_of_findSome?_eq_some hd
      rw [Scientific.place_normal]
      exact place_of_neighbour? hi
    · rw [Scientific.place_normal]
      exact place_exact (Nat.pos_of_ne_zero h0) h

end OfferPolicy.Decimal
