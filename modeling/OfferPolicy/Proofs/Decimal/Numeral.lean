import OfferPolicy.Decimal.Layout
import OfferPolicy.Proofs.Decimal.Bits
import OfferPolicy.Proofs.Decimal.Shortest
import OfferPolicy.Proofs.Text.Blank

namespace OfferPolicy.Decimal

def numeral (whole fraction : List Char) : List Char :=
  whole ++ if fraction = [] then [] else '.' :: fraction

def signed (negative : Bool) (cs : List Char) : List Char :=
  if negative then '-' :: cs else cs

structure IsNumeral (whole fraction : List Char) : Prop where
  whole_ne_nil : whole ≠ []
  whole_digits : ∀ c ∈ whole, isDigit c = true
  fraction_digits : ∀ c ∈ fraction, isDigit c = true

@[simp] lemma numeral_nil (whole : List Char) : numeral whole [] = whole := by
  simp [numeral]

lemma numeral_of_ne_nil (whole : List Char) {fraction : List Char} (h : fraction ≠ []) :
    numeral whole fraction = whole ++ '.' :: fraction := by
  simp [numeral, h]

lemma isDigit_of_mem_zeros {c : Char} {n : Nat} (h : c ∈ List.replicate n '0') :
    isDigit c = true := by
  rw [List.eq_of_mem_replicate h]
  rfl

section Digits

variable {ds : List Char} (h : ∀ c ∈ ds, isDigit c = true)

include h

lemma isNumeral_append_zeros (hne : ds ≠ []) (n : Nat) :
    IsNumeral (ds ++ List.replicate n '0') [] where
  whole_ne_nil := by simp [hne]
  whole_digits c hc := by
    rcases List.mem_append.mp hc with hc | hc
    · exact h c hc
    · exact isDigit_of_mem_zeros hc
  fraction_digits c hc := by simp at hc

lemma isNumeral_take_drop {n : Nat} (hn : n < ds.length) :
    IsNumeral (ds.take (ds.length - n)) (ds.drop (ds.length - n)) where
  whole_ne_nil := by
    rw [← List.length_pos_iff, List.length_take]
    omega
  whole_digits c hc := h c (List.mem_of_mem_take hc)
  fraction_digits c hc := h c (List.mem_of_mem_drop hc)

lemma isNumeral_zeros_append (n : Nat) : IsNumeral ['0'] (List.replicate n '0' ++ ds) where
  whole_ne_nil := by simp
  whole_digits c hc := by
    rw [List.mem_singleton.mp hc]
    rfl
  fraction_digits c hc := by
    rcases List.mem_append.mp hc with hc | hc
    · exact isDigit_of_mem_zeros hc
    · exact h c hc

end Digits

namespace Scientific

lemma ofParts_eq {whole fraction : List Char} {digits places : Nat}
    (hd : natOf (whole ++ fraction) = digits) (hl : fraction.length = places + 1) :
    ofParts whole fraction 0 = ⟨digits, .negSucc places⟩ := by
  rw [ofParts, hd, hl]
  rfl

lemma isDigit_of_mem_text {d : Scientific} {c : Char} (h : c ∈ d.text) : isDigit c = true :=
  Nat.isDigit_of_mem_toDigits (by decide) (by decide) h

lemma text_ne_nil (d : Scientific) : d.text ≠ [] :=
  Nat.toDigits_ne_nil

lemma natOf_text (d : Scientific) : natOf d.text = d.digits :=
  natOf_toDigits d.digits

lemma place_le (d : Scientific) : d.place ≤ infinityPlace := by
  rw [place]
  split
  · exact Nat.zero_le _
  · split
    · exact Nat.le_refl _
    · split
      · exact nearestPlace_le _ _
      · exact nearestPlace_le _ _

lemma plainText_eq_numeral (d : Scientific) : ∃ whole fraction, IsNumeral whole fraction ∧
    d.plainText = numeral whole fraction ∧ (ofParts whole fraction 0).place = d.place := by
  have hdigits : ∀ c ∈ d.text, isDigit c = true := fun c => isDigit_of_mem_text
  have hne := d.text_ne_nil
  have hnat := d.natOf_text
  obtain ⟨digits, exponent⟩ := d
  cases exponent with
  -- A whole number, digits around a point, or zeros before the digits.
  | ofNat e =>
    refine ⟨_, _, isNumeral_append_zeros hdigits hne e, by simp [plainText], ?_⟩
    have hs := place_scale digits e e
    rw [ofParts, List.append_nil, natOf_append_zeros, hnat]
    simpa using hs
  | negSucc e =>
    simp only [plainText]
    generalize text ⟨digits, .negSucc e⟩ = ds at hdigits hne hnat ⊢
    by_cases hlt : e + 1 < ds.length
    · refine ⟨_, _, isNumeral_take_drop hdigits hlt, ?_, ?_⟩
      · rw [if_pos hlt, numeral_of_ne_nil]
        rw [← List.length_pos_iff, List.length_drop]
        omega
      · rw [ofParts_eq]
        · rw [List.take_append_drop, hnat]
        · rw [List.length_drop]
          omega
    · refine ⟨_, _, isNumeral_zeros_append hdigits (e + 1 - ds.length), ?_, ?_⟩
      · rw [if_neg hlt, numeral_of_ne_nil _ (by simp [hne])]
        simp
      · rw [ofParts_eq]
        · rw [← List.append_assoc, ← List.replicate_one, List.replicate_append_replicate,
            natOf_zeros_append, hnat]
        · rw [List.length_append, List.length_replicate]
          have := List.length_pos_iff.mpr hne
          omega

end Scientific

section Reading

variable {whole fraction : List Char} (h : IsNumeral whole fraction)

include h

lemma takeSign_signed_numeral (negative : Bool) :
    takeSign (signed negative (numeral whole fraction)) = (negative, numeral whole fraction) := by
  cases negative with
  | true => rfl
  | false =>
    obtain ⟨c, ds, rfl⟩ := List.exists_cons_of_ne_nil h.whole_ne_nil
    have hc := h.whole_digits c (List.mem_cons_self ..)
    have hm : c ≠ '-' := by rintro rfl; cases hc
    have hp : c ≠ '+' := by rintro rfl; cases hc
    simp [signed, numeral, takeSign, hm, hp]

lemma map_toLower_numeral_ne {w : Char} (word : List Char) (hw : isDigit w = false) :
    (numeral whole fraction).map Char.toLower ≠ w :: word := by
  obtain ⟨c, ds, rfl⟩ := List.exists_cons_of_ne_nil h.whole_ne_nil
  have hc := h.whole_digits c (List.mem_cons_self ..)
  intro he
  have hcw : c.toLower = w := by simpa [numeral] using congrArg List.head? he
  rw [Text.toLower_of_isDigit hc] at hcw
  rw [hcw, hw] at hc
  cases hc

lemma scientific?_numeral :
    scientific? (numeral whole fraction) = some (.ofParts whole fraction 0) := by
  have hne : whole.isEmpty = false := by simpa using h.whole_ne_nil
  by_cases hf : fraction = []
  · subst hf
    have ht : whole.takeWhile isDigit = whole := List.takeWhile_eq_self_iff.mpr h.whole_digits
    have hd : whole.dropWhile isDigit = [] := List.dropWhile_eq_nil_iff.mpr h.whole_digits
    simp [scientific?, ht, hd, hne, exponent?]
  · have ht : (whole ++ '.' :: fraction).takeWhile isDigit =
        whole ++ ('.' :: fraction).takeWhile isDigit := List.takeWhile_append_of_pos h.whole_digits
    have hd : (whole ++ '.' :: fraction).dropWhile isDigit = ('.' :: fraction).dropWhile isDigit :=
      List.dropWhile_append_of_pos h.whole_digits
    have ht' : fraction.takeWhile isDigit = fraction :=
      List.takeWhile_eq_self_iff.mpr h.fraction_digits
    have hd' : fraction.dropWhile isDigit = [] := List.dropWhile_eq_nil_iff.mpr h.fraction_digits
    have hp : isDigit '.' = false := rfl
    simp [scientific?, numeral_of_ne_nil whole hf, ht, hd, ht', hd', hp, hne, exponent?]

lemma float?_numeral (negative : Bool) : float? (signed negative (numeral whole fraction)) =
    some ((Scientific.ofParts whole fraction 0).toFloat negative) := by
  have h1 : (numeral whole fraction).map Char.toLower ≠ "inf".toList :=
    map_toLower_numeral_ne h _ rfl
  have h2 : (numeral whole fraction).map Char.toLower ≠ "infinity".toList :=
    map_toLower_numeral_ne h _ rfl
  have h3 : (numeral whole fraction).map Char.toLower ≠ "nan".toList :=
    map_toLower_numeral_ne h _ rfl
  rw [float?]
  rw [takeSign_signed_numeral h]
  simp only [h1, h2, h3, scientific?_numeral h, decide_false, Bool.or_false, Bool.false_eq_true,
    if_false, Option.map_some]

lemma place_le_of_float?_numeral {negative : Bool} {x : Float}
    (hx : float? (signed negative (numeral whole fraction)) = some x) :
    place x ≤ infinityPlace := by
  rw [float?_numeral h, Option.some.injEq] at hx
  rw [← hx, Scientific.toFloat, place_ofPlace negative (Scientific.place_le _)]
  exact Scientific.place_le _

end Reading

lemma plain_magnitude (p : Nat) : plain.magnitude p = (shortest .up p).plainText := by
  simp [Layout.magnitude, plain]

theorem render_plain_of_isFinite {x : Float} (h : isFinite x = true) : ∃ whole fraction,
    IsNumeral whole fraction ∧
    (plain.render x).toList = signed (isNegative x) (numeral whole fraction) ∧
    (Scientific.ofParts whole fraction 0).toFloat (isNegative x) = x := by
  have hp : place x < infinityPlace := of_decide_eq_true h
  have hn : isNaN x = false := decide_eq_false (Nat.not_lt.mpr (Nat.le_of_lt hp))
  obtain ⟨whole, fraction, hnum, htext, hplace⟩ := (shortest .up (place x)).plainText_eq_numeral
  refine ⟨whole, fraction, hnum, ?_, ?_⟩
  · simp only [Layout.render, hn, h, plain_magnitude, htext, String.toList_ofList, signOf, signed]
    cases isNegative x <;> rfl
  · rw [Scientific.toFloat, hplace, place_shortest .up hp, ofPlace_place]

lemma render_plain_of_not_isFinite {x : Float} (h : isFinite x = false) :
    (plain.render x).toList = "NaN".toList ∨
      (plain.render x).toList = signed (isNegative x) "inf".toList := by
  simp only [Layout.render, h, String.toList_ofList, signOf, signed]
  cases isNaN x with
  | true => exact Or.inl rfl
  | false =>
    right
    cases isNegative x <;> rfl

end OfferPolicy.Decimal
