import Mathlib
import OfferPolicy.Label
import OfferPolicy.Policy.RuleLine
import OfferPolicy.Proofs.Text.Blank
import OfferPolicy.Proofs.Text.Case

namespace OfferPolicy

open RuleLine (isLabelChar)
open Text (upper upperChar upper_eq_self)

structure Label.IsTag (l : Label) : Prop where
  ne_nil : l.text.toList ≠ []
  label_chars : ∀ c ∈ l.text.toList, isLabelChar c = true
  upper_chars : ∀ c ∈ l.text.toList, upperChar c = [c]

namespace Label

def IsCapital (c : Char) : Prop := c.isUpper = true ∨ c = '_'

instance : DecidablePred IsCapital := fun _ => inferInstanceAs (Decidable (_ ∨ _))

lemma isLabelChar_cases {c : Char} (h : isLabelChar c = true) :
    IsCapital c ∨ c.isLower = true ∨ c = 'ſ' ∨ c = '\u212a' := by
  simp only [isLabelChar, Char.isAlpha, Bool.or_eq_true, beq_iff_eq] at h
  rcases h with (((h | h) | h) | h) | h
  · exact Or.inl (Or.inl h)
  · exact Or.inr (Or.inl h)
  · exact Or.inl (Or.inr h)
  · exact Or.inr (Or.inr (Or.inl h))
  · exact Or.inr (Or.inr (Or.inr h))

section Capitals

variable {c : Char} (h : IsCapital c)

include h

lemma IsCapital.toNat_lt : c.toNat < 97 := by
  rcases h with h | rfl
  · simp only [Char.isUpper, decide_eq_true_eq, ge_iff_le, UInt32.le_iff_toNat_le] at h
    change 65 ≤ c.toNat ∧ c.toNat ≤ 90 at h
    omega
  · decide

lemma IsCapital.upperChar_eq : upperChar c = [c] :=
  Text.upperChar_eq_self (Text.isFixed_of_lt h.toNat_lt)

lemma IsCapital.isLabelChar : isLabelChar c = true := by
  rcases h with h | rfl
  · simp [RuleLine.isLabelChar, Char.isAlpha, h]
  · rfl

lemma IsCapital.ne_kelvinSign : c ≠ '\u212a' := by
  rintro rfl
  exact absurd h.toNat_lt (by decide)

end Capitals

lemma upperChar_of_isLower {c : Char} (h : c.isLower = true) :
    upperChar c = [c.toUpper] ∧ c.toUpper.isUpper = true := by
  have hascii : c.toNat < 128 := by
    simp only [Char.isLower, Bool.and_eq_true, decide_eq_true_eq, ge_iff_le,
      UInt32.le_iff_toNat_le] at h
    change 97 ≤ c.toNat ∧ c.toNat ≤ 122 at h
    omega
  revert h
  apply Text.forall_ascii (P := fun c => c.isLower = true →
    upperChar c = [c.toUpper] ∧ c.toUpper.isUpper = true) _ hascii
  decide +kernel

lemma upperChar_kelvinSign : upperChar '\u212a' = ['\u212a'] := by
  decide +kernel

lemma upperChar_of_isLabelChar {c : Char} (h : isLabelChar c = true) :
    c = '\u212a' ∨ ∃ u, upperChar c = [u] ∧ IsCapital u := by
  rcases isLabelChar_cases h with hc | hc | rfl | rfl
  · exact Or.inr ⟨c, hc.upperChar_eq, hc⟩
  · obtain ⟨hu, hupper⟩ := upperChar_of_isLower hc
    exact Or.inr ⟨c.toUpper, hu, Or.inl hupper⟩
  · exact Or.inr ⟨'S', by decide +kernel, Or.inl rfl⟩
  · exact Or.inl rfl

lemma upper_cases {label : List Char} (h : ∀ c ∈ label, isLabelChar c = true) :
    ∀ u ∈ upper label, IsCapital u ∨ u = '\u212a' ∧ '\u212a' ∈ label := by
  intro u hu
  obtain ⟨c, hc, hu⟩ := List.mem_flatMap.mp hu
  rcases upperChar_of_isLabelChar (h c hc) with rfl | ⟨v, hv, hcapital⟩
  · rw [upperChar_kelvinSign, List.mem_singleton] at hu
    exact Or.inr ⟨hu, hc⟩
  · rw [hv, List.mem_singleton] at hu
    rw [hu]
    exact Or.inl hcapital

lemma upper_ne_nil {label : List Char} (hne : label ≠ [])
    (h : ∀ c ∈ label, isLabelChar c = true) : upper label ≠ [] := by
  obtain ⟨c, cs, rfl⟩ := List.exists_cons_of_ne_nil hne
  rcases upperChar_of_isLabelChar (h c (List.mem_cons_self ..)) with rfl | ⟨u, hu, _⟩
  · simp [upper, upperChar_kelvinSign]
  · simp [upper, hu]

lemma toList_text_ofTag (label : List Char) :
    (ofTag (String.ofList label)).text.toList = upper label := by
  rw [ofTag, String.toList_ofList, String.toList_ofList]

lemma isTag_ofTag {label : List Char} (hne : label ≠ []) (h : ∀ c ∈ label, isLabelChar c = true) :
    (ofTag (String.ofList label)).IsTag := by
  have hchars : ∀ u ∈ upper label, isLabelChar u = true ∧ upperChar u = [u] := by
    intro u hu
    rcases upper_cases h u hu with hcapital | ⟨rfl, _⟩
    · exact ⟨hcapital.isLabelChar, hcapital.upperChar_eq⟩
    · exact ⟨rfl, upperChar_kelvinSign⟩
  constructor
  · rw [toList_text_ofTag]
    exact upper_ne_nil hne h
  · rw [toList_text_ofTag]
    exact fun u hu => (hchars u hu).1
  · rw [toList_text_ofTag]
    exact fun u hu => (hchars u hu).2

lemma forall_isCapital_ofTag_iff {label : List Char} (h : ∀ c ∈ label, isLabelChar c = true) :
    (∀ u ∈ (ofTag (String.ofList label)).text.toList, IsCapital u) ↔ '\u212a' ∉ label := by
  rw [toList_text_ofTag]
  constructor
  · intro hcapital hmem
    have hu : '\u212a' ∈ upper label := by
      apply List.mem_flatMap.mpr
      exact ⟨'\u212a', hmem, by simp [upperChar_kelvinSign]⟩
    exact (hcapital _ hu).ne_kelvinSign rfl
  · intro hmem u hu
    rcases upper_cases h u hu with hcapital | ⟨_, hlabel⟩
    · exact hcapital
    · exact (hmem hlabel).elim

lemma ofTag_text_ofTag (tag : String) : ofTag (ofTag tag).text = ofTag tag := by
  simp only [ofTag, String.toList_ofList, Text.upper_upper]

lemma IsTag.ofTag_text {l : Label} (h : l.IsTag) : ofTag l.text = l := by
  rw [ofTag, upper_eq_self h.upper_chars, String.ofList_toList]

lemma isTag_of_ofTag_text {l : Label} (h : ofTag l.text = l) (hne : l.text.toList ≠ [])
    (hchars : l.text.toList.all isLabelChar = true) : l.IsTag := by
  have htag := isTag_ofTag hne (List.all_eq_true.mp hchars)
  rwa [String.ofList_toList, h] at htag

end Label

end OfferPolicy
