import Mathlib.Data.List.TakeWhile
import Mathlib.Tactic.Common
import OfferPolicy.Decimal.Reader
import OfferPolicy.Text.Blank

namespace OfferPolicy.Text

section Ascii

open Decimal (isDigit)

lemma forall_ascii {P : Char → Prop} (h : ∀ n < 128, P (Char.ofNat n)) {c : Char}
    (hc : c.toNat < 128) : P c := by
  have := h c.toNat hc
  rwa [Char.ofNat_toNat] at this

lemma toNat_lt_of_isDigit {c : Char} (h : isDigit c = true) : c.toNat < 128 := by
  have hc : 48 ≤ c.toNat ∧ c.toNat ≤ 57 := by
    simpa [isDigit, Char.le_def, UInt32.le_iff_toNat_le] using h
  omega

lemma toLower_of_isDigit {c : Char} (h : isDigit c = true) : c.toLower = c :=
  forall_ascii (P := fun c => isDigit c = true → c.toLower = c) (by decide)
    (toNat_lt_of_isDigit h) h

end Ascii

section Front

variable {α : Type} {p : α → Bool} {as bs : List α}

lemma eq_false_of_mem_head?_dropWhile {a : α} (h : a ∈ (as.dropWhile p).head?) : p a = false := by
  have hd := List.head?_dropWhile_not p as
  rw [Option.mem_def.mp h] at hd
  exact hd

variable (ha : ∀ a ∈ as, p a = true) (hb : ∀ b ∈ bs.head?, p b = false)

include hb

lemma dropWhile_eq_self : bs.dropWhile p = bs := by
  cases bs with
  | nil => rfl
  | cons b bs => exact List.dropWhile_cons_of_neg (by simp [hb b rfl])

lemma takeWhile_eq_nil : bs.takeWhile p = [] := by
  cases bs with
  | nil => rfl
  | cons b bs => exact List.takeWhile_cons_of_neg (by simp [hb b rfl])

include ha

lemma dropWhile_append_eq : (as ++ bs).dropWhile p = bs := by
  rw [List.dropWhile_append_of_pos ha, dropWhile_eq_self hb]

lemma takeWhile_append_eq : (as ++ bs).takeWhile p = as := by
  rw [List.takeWhile_append_of_pos ha, takeWhile_eq_nil hb, List.append_nil]

end Front

section Ends

variable {cs : List Char} {c : Char}

lemma isBlank_head_trim (h : c ∈ (trim cs).head?) : isBlank c = false := by
  obtain ⟨w, _, hw⟩ := trimEnd_prefix (trimStart cs)
  have hc : c ∈ (trimStart cs).head? := by
    rw [hw, List.head?_append, ← trim, Option.mem_def.mp h]
    rfl
  exact eq_false_of_mem_head?_dropWhile hc

lemma isBlank_getLast_trim (h : c ∈ (trim cs).getLast?) : isBlank c = false := by
  rw [trim, trimEnd, List.getLast?_reverse] at h
  exact eq_false_of_mem_head?_dropWhile h

lemma trim_eq_self (hh : ∀ c ∈ cs.head?, isBlank c = false)
    (hl : ∀ c ∈ cs.getLast?, isBlank c = false) : trim cs = cs := by
  rw [trim, trimStart, dropWhile_eq_self hh, trimEnd, dropWhile_eq_self,
    List.reverse_reverse]
  rwa [List.head?_reverse]

end Ends

lemma dropWhile_isBlank_eq_nil {v : List Char} (hv : ∀ c ∈ v, isBlank c = true) :
    v.dropWhile isBlank = [] :=
  List.dropWhile_eq_nil_iff.mpr hv

lemma trim_append_blanks {v cs w : List Char} (hv : ∀ c ∈ v, isBlank c = true)
    (hw : ∀ c ∈ w, isBlank c = true) : trim (v ++ cs ++ w) = trim cs := by
  have hw' : ∀ c ∈ w.reverse, isBlank c = true := fun c hc => hw c (List.mem_reverse.mp hc)
  rw [trim, trimStart, List.append_assoc, List.dropWhile_append_of_pos hv, List.dropWhile_append,
    trim, trimStart]
  split
  · next h =>
    rw [List.isEmpty_iff.mp h, dropWhile_isBlank_eq_nil hw]
  · rw [trimEnd, List.reverse_append, List.dropWhile_append_of_pos hw', trimEnd]

lemma trim_append_blanks_right (cs : List Char) {w : List Char} (hw : ∀ c ∈ w, isBlank c = true) :
    trim (cs ++ w) = trim cs :=
  trim_append_blanks (List.forall_mem_nil _) hw

lemma trim_append_blanks_left (cs : List Char) {w : List Char} (hw : ∀ c ∈ w, isBlank c = true) :
    trim (w ++ cs) = trim cs := by
  have happend : trim (w ++ cs ++ []) = trim cs := trim_append_blanks hw (List.forall_mem_nil _)
  rwa [List.append_nil] at happend

lemma mem_of_mem_trim {cs : List Char} {c : Char} (h : c ∈ trim cs) : c ∈ cs := by
  obtain ⟨v, w, _, _, hspec⟩ := trim_spec cs
  rw [hspec]
  simp [h]

lemma isBlank_of_trim_eq_nil {cs : List Char} (h : trim cs = []) : ∀ c ∈ cs, isBlank c = true := by
  obtain ⟨v, w, hv, hw, hcs⟩ := trim_spec cs
  rw [h, List.append_nil] at hcs
  intro c hc
  rw [hcs] at hc
  rcases List.mem_append.mp hc with hc | hc
  · exact hv c hc
  · exact hw c hc

lemma trim_eq_nil_iff {cs : List Char} : trim cs = [] ↔ ∀ c ∈ cs, isBlank c = true := by
  refine ⟨isBlank_of_trim_eq_nil, fun h => ?_⟩
  rw [trim, trimStart, dropWhile_isBlank_eq_nil h]
  rfl

lemma trim_trim (cs : List Char) : trim (trim cs) = trim cs :=
  trim_eq_self (fun _ => isBlank_head_trim) fun _ => isBlank_getLast_trim

end OfferPolicy.Text
