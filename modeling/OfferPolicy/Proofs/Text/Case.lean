import Mathlib.Tactic.Common
import OfferPolicy.Text.Case

/-! Upper case is reached at once: no entry of the tables is about what they map to. This is read
off the entries two at a time, by where the images of the one and the characters of the other
stand. -/

namespace OfferPolicy.Text

def upperEntries : List CaseRun :=
  upperRuns ++ upperExpansions.map fun e => ⟨e.1, e.1, 1, 0⟩

def IsFixed (n : Nat) : Prop :=
  ∀ q ∈ upperEntries, q.covers n = false

namespace CaseRun

variable {q r : CaseRun} {first last n : Nat}

lemma covers_iff : q.covers n = true ↔ q.first ≤ n ∧ n ≤ q.last ∧ (n - q.first) % q.step = 0 := by
  simp [covers, and_assoc]

def avoids (first last : Nat) (gaps : Bool) (q : CaseRun) : Bool :=
  Nat.blt q.last first || Nat.blt last q.first ||
    (gaps && q.step == 2 && (first + q.first) % 2 == 1)

lemma covers_eq_false_of_avoids {gaps : Bool} (h : q.avoids first last gaps = true)
    (hfirst : first ≤ n) (hlast : n ≤ last) (hgaps : gaps = true → (n - first) % 2 = 0) :
    q.covers n = false := by
  rw [Bool.eq_false_iff, ne_eq, covers_iff]
  rintro ⟨hlow, hhigh, hstep⟩
  simp only [avoids, Bool.or_eq_true, Bool.and_eq_true, Nat.blt_eq, beq_iff_eq] at h
  rcases h with (h | h) | ⟨⟨hg, hq⟩, h⟩
  · omega
  · omega
  · rw [hq] at hstep
    have heven := hgaps hg
    omega

def firstImage (r : CaseRun) : Nat := (r.first + r.shift).toNat

def lastImage (r : CaseRun) : Nat := (r.last + r.shift).toNat

def leavesGaps (r : CaseRun) : Bool := r.step == 2 || r.first == r.last

lemma isFixed_image (hr : r ∈ upperRuns) (hn : r.covers n = true) :
    IsFixed ((n : Int) + r.shift).toNat := by
  have hshift : ∀ r ∈ upperRuns, 0 ≤ r.first + r.shift := by decide +kernel
  have hentries : ∀ r ∈ upperRuns,
      upperEntries.all (avoids r.firstImage r.lastImage r.leavesGaps) = true := by decide +kernel
  intro q hq
  have hpos := hshift r hr
  obtain ⟨hlow, hhigh, hstep⟩ := covers_iff.mp hn
  apply covers_eq_false_of_avoids (List.all_eq_true.mp (hentries r hr) q hq)
  · rw [firstImage]
    omega
  · rw [lastImage]
    omega
  · intro hgaps
    rw [firstImage]
    simp only [leavesGaps, Bool.or_eq_true, beq_iff_eq] at hgaps
    rcases hgaps with h | h
    · rw [h] at hstep
      omega
    · omega

end CaseRun

lemma isFixed_expansion {e : Nat × List Nat} (he : e ∈ upperExpansions) {u : Nat} (hu : u ∈ e.2) :
    IsFixed u := by
  have hentries : ∀ e ∈ upperExpansions, ∀ u ∈ e.2,
      upperEntries.all (CaseRun.avoids u u false) = true := by decide +kernel
  intro q hq
  apply CaseRun.covers_eq_false_of_avoids (List.all_eq_true.mp (hentries e he u hu) q hq)
  · exact Nat.le_refl u
  · exact Nat.le_refl u
  · exact fun h => nomatch h

lemma isFixed_of_lt {n : Nat} (h : n < 97) : IsFixed n := by
  have hentries : ∀ q ∈ upperEntries, 97 ≤ q.first := by decide +kernel
  intro q hq
  have hfirst := hentries q hq
  rw [Bool.eq_false_iff, ne_eq, CaseRun.covers_iff]
  omega

lemma upperChar_eq_self {c : Char} (h : IsFixed c.toNat) : upperChar c = [c] := by
  have hexpansions : upperExpansions.find? (·.1 == c.toNat) = none := by
    rw [List.find?_eq_none]
    intro e he hc
    have hcovers := h _ (List.mem_append_right _ (List.mem_map_of_mem he))
    rw [Bool.eq_false_iff] at hcovers
    apply hcovers
    simp [CaseRun.covers_iff, beq_iff_eq.mp hc]
  have hruns : upperRuns.find? (·.covers c.toNat) = none := by
    rw [List.find?_eq_none]
    intro r hr
    rw [h r (List.mem_append_left _ hr)]
    exact Bool.false_ne_true
  rw [upperChar, hexpansions, mapCase, hruns]

lemma upperChar_ofNat {n : Nat} (h : IsFixed n) : upperChar (Char.ofNat n) = [Char.ofNat n] := by
  apply upperChar_eq_self
  by_cases hn : n.isValidChar
  · have hchar : Char.ofNat n = Char.ofNatAux n hn := dif_pos hn
    rw [hchar]
    exact h
  · have hchar : Char.ofNat n = Char.ofNat 0 := dif_neg hn
    rw [hchar]
    exact isFixed_of_lt (by decide)

lemma upperChar_of_mem_upperChar {c u : Char} (hu : u ∈ upperChar c) : upperChar u = [u] := by
  cases he : upperExpansions.find? (·.1 == c.toNat) with
  | some e =>
    rw [upperChar, he] at hu
    obtain ⟨n, hn, rfl⟩ := List.mem_map.mp hu
    exact upperChar_ofNat (isFixed_expansion (List.mem_of_find?_eq_some he) hn)
  | none =>
    cases hr : upperRuns.find? (·.covers c.toNat) with
    | some r =>
      rw [upperChar, he, mapCase, hr, List.mem_singleton] at hu
      have hcovers := List.find?_some hr
      rw [hu]
      exact upperChar_ofNat (CaseRun.isFixed_image (List.mem_of_find?_eq_some hr) hcovers)
    | none =>
      have hc : upperChar c = [c] := by rw [upperChar, he, mapCase, hr]
      rw [hc, List.mem_singleton] at hu
      rwa [hu]

lemma upper_eq_self {cs : List Char} (h : ∀ c ∈ cs, upperChar c = [c]) : upper cs = cs := by
  induction cs with
  | nil => rfl
  | cons c cs ih =>
    rw [upper, List.flatMap_cons, h c (List.mem_cons_self ..), ← upper,
      ih fun x hx => h x (List.mem_cons_of_mem c hx)]
    rfl

theorem upper_upper (cs : List Char) : upper (upper cs) = upper cs := by
  apply upper_eq_self
  intro u hu
  obtain ⟨c, _, hc⟩ := List.mem_flatMap.mp hu
  exact upperChar_of_mem_upperChar hc

end OfferPolicy.Text
