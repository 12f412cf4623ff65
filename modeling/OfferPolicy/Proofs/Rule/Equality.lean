import OfferPolicy.Proofs.Condition.Escapes
import OfferPolicy.Rule.Basic

/-! Rules are compared part by part, and numbers in them as numbers: zero equals its negative, and a
NaN equals nothing. So equal rules need not be the same, but they have the same texts in them. -/

namespace OfferPolicy

section Lists

variable {α β : Type} [BEq β]

lemma exists_beq_of_mem {as bs : List β} (h : (as == bs) = true) {b : β} (hb : b ∈ bs) :
    ∃ a ∈ as, (a == b) = true := by
  induction bs generalizing as with
  | nil => cases hb
  | cons x bs ih =>
    cases as with
    | nil => cases h
    | cons a as =>
      rw [List.cons_beq_cons, Bool.and_eq_true] at h
      rcases List.mem_cons.mp hb with rfl | hb
      · exact ⟨a, List.mem_cons_self .., h.1⟩
      · obtain ⟨y, hy, hyb⟩ := ih h.2 hb
        exact ⟨y, List.mem_cons_of_mem a hy, hyb⟩

lemma map_beq_map_iff {as : List α} {f g : α → β} :
    (as.map f == as.map g) = true ↔ ∀ a ∈ as, (f a == g a) = true := by
  induction as with
  | nil => simp
  | cons a as ih =>
    rw [List.map_cons, List.map_cons, List.cons_beq_cons, Bool.and_eq_true, ih,
      List.forall_mem_cons]

lemma list_beq_self {as : List β} (h : ∀ a ∈ as, (a == a) = true) : (as == as) = true := by
  have hmap : (as.map id == as.map id) = true := map_beq_map_iff.mpr h
  rwa [List.map_id] at hmap

end Lists

lemma Literal.beq_self {l : Literal}
    (h : ∀ n, l = .number n → Decimal.place n ≤ Decimal.infinityPlace) : (l == l) = true := by
  cases l with
  | null => rfl
  | number n => exact Decimal.beq_self_of_place_le (h n rfl)
  | text s => exact beq_self_eq_true s

lemma Literal.breaksLine_of_beq {l l' : Literal} (h : (l == l') = true) (hl : l'.BreaksLine) :
    l.BreaksLine := by
  cases l' with
  | null | number _ => exact hl.elim
  | text s' =>
    cases l with
    | null | number _ => cases h
    | text s =>
      have hs : s = s' := beq_iff_eq.mp h
      rwa [hs]

lemma Comparison.beq_eq (c c' : Comparison) :
    (c == c') = (c.field == c'.field && c.op == c'.op && c.literal == c'.literal) :=
  rfl

namespace Guard

def literals : Guard → List Literal
  | holds e => e.terms.map Comparison.literal
  | always | broken .. => []

lemma holds_beq_holds (e e' : Condition) : (holds e == holds e') = (e.terms == e'.terms) :=
  rfl

lemma isBroken_of_beq {g g' : Guard} (h : (g == g') = true) : g.isBroken = g'.isBroken := by
  cases g <;> cases g' <;> first | rfl | cases h

lemma beq_self {g : Guard}
    (h : ∀ n, .number n ∈ g.literals → Decimal.place n ≤ Decimal.infinityPlace) :
    (g == g) = true := by
  cases g with
  | always => rfl
  | broken source reason =>
    change (source == source && reason == reason) = true
    simp
  | holds e =>
    rw [holds_beq_holds]
    apply list_beq_self
    intro c hc
    have hl : (c.literal == c.literal) = true := by
      apply Literal.beq_self
      intro n hn
      exact h n (hn ▸ List.mem_map_of_mem hc)
    simp [Comparison.beq_eq, hl]

lemma breaksLine_of_beq {g g' : Guard} (h : (g == g') = true)
    (hg : ∃ l ∈ g'.literals, l.BreaksLine) : ∃ l ∈ g.literals, l.BreaksLine := by
  obtain ⟨l, hl, hbreaks⟩ := hg
  cases g' with
  | always | broken _ _ => cases hl
  | holds e' =>
    cases g with
    | always | broken _ _ => cases h
    | holds e =>
      obtain ⟨c', hc', rfl⟩ := List.mem_map.mp hl
      obtain ⟨c, hc, hbeq⟩ := exists_beq_of_mem h hc'
      rw [Comparison.beq_eq, Bool.and_eq_true] at hbeq
      exact ⟨c.literal, List.mem_map_of_mem hc, Literal.breaksLine_of_beq hbeq.2 hbreaks⟩

end Guard

lemma Rule.beq_eq (r r' : Rule) :
    (r == r') = (r.guard == r'.guard && (r.offer == r'.offer && r.line == r'.line)) :=
  rfl

lemma Rule.guard_beq_of_beq {r r' : Rule} (h : (r == r') = true) :
    (r.guard == r'.guard) = true := by
  rw [beq_eq, Bool.and_eq_true] at h
  exact h.1

end OfferPolicy
