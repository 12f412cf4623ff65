import Mathlib

namespace OfferPolicy.Decimal

open Float.Model

section Unpacked

lemma compare_then_swap (e f : Int) (m n : Nat) :
    (compare f e).then (compare n m) = ((compare e f).then (compare m n)).swap := by
  have hexponents : compare f e = (compare e f).swap := Std.OrientedCmp.eq_swap
  have hmantissas : compare n m = (compare m n).swap := Std.OrientedCmp.eq_swap
  rw [Ordering.swap_then, hexponents, hmantissas]

lemma compare_swap (a b : UnpackedFloat) : b.compare a = (a.compare b).map Ordering.swap := by
  rcases a with ⟨_ | _⟩ | _ | _ | ⟨_ | _, m, e, _⟩ <;>
    rcases b with ⟨_ | _⟩ | _ | _ | ⟨_ | _, n, f, _⟩ <;>
    first
    | rfl
    | exact congrArg some (compare_then_swap e f m n)
    | exact congrArg (fun o => some o.swap) (compare_then_swap e f m n)

lemma isSome_compare (a b : UnpackedFloat) : (a.compare b).isSome = (!a.isNaN && !b.isNaN) := by
  rcases a with ⟨_ | _⟩ | _ | _ | ⟨_ | _, _, _, _⟩ <;>
    rcases b with ⟨_ | _⟩ | _ | _ | ⟨_ | _, _, _, _⟩ <;> rfl

lemma compare_zero (s t : UnpackedFloat.Sign) (u : UnpackedFloat) :
    (UnpackedFloat.zero s).compare u = (UnpackedFloat.zero t).compare u := by
  rcases u with ⟨_ | _⟩ | _ | _ | ⟨_ | _, _, _, _⟩ <;> rfl

lemma sub_zero_cases (s t : UnpackedFloat.Sign) (u : UnpackedFloat) :
    (UnpackedFloat.zero s).sub .binary64 u = (UnpackedFloat.zero t).sub .binary64 u ∨
      ∃ s' t', (UnpackedFloat.zero s).sub .binary64 u = .zero s' ∧
        (UnpackedFloat.zero t).sub .binary64 u = .zero t' := by
  cases u with
  | infinity _ | notANumber | finite _ _ _ _ => exact Or.inl rfl
  | zero v =>
    right
    cases s <;> cases t <;> cases v <;> exact ⟨_, _, rfl, rfl⟩

end Unpacked

section

variable {x y : Float}

lemma lt_iff : x < y ↔ x.toModel.unpack.compare y.toModel.unpack = some .lt := by
  change decide (x.toModel.unpack.lt y.toModel.unpack = true) = true ↔ _
  rw [decide_eq_true_iff, UnpackedFloat.lt, beq_iff_eq]

lemma le_iff : x ≤ y ↔ ∃ o, x.toModel.unpack.compare y.toModel.unpack = some o ∧ o.isLE := by
  change decide (x.toModel.unpack.le y.toModel.unpack = true) = true ↔ _
  rw [decide_eq_true_iff, UnpackedFloat.le, Option.any_eq_true]

lemma not_lt_iff (hx : x.isNaN = false) (hy : y.isNaN = false) : ¬ x < y ↔ y ≤ x := by
  have hsome := isSome_compare x.toModel.unpack y.toModel.unpack
  have hx' : x.toModel.unpack.isNaN = false := hx
  have hy' : y.toModel.unpack.isNaN = false := hy
  rw [hx', hy'] at hsome
  obtain ⟨o, ho⟩ := Option.isSome_iff_exists.mp hsome
  rw [lt_iff, le_iff, compare_swap x.toModel.unpack, ho]
  cases o <;> simp

lemma isNaN_of_compare {o : Ordering} (h : x.toModel.unpack.compare y.toModel.unpack = some o) :
    x.isNaN = false ∧ y.isNaN = false := by
  have hsome := isSome_compare x.toModel.unpack y.toModel.unpack
  rw [h, Option.isSome_some, eq_comm, Bool.and_eq_true, Bool.not_eq_true',
    Bool.not_eq_true'] at hsome
  exact hsome

lemma isNaN_of_lt (h : x < y) : x.isNaN = false ∧ y.isNaN = false :=
  isNaN_of_compare (lt_iff.mp h)

lemma isNaN_of_le (h : x ≤ y) : x.isNaN = false ∧ y.isNaN = false := by
  obtain ⟨_, ho, _⟩ := le_iff.mp h
  exact isNaN_of_compare ho

lemma not_lt_of_le (h : x ≤ y) : ¬ y < x := by
  obtain ⟨hx, hy⟩ := isNaN_of_le h
  exact (not_lt_iff hy hx).mpr h

end

def Same (x y : Float) : Prop := x = y ∨ (x == y) = true

namespace Same

variable {x y : Float}

lemma cases_zero (h : Same x y) :
    x = y ∨ ∃ s t, x.toModel.unpack = .zero s ∧ y.toModel.unpack = .zero t := by
  rcases h with h | h
  · exact Or.inl h
  · obtain ⟨_, _, h | ⟨rfl, rfl⟩ | ⟨rfl, rfl⟩⟩ := Float.beq_iff_ne_nan_and_eq.mp h
    · exact Or.inl h
    · exact Or.inr ⟨.positive, .negative, rfl, rfl⟩
    · exact Or.inr ⟨.negative, .positive, rfl, rfl⟩

lemma compare_eq (h : Same x y) (z : Float) :
    x.toModel.unpack.compare z.toModel.unpack = y.toModel.unpack.compare z.toModel.unpack := by
  rcases h.cases_zero with rfl | ⟨s, t, hx, hy⟩
  · rfl
  · rw [hx, hy]
    exact compare_zero s t _

lemma lt_iff_lt (h : Same x y) (z : Float) : (x < z ↔ y < z) ∧ (z < x ↔ z < y) := by
  rw [lt_iff, lt_iff, lt_iff, lt_iff, compare_swap x.toModel.unpack, compare_swap y.toModel.unpack,
    h.compare_eq z]
  exact ⟨Iff.rfl, Iff.rfl⟩

lemma le_iff_le (h : Same x y) (z : Float) : (x ≤ z ↔ y ≤ z) ∧ (z ≤ x ↔ z ≤ y) := by
  rw [le_iff, le_iff, le_iff, le_iff, compare_swap x.toModel.unpack, compare_swap y.toModel.unpack,
    h.compare_eq z]
  exact ⟨Iff.rfl, Iff.rfl⟩

lemma abs_sub_eq (h : Same x y) (z : Float) : (x - z).abs = (y - z).abs := by
  rcases h.cases_zero with rfl | ⟨s, t, hx, hy⟩
  · rfl
  · have habs (w : Float) : (w - z).abs =
        .ofModel (Float.Model.abs (.pack (w.toModel.unpack.sub .binary64 z.toModel.unpack))) := rfl
    rw [habs, habs, hx, hy]
    rcases sub_zero_cases s t z.toModel.unpack with hsub | ⟨s', t', hs, ht⟩
    · rw [hsub]
    · rw [hs, ht]
      cases s' <;> cases t' <;> rfl

end Same

end OfferPolicy.Decimal
