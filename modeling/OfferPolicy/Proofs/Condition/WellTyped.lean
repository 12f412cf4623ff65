import Mathlib.Data.Set.List
import OfferPolicy.Condition.Eval
import OfferPolicy.Condition.Form
import OfferPolicy.Proofs.Condition.Compile
import OfferPolicy.Proofs.Tree.Reading

namespace OfferPolicy

open Condition (IsTerm Joined)
open OfferPolicy.Tree
open Text (trim)

lemma Operator.isOrdering_eq_false_iff {op : Operator} :
    op.isOrdering = false ↔ op = .eq ∨ op = .ne := by
  cases op <;> simp [isOrdering]

structure WellTyped (f : Field) (op : Operator) (l : Literal) : Prop where
  text : f.isText = true → (op = .eq ∨ op = .ne) ∧ ((∃ s, l = .text s) ∨ l = .null)
  numeric : f.isText = false → (∃ n, l = .number n) ∨ (l = .null ∧ (op = .eq ∨ op = .ne))

def WellTypedTerms (ps : List (Field × Operator × Literal)) : Prop :=
  ps ≠ [] ∧ ∀ p ∈ ps, WellTyped p.1 p.2.1 p.2.2

lemma fits_iff_wellTyped {f : Field} {op : Operator} {l : Literal} :
    Fits f op l ↔ WellTyped f op l := by
  constructor
  · intro h
    cases l with
    | null =>
      have hop := Operator.isOrdering_eq_false_iff.mp h
      exact ⟨fun _ => ⟨hop, Or.inr rfl⟩, fun _ => Or.inr ⟨rfl, hop⟩⟩
    | number n =>
      have hf : f.isText = false := h
      exact ⟨fun ht => by simp [hf] at ht, fun _ => Or.inl ⟨n, rfl⟩⟩
    | text s =>
      obtain ⟨hf, hop⟩ := h
      refine ⟨fun _ => ⟨Operator.isOrdering_eq_false_iff.mp hop, Or.inl ⟨s, rfl⟩⟩, fun hn => ?_⟩
      simp [hf] at hn
  · intro h
    cases hf : f.isText with
    | true =>
      obtain ⟨hop, ⟨s, rfl⟩ | rfl⟩ := h.text hf
      · exact ⟨hf, Operator.isOrdering_eq_false_iff.mpr hop⟩
      · exact Operator.isOrdering_eq_false_iff.mpr hop
    | false =>
      obtain ⟨n, rfl⟩ | ⟨rfl, hop⟩ := h.numeric hf
      · exact hf
      · exact Operator.isOrdering_eq_false_iff.mpr hop

def Value.unlike : Value → Value → Bool
  | _, .null | .number _, .number _ | .text _, .text _ => false
  | _, _ => true

lemma Operator.holds_of_unlike (op : Operator) {left right : Value}
    (h : left.unlike right = true) : op.holds left right = false := by
  cases left <;> cases right <;> first | rfl | cases h

def Customer.lacks (c : Customer) : Field → Prop
  | .churnScore => c.churnScore = none
  | .monthlyCharges => c.monthlyCharges = none
  | .tenure => c.tenure = none
  | .segment => c.segment = none
  | .contract => c.contract = none

inductive Field.Shows (c : Customer) (f : Field) : Value → Prop
  | missing : c.lacks f → Shows c f .null
  | number (n : Float) : f.isText = false → Shows c f (.number n)
  | text (s : String) : f.isText = true → Shows c f (.text s)

lemma Field.shows_value (c : Customer) (f : Field) : f.Shows c (f.value c) := by
  have hnumber : ∀ n : Option Float, f.isText = false → (n = none → c.lacks f) →
      f.Shows c (.ofNumber? n) := by
    rintro (_ | n) hf hlacks
    · exact .missing (hlacks rfl)
    · exact .number n hf
  have htext : ∀ s : Option String, f.isText = true → (s = none → c.lacks f) →
      f.Shows c (.ofText? s) := by
    rintro (_ | s) hf hlacks
    · exact .missing (hlacks rfl)
    · exact .text s hf
  cases f with
  | churnScore | monthlyCharges | tenure => exact hnumber _ rfl id
  | segment => exact htext _ rfl Option.map_eq_none_iff.mp
  | contract => exact htext _ rfl id

namespace Comparison

lemma exists_parts_eq_iff {f : Field} {op : Operator} {l : Literal} :
    (∃ t : Comparison, t.parts = (f, op, l)) ↔ WellTyped f op l := by
  rw [← fits_iff_wellTyped]
  constructor
  · rintro ⟨t, ⟨⟩⟩
    exact t.fits
  · exact fun h => ⟨⟨f, op, l, h⟩, rfl⟩

lemma exists_make_iff {f : Field} {op : Operator} {l : Literal} :
    (∃ t : Comparison, make f op l = .ok t ∧ t.parts = (f, op, l)) ↔ WellTyped f op l := by
  rw [← exists_parts_eq_iff]
  refine exists_congr fun t => and_iff_right_iff_imp.mpr fun ht => ?_
  exact Condition.make_eq_ok_iff.mpr ht.symm

lemma agree_ofTree (context : Context) : Agree (ofTree context) (partsOfTree context) parts := by
  intro t c
  rw [ofTree, bind_eq_ok]
  constructor
  · rintro ⟨⟨f, op, l⟩, hp, h⟩
    simp only at h
    split at h
    · next hmake =>
      cases h
      have hparts : (f, op, l) = c.parts := Condition.make_eq_ok_iff.mp hmake
      rw [hp, hparts]
    · cases h
  · intro h
    have hmake : make c.field c.op c.literal = .ok c := make_eq_ok c.fits
    exact ⟨c.parts, h, by simp [parts, hmake]⟩

lemma exists_ofTree_iff {context : Context} {u : Tree} {p : Field × Operator × Literal} :
    (∃ t, ofTree context u = .ok t ∧ t.parts = p) ↔
      partsOfTree context u = .ok p ∧ WellTyped p.1 p.2.1 p.2.2 := by
  rw [(agree_ofTree context).exists_read_iff, ← exists_parts_eq_iff]

structure IsEvaluable (t : Comparison) (c : Customer) : Prop where
  of_null : t.literal.value = .null → t.op.isOrdering = false
  of_texts : ∀ a b, t.field.value c = .text a → t.literal.value = .text b → t.op.isOrdering = false
  of_unlike : (t.field.value c).unlike t.literal.value = true →
    c.lacks t.field ∧ t.holds c = false

lemma isEvaluable_of_wellTyped {t : Comparison} (h : WellTyped t.field t.op t.literal)
    (c : Customer) : t.IsEvaluable c := by
  have hshows := Field.shows_value c t.field
  refine ⟨fun hnull => ?_, fun a b htext _ => ?_, fun hunlike => ?_⟩
  · have hfit := fits_iff_wellTyped.mpr h
    cases hl : t.literal with
    | null => rwa [hl] at hfit
    | number _ | text _ => simp [hl, Literal.value] at hnull
  · rw [htext] at hshows
    cases hshows with
    | text _ hf => exact Operator.isOrdering_eq_false_iff.mpr (h.text hf).1
  · refine ⟨?_, t.op.holds_of_unlike hunlike⟩
    generalize t.field.value c = v at hshows hunlike
    cases hshows with
    | missing hlacks => exact hlacks
    | number n hf =>
      obtain ⟨m, hl⟩ | ⟨hl, _⟩ := h.numeric hf <;> simp [hl, Literal.value, Value.unlike] at hunlike
    | text s hf =>
      obtain ⟨_, ⟨u, hl⟩ | hl⟩ := h.text hf <;> simp [hl, Literal.value, Value.unlike] at hunlike

end Comparison

namespace Condition

def parts (e : Condition) : List (Field × Operator × Literal) :=
  e.terms.map Comparison.parts

def partsOfTree (context : Context) :
    Tree → Except Mismatch (List (Field × Operator × Literal)) :=
  asRow ["terms"] (·.required "terms" (asListOf (Comparison.partsOfTree context)))

lemma exists_parts_eq_iff {ps : List (Field × Operator × Literal)} :
    (∃ e : Condition, e.parts = ps) ↔ WellTypedTerms ps := by
  simp only [WellTypedTerms, ← Comparison.exists_parts_eq_iff]
  constructor
  · rintro ⟨e, rfl⟩
    exact ⟨by simp [parts, e.nonempty], List.forall_mem_map.mpr fun t _ => ⟨t, rfl⟩⟩
  · rintro ⟨hne, h⟩
    have hmem : ps ∈ Set.range (List.map Comparison.parts) := by
      rw [Set.range_list_map]
      exact h
    obtain ⟨terms, rfl⟩ := hmem
    exact ⟨⟨terms, by simpa using hne⟩, rfl⟩

lemma ofTerms?_eq_some_iff {terms : List Comparison} {e : Condition} :
    ofTerms? terms = some e ↔ terms = e.terms := by
  rw [ofTerms?]
  constructor
  · intro h
    split at h
    · cases h
    · cases h
      rfl
  · rintro rfl
    exact dif_neg e.nonempty

lemma agree_ofTree (context : Context) : Agree (ofTree context) (partsOfTree context) parts := by
  have hterms := ((Comparison.agree_ofTree context).asListOf.required "terms").asRow ["terms"]
  intro t e
  rw [ofTree, bind_eq_ok, partsOfTree, parts, ← hterms]
  constructor
  · rintro ⟨terms, ht, h⟩
    split at h
    · next hsome =>
      cases h
      rw [ht, ofTerms?_eq_some_iff.mp hsome]
    · cases h
  · intro h
    exact ⟨e.terms, h, by rw [ofTerms?_eq_some_iff.mpr rfl]⟩

lemma exists_ofTree_iff {context : Context} {u : Tree} {ps : List (Field × Operator × Literal)} :
    (∃ e, ofTree context u = .ok e ∧ e.parts = ps) ↔
      partsOfTree context u = .ok ps ∧ WellTypedTerms ps := by
  rw [(agree_ofTree context).exists_read_iff, exists_parts_eq_iff]

lemma exists_compile_iff {s : String} {ps : List (Field × Operator × Literal)} :
    (∃ e, compile s = .ok e ∧ e.parts = ps) ↔
      Joined IsTerm (trim s.toList) ps ∧ WellTypedTerms ps := by
  rw [← exists_parts_eq_iff]
  constructor
  · rintro ⟨e, he, rfl⟩
    exact ⟨compileChars_eq_ok_iff.mp he, e, rfl⟩
  · rintro ⟨hj, e, rfl⟩
    exact ⟨e, compileChars_eq_ok_iff.mpr hj, rfl⟩

end Condition

end OfferPolicy
