import OfferPolicy.Proofs.Condition.WellTyped
import OfferPolicy.Proofs.Decimal.Order
import OfferPolicy.Proofs.Rule.Trace

/-! What is not known of a customer. A comparison of a missing field holds only where it asks for
just that, and of two opposite comparisons of a field that is there, exactly one holds. So a rule
that applies asks of a missing field nothing but whether it is missing. -/

namespace OfferPolicy

lemma Customer.lacks_iff (c : Customer) (f : Field) : c.lacks f ↔ f.value c = .null := by
  constructor
  · intro h
    cases f <;> simp only [lacks] at h <;> simp only [Field.value, h] <;> rfl
  · intro h
    have hshows := f.shows_value c
    rw [h] at hshows
    cases hshows with
    | missing hlacks => exact hlacks

namespace Comparison

def AsksMissing (t : Comparison) : Prop := t.op = .eq ∧ t.literal = .null

lemma holds_iff_of_lacks {t : Comparison} {c : Customer} (h : c.lacks t.field) :
    t.holds c = true ↔ t.AsksMissing := by
  obtain ⟨f, op, l, hfits⟩ := t
  have hvalue : f.value c = .null := (c.lacks_iff f).mp h
  rw [holds, hvalue, AsksMissing]
  cases l with
  | null => cases op <;> simp [Literal.value, Operator.holds, Operator.compareNull, Value.isNull]
  | number _ | text _ => simp [Literal.value, Operator.holds]

end Comparison

namespace Operator

lemma holds_null {v : Value} (h : v ≠ .null) :
    eq.holds v .null = false ∧ ne.holds v .null = true := by
  cases v with
  | null => exact (h rfl).elim
  | number _ | text _ => exact ⟨rfl, rfl⟩

lemma holds_ne {v w : Value} (h : v.unlike w = false) : ne.holds v w = !eq.holds v w := by
  cases v <;> cases w <;> first | rfl | cases h

variable {x n : Float} (hx : x.isNaN = false) (hn : n.isNaN = false)

include hx hn

lemma compareNumbers_ge : ge.compareNumbers x n = !lt.compareNumbers x n := by
  rw [compareNumbers, compareNumbers, ← decide_not]
  exact decide_eq_decide.mpr (Decimal.not_lt_iff hx hn).symm

lemma compareNumbers_gt : gt.compareNumbers x n = !le.compareNumbers x n := by
  rw [compareNumbers, compareNumbers, ← decide_not]
  exact decide_eq_decide.mpr (by rw [← Decimal.not_lt_iff hn hx, not_not])

end Operator

open Comparison (AsksMissing)

structure Field.Compares (f : Field) (c : Customer) : Prop where
  eq_null : Comparison.holds ⟨f, .eq, .null, rfl⟩ c = false
  ne_null : Comparison.holds ⟨f, .ne, .null, rfl⟩ c = true
  ne : ∀ l h h', Comparison.holds ⟨f, .ne, l, h'⟩ c = !Comparison.holds ⟨f, .eq, l, h⟩ c
  ge : ∀ x n h, f.value c = .number x → x.isNaN = false → n.isNaN = false →
    Comparison.holds ⟨f, .ge, .number n, h⟩ c = !Comparison.holds ⟨f, .lt, .number n, h⟩ c
  gt : ∀ x n h, f.value c = .number x → x.isNaN = false → n.isNaN = false →
    Comparison.holds ⟨f, .gt, .number n, h⟩ c = !Comparison.holds ⟨f, .le, .number n, h⟩ c

lemma Field.compares_of_not_lacks {f : Field} {c : Customer} (h : ¬ c.lacks f) : f.Compares c := by
  have hvalue : f.value c ≠ .null := mt (c.lacks_iff f).mpr h
  obtain ⟨heq, hne⟩ := Operator.holds_null hvalue
  refine ⟨heq, hne, fun l hl hl' => Operator.holds_ne ?_, fun x n hf hv hx hn => ?_,
    fun x n hf hv hx hn => ?_⟩
  · have hevaluable := Comparison.isEvaluable_of_wellTyped (t := ⟨f, .eq, l, hl⟩)
      (fits_iff_wellTyped.mp hl) c
    exact eq_false_of_ne_true fun hunlike => h (hevaluable.of_unlike hunlike).1
  · rw [Comparison.holds, Comparison.holds, hv]
    exact Operator.compareNumbers_ge hx hn
  · rw [Comparison.holds, Comparison.holds, hv]
    exact Operator.compareNumbers_gt hx hn

instance (t : Comparison) : Decidable t.AsksMissing :=
  decidable_of_iff (t.op = .eq ∧ t.literal.value.isNull = true) <| by
    rw [AsksMissing]
    cases t.literal <;> simp [Literal.value, Value.isNull]

def Guard.takesUnknown : Guard → Bool
  | always => true
  | holds e => e.terms.all fun t => decide t.AsksMissing
  | broken .. => false

section Unknown

variable {c : Customer}

lemma Condition.holds_of_unknown (h : ∀ f, c.lacks f) (e : Condition) :
    e.holds c = e.terms.all fun t => decide t.AsksMissing := by
  rw [holds]
  congr 1
  funext t
  rw [Bool.eq_iff_iff, Comparison.holds_iff_of_lacks (h t.field), decide_eq_true_iff]

lemma Rule.applies_of_unknown (h : ∀ f, c.lacks f) (r : Rule) :
    r.applies c = r.guard.takesUnknown := by
  rw [applies]
  cases r.guard with
  | always | broken _ _ => rfl
  | holds e => exact Condition.holds_of_unknown h e

lemma Rules.decide_of_unknown (h : ∀ f, c.lacks f) (rules : Rules) :
    rules.decide c = ((rules.find? (·.guard.takesUnknown)).map Rule.offer).getD .noOffer := by
  have happlies : (fun r : Rule => r.applies c) = fun r => r.guard.takesUnknown :=
    funext (Rule.applies_of_unknown h)
  rw [decide, happlies]
  cases rules.find? (·.guard.takesUnknown) <;> rfl

lemma Rule.asksMissing_of_applies {r : Rule} {e : Condition} (hr : r.applies c = true)
    (he : r.guard = .holds e) : ∀ t ∈ e.terms, c.lacks t.field → t.AsksMissing := by
  rw [applies, he] at hr
  intro t ht hlacks
  exact (Comparison.holds_iff_of_lacks hlacks).mp (Condition.holds_iff.mp hr t ht)

end Unknown

/-- What is missing is missing and nothing else, and what is there is one thing or the other. Of a
customer of whom nothing is known, the first rule decides that asks for nothing else. -/
theorem Rules.decide_missing (c : Customer) :
    (∀ t : Comparison, c.lacks t.field → (t.holds c = true ↔ t.AsksMissing)) ∧
      (∀ f : Field, ¬ c.lacks f → f.Compares c) ∧
      (∀ (r : Rule) (e : Condition), r.applies c = true → r.guard = .holds e →
        ∀ t ∈ e.terms, c.lacks t.field → t.AsksMissing) ∧
      ((∀ f, c.lacks f) → ∀ rules : Rules,
        rules.decide c = ((rules.find? (·.guard.takesUnknown)).map Rule.offer).getD .noOffer) :=
  ⟨fun _ => Comparison.holds_iff_of_lacks, fun _ => Field.compares_of_not_lacks,
    fun _ _ => Rule.asksMissing_of_applies, Rules.decide_of_unknown⟩

theorem Rules.decide_missing_unscored_newcomer :
    Customer.lacks { tenure := some 3 } .churnScore ∧
      ¬ Customer.lacks { tenure := some 3 } .tenure ∧
      Comparison.holds ⟨.churnScore, .ne, .number 1, rfl⟩ { tenure := some 3 } = false ∧
      Comparison.holds ⟨.tenure, .ge, .number 3, rfl⟩ { tenure := some 3 } =
        (!Comparison.holds ⟨.tenure, .lt, .number 3, rfl⟩ { tenure := some 3 }) ∧
      Comparison.AsksMissing ⟨.churnScore, .eq, .null, rfl⟩ ∧
      decide [
        ⟨.holds ⟨[⟨.churnScore, .eq, .null, rfl⟩, ⟨.tenure, .lt, .number 12, rfl⟩],
          List.cons_ne_nil _ _⟩, .big, none⟩,
        ⟨.holds ⟨[⟨.contract, .eq, .null, rfl⟩], List.cons_ne_nil _ _⟩, .small, none⟩] {} =
          .small := by
  obtain ⟨hmissing, hthere, hrule, -⟩ := decide_missing { tenure := some 3 }
  have hlacks : Customer.lacks { tenure := some 3 } .churnScore := rfl
  have hshows : ¬ Customer.lacks { tenure := some 3 } .tenure := nofun
  have hnumber : (3 : Float).isNaN = false := by decide +kernel
  have hterm := hmissing ⟨.churnScore, .ne, .number 1, rfl⟩ hlacks
  have happlies : Rule.applies
      ⟨.holds ⟨[⟨.churnScore, .eq, .null, rfl⟩, ⟨.tenure, .lt, .number 12, rfl⟩],
        List.cons_ne_nil _ _⟩, .big, none⟩ { tenure := some 3 } = true := by decide +kernel
  refine ⟨hlacks, hshows, eq_false_of_ne_true (mt hterm.mp nofun),
    (hthere .tenure hshows).ge 3 3 rfl rfl hnumber hnumber,
    hrule _ _ happlies rfl _ (List.mem_cons_self ..) hlacks, ?_⟩
  have hnothing : ∀ f, Customer.lacks {} f := by
    intro f
    cases f <;> rfl
  rw [(decide_missing {}).2.2.2 hnothing]
  decide +kernel

end OfferPolicy
