import OfferPolicy.Proofs.Decimal.Order
import OfferPolicy.Proofs.Rule.Trace

/-! A decision depends on nothing but the fields that the rules up to the deciding one name. Two
customers alike in these go the same way through the rules, step by step, and stop at the same
one. -/

namespace OfferPolicy

inductive Value.Same : Value → Value → Prop
  | null : Same null null
  | number {a b : Float} : Decimal.Same a b → Same (number a) (number b)
  | text (s : String) : Same (text s) (text s)

lemma Value.same_refl (v : Value) : v.Same v := by
  cases v with
  | null => exact .null
  | number a => exact .number (Or.inl rfl)
  | text s => exact .text s

namespace Operator

lemma compareNumbers_eq {a b : Float} (h : Decimal.Same a b) (op : Operator) (n : Float) :
    op.compareNumbers a n = op.compareNumbers b n := by
  cases op with
  | eq => rw [compareNumbers, compareNumbers, numbersEqual, numbersEqual, h.abs_sub_eq n]
  | ne => rw [compareNumbers, compareNumbers, numbersEqual, numbersEqual, h.abs_sub_eq n]
  | lt => exact decide_eq_decide.mpr (h.lt_iff_lt n).1
  | le => exact decide_eq_decide.mpr (h.le_iff_le n).1
  | gt => exact decide_eq_decide.mpr (h.lt_iff_lt n).2
  | ge => exact decide_eq_decide.mpr (h.le_iff_le n).2

lemma holds_eq {v w : Value} (h : v.Same w) (op : Operator) (l : Value) :
    op.holds v l = op.holds w l := by
  cases h with
  | null | text _ => rfl
  | number h =>
    cases l with
    | number n => exact compareNumbers_eq h op n
    | null | text _ => cases op <;> rfl

end Operator

def Guard.fields : Guard → List Field
  | holds e => e.terms.map Comparison.field
  | always | broken .. => []

def Customer.AlikeIn (fields : List Field) (c c' : Customer) : Prop :=
  ∀ f ∈ fields, (f.value c).Same (f.value c')

variable {c c' : Customer}

lemma Condition.holds_eq {e : Condition} (h : c.AlikeIn (e.terms.map Comparison.field) c') :
    e.holds c = e.holds c' := by
  rw [Bool.eq_iff_iff, holds_iff, holds_iff]
  apply forall₂_congr
  intro t ht
  rw [Comparison.holds, Comparison.holds,
    Operator.holds_eq (h t.field (List.mem_map_of_mem ht)) t.op t.literal.value]

lemma Guard.status_eq {g : Guard} (h : c.AlikeIn g.fields c') : g.status c = g.status c' := by
  cases g with
  | always | broken _ _ => rfl
  | holds e => rw [status, status, Condition.holds_eq h]

lemma Guard.accepts_iff_status (c : Customer) (g : Guard) :
    g.Accepts c ↔ g.status c = .matched := by
  constructor
  · exact status_of_accepts
  · intro h
    by_contra hnot
    exact (declines_status hnot).ne_matched h

namespace Rules

/-- The rules tried where rule `k` decides; all of them where none does. -/
def tried (rules : Rules) : Option Nat → Rules
  | some k => rules.take (k + 1)
  | none => rules

lemma FirstAccepting.of_accepts {r : Rule} {rules : Rules} {k : Option Nat}
    (h : FirstAccepting (r :: rules) c k) (hr : r.guard.Accepts c) : k = some 0 := by
  cases k with
  | none => exact (h r (List.mem_cons_self ..) hr).elim
  | some k =>
    cases k with
    | zero => rfl
    | succ k => exact (h.2 0 (Nat.succ_pos k) r rfl hr).elim

lemma FirstAccepting.of_declines {r : Rule} {rules : Rules} {k : Option Nat}
    (h : FirstAccepting (r :: rules) c k) (hr : ¬ r.guard.Accepts c) :
    ∃ j, k = j.map (· + 1) ∧ rules.FirstAccepting c j := by
  cases k with
  | none => exact ⟨none, rfl, fun s hs => h s (List.mem_cons_of_mem r hs)⟩
  | some k =>
    obtain ⟨⟨s, hs, hac⟩, hlt⟩ := h
    cases k with
    | zero =>
      cases hs
      exact (hr hac).elim
    | succ k => exact ⟨some k, rfl, ⟨s, hs, hac⟩, fun i hi => hlt (i + 1) (Nat.succ_lt_succ hi)⟩

lemma tried_cons (r : Rule) (rules : Rules) (k : Option Nat) :
    tried (r :: rules) (k.map (· + 1)) = r :: rules.tried k := by
  cases k <;> rfl

lemma mem_tried_head {r : Rule} {rules : Rules} {k : Option Nat} : r ∈ tried (r :: rules) k := by
  cases k with
  | none => exact List.mem_cons_self ..
  | some k => exact List.mem_cons_self ..

end Rules

lemma Trace.runFrom_eq {rules : Rules} {k : Option Nat} (hk : rules.FirstAccepting c k)
    (h : ∀ r ∈ rules.tried k, r.guard.status c = r.guard.status c') (index : Nat) :
    runFrom c index rules = runFrom c' index rules ∧ rules.FirstAccepting c' k := by
  induction rules generalizing k index with
  | nil =>
    cases k with
    | none => exact ⟨rfl, fun r hr => (List.not_mem_nil hr).elim⟩
    | some k =>
      obtain ⟨⟨r, hr, _⟩, _⟩ := hk
      cases hr
  | cons r rules ih =>
    have hhead := h r Rules.mem_tried_head
    by_cases hr : r.guard.Accepts c
    · have hmatched := (r.guard.accepts_iff_status c).mp hr
      have hmatched' := hhead.symm.trans hmatched
      rw [hk.of_accepts hr]
      refine ⟨?_, Rules.firstAccepting_zero rules ((r.guard.accepts_iff_status c').mpr hmatched')⟩
      simp only [runFrom, hmatched, hmatched']
    · have hr' : ¬ r.guard.Accepts c' := by
        rwa [Guard.accepts_iff_status, ← hhead, ← Guard.accepts_iff_status]
      obtain ⟨j, rfl, hj⟩ := hk.of_declines hr
      rw [Rules.tried_cons] at h
      obtain ⟨hrun, hj'⟩ := ih hj (fun q hq => h q (List.mem_cons_of_mem r hq)) (index + 1)
      rw [runFrom_cons_of_declines index rules hr, runFrom_cons_of_declines index rules hr', hrun,
        hhead]
      exact ⟨rfl, hj'.cons hr'⟩

namespace Rules

lemma trace_eq_of_status_eq {rules : Rules} {k : Option Nat} (hk : rules.FirstAccepting c k)
    (h : ∀ r ∈ rules.tried k, r.guard.status c = r.guard.status c') :
    rules.decide c = rules.decide c' ∧ rules.trace c = rules.trace c' ∧
      rules.FirstAccepting c' k := by
  obtain ⟨hrun, hk'⟩ := Trace.runFrom_eq hk h 0
  have htrace : rules.trace c = rules.trace c' := hrun
  refine ⟨?_, htrace, hk'⟩
  rw [← Trace.offer_trace, ← Trace.offer_trace, htrace]

/-- Customers with the same values in the fields named up to the rule that decides for one of them
are decided on alike, by the same rule and with the same trace. Who they are and what else is known
of them plays no part. -/
theorem decide_depends_on_tried (rules : Rules) {k : Option Nat} (hk : rules.FirstAccepting c k) :
    (∀ c', (∀ r ∈ rules.tried k, c.AlikeIn r.guard.fields c') →
        rules.decide c = rules.decide c' ∧ rules.trace c = rules.trace c' ∧
          rules.FirstAccepting c' k) ∧
      ∀ id extra, rules.decide c = rules.decide { c with id := id, extra := extra } ∧
        rules.trace c = rules.trace { c with id := id, extra := extra } := by
  constructor
  · intro c' h
    exact trace_eq_of_status_eq hk fun r hr => Guard.status_eq (h r hr)
  · intro id extra
    have hother : ∀ r ∈ rules.tried k,
        r.guard.status c = r.guard.status { c with id := id, extra := extra } := by
      intro r _
      apply Guard.status_eq
      intro f _
      have hvalue : f.value { c with id := id, extra := extra } = f.value c := by cases f <;> rfl
      rw [hvalue]
      exact Value.same_refl _
    obtain ⟨hdecide, htrace, _⟩ := trace_eq_of_status_eq hk hother
    exact ⟨hdecide, htrace⟩

theorem decide_depends_on_tried_unscored :
    FirstAccepting [⟨.holds ⟨[⟨.churnScore, .eq, .null, by decide⟩], by decide⟩, .noOffer, none⟩,
        ⟨.holds ⟨[⟨.tenure, .ne, .null, by decide⟩], by decide⟩, .big, none⟩] default (some 0) ∧
      decide [⟨.holds ⟨[⟨.churnScore, .eq, .null, by decide⟩], by decide⟩, .noOffer, none⟩,
          ⟨.holds ⟨[⟨.tenure, .ne, .null, by decide⟩], by decide⟩, .big, none⟩] default =
        decide [⟨.holds ⟨[⟨.churnScore, .eq, .null, by decide⟩], by decide⟩, .noOffer, none⟩,
          ⟨.holds ⟨[⟨.tenure, .ne, .null, by decide⟩], by decide⟩, .big, none⟩]
          { tenure := some 12 } := by
  have hk := firstAccepting_zero (c := default)
    (r := ⟨.holds ⟨[⟨.churnScore, .eq, .null, by decide⟩], by decide⟩, .noOffer, none⟩)
    [⟨.holds ⟨[⟨.tenure, .ne, .null, by decide⟩], by decide⟩, .big, none⟩] (.holds rfl)
  refine ⟨hk, ((decide_depends_on_tried _ hk).1 { tenure := some 12 } ?_).1⟩
  intro r hr f hf
  rw [List.mem_singleton.mp hr] at hf
  rw [List.mem_singleton.mp hf]
  exact .null

end Rules

end OfferPolicy
