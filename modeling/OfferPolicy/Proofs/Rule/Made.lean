import OfferPolicy.Proofs.Condition.WellTyped
import OfferPolicy.Proofs.Policy.Numbers
import OfferPolicy.Proofs.Policy.RoundTrip
import OfferPolicy.Rule.Form

namespace OfferPolicy

open OfferPolicy.Tree
open Condition (IsTerm Joined)
open Text (trim)

def Guard.StatesTerms (context : Context) (t : Tree) (ps : List (Field × Operator × Literal)) :
    Prop :=
  ∃ u, asVariant t = .ok ("compiled", some u) ∧ Condition.partsOfTree context u = .ok ps

inductive Rule.StatesTerms (t : Tree) (ps : List (Field × Operator × Literal)) : Prop
  | mk {body u : Tree} {row : Row} {offer : Label} {line : Option Nat} :
      kindOf t = .ok ("conditional", body) → body.IsRow ["condition", "result", "line"] row →
        row.get? "condition" = some u → Guard.StatesTerms .untyped u ps →
          row.required "result" Label.ofTree = .ok offer →
            row.optional "line" asCount = .ok line → StatesTerms t ps

namespace Guard

variable {context : Context} {t : Tree}

lemma ofConditionTree_eq_holds_iff {e : Condition} : ofConditionTree context t = .ok (.holds e) ↔
    ∃ u, asVariant t = .ok ("compiled", some u) ∧ Condition.ofTree context u = .ok e := by
  constructor
  · intro h
    obtain ⟨variant, hvariant, h⟩ := bind_eq_ok.mp h
    split at h
    · obtain ⟨e', he, h⟩ := bind_eq_ok.mp h
      cases h
      exact ⟨_, hvariant, he⟩
    · split at h
      · obtain ⟨row, _, h⟩ := asRow_eq_ok_iff.mp h
        obtain ⟨source, _, h⟩ := bind_eq_ok.mp h
        obtain ⟨reason, _, h⟩ := bind_eq_ok.mp h
        cases h
      · cases h
    · cases h
  · rintro ⟨u, hvariant, hu⟩
    exact bind_eq_ok.mpr ⟨_, hvariant, bind_eq_ok.mpr ⟨e, hu, rfl⟩⟩

lemma exists_holds_iff {ps : List (Field × Operator × Literal)} :
    (∃ e, ofConditionTree context t = .ok (.holds e) ∧ e.parts = ps) ↔
      StatesTerms context t ps ∧ WellTypedTerms ps := by
  constructor
  · rintro ⟨e, h, hparts⟩
    obtain ⟨u, hvariant, hu⟩ := ofConditionTree_eq_holds_iff.mp h
    obtain ⟨hraw, hps⟩ := Condition.exists_ofTree_iff.mp ⟨e, hu, hparts⟩
    exact ⟨⟨u, hvariant, hraw⟩, hps⟩
  · rintro ⟨⟨u, hvariant, hraw⟩, hps⟩
    obtain ⟨e, hu, hparts⟩ := Condition.exists_ofTree_iff.mpr ⟨hraw, hps⟩
    exact ⟨e, ofConditionTree_eq_holds_iff.mpr ⟨u, hvariant, hu⟩, hparts⟩

end Guard

namespace Rule

variable {r : Rule} {e : Condition}

lemma exists_ofTree_iff {t : Tree} {ps : List (Field × Operator × Literal)} :
    (∃ r e, ofTree t = .ok r ∧ r.guard = .holds e ∧ e.parts = ps) ↔
      StatesTerms t ps ∧ WellTypedTerms ps := by
  constructor
  · rintro ⟨r, e, h, he, hparts⟩
    obtain ⟨kind, hkind, h⟩ := bind_eq_ok.mp h
    split at h
    · obtain ⟨row, hrow, h⟩ := asRow_eq_ok_iff.mp h
      obtain ⟨guard, hguard, h⟩ := bind_eq_ok.mp h
      obtain ⟨offer, hoffer, h⟩ := bind_eq_ok.mp h
      obtain ⟨line, hline, h⟩ := bind_eq_ok.mp h
      cases h
      obtain ⟨u, hu, hread⟩ := required_eq_ok_iff.mp hguard
      have hholds := hread.trans (congrArg Except.ok he)
      obtain ⟨hstates, hps⟩ := Guard.exists_holds_iff.mp ⟨e, hholds, hparts⟩
      exact ⟨.mk hkind hrow hu hstates hoffer hline, hps⟩
    · obtain ⟨row, _, h⟩ := asRow_eq_ok_iff.mp h
      obtain ⟨offer, _, h⟩ := bind_eq_ok.mp h
      obtain ⟨line, _, h⟩ := bind_eq_ok.mp h
      cases h
      cases he
    · cases h
  · rintro ⟨@⟨_, _, _, offer, line, hkind, hrow, hu, hstates, hoffer, hline⟩, hps⟩
    obtain ⟨e, hread, hparts⟩ := Guard.exists_holds_iff.mpr ⟨hstates, hps⟩
    have hguard := required_eq_ok_iff.mpr ⟨_, hu, hread⟩
    refine ⟨⟨.holds e, offer, line⟩, e, ?_, rfl, hparts⟩
    refine bind_eq_ok.mpr ⟨_, hkind, asRow_eq_ok_iff.mpr ⟨_, hrow, ?_⟩⟩
    exact bind_eq_ok.mpr ⟨_, hguard, bind_eq_ok.mpr ⟨_, hoffer, bind_eq_ok.mpr ⟨_, hline, rfl⟩⟩⟩

lemma exists_of_ofLine? {l : Line} (h : ofLine? l = some r) (he : r.guard = .holds e) :
    ∃ s, Condition.compile s = .ok e := by
  cases (statedBy_of_ofLine? h).2 with
  | conditional _ hg =>
    cases hg with
    | holds hs =>
      cases he
      exact ⟨_, hs⟩
    | broken _ => cases he
  | fallback _ => cases he

end Rule

inductive Condition.Made : Condition → Prop
  | terms {ps : List (Field × Operator × Literal)} {terms : List Comparison} {e : Condition} :
      List.Forall₂ (fun p t => Comparison.make p.1 p.2.1 p.2.2 = .ok t) ps terms →
        ofTerms? terms = some e → Made e
  | tree {context : Context} {t : Tree} {e : Condition} : ofTree context t = .ok e → Made e
  | guardTree {context : Context} {t : Tree} {e : Condition} :
      Guard.ofConditionTree context t = .ok (.holds e) → Made e
  | ruleTree {t : Tree} {r : Rule} {e : Condition} :
      Rule.ofTree t = .ok r → r.guard = .holds e → Made e
  | rulesTree {t : Tree} {rules : Rules} {r : Rule} {e : Condition} :
      Rules.ofTree t = .ok rules → r ∈ rules → r.guard = .holds e → Made e
  | text {s : String} {e : Condition} : compile s = .ok e → Made e
  | policy {s : String} {r : Rule} {e : Condition} :
      r ∈ Rules.ofText s → r.guard = .holds e → Made e

inductive Comparison.Made : Comparison → Prop
  | parts {f : Field} {op : Operator} {l : Literal} {t : Comparison} : make f op l = .ok t → Made t
  | tree {context : Context} {u : Tree} {t : Comparison} : ofTree context u = .ok t → Made t
  | term {e : Condition} {t : Comparison} : e.Made → t ∈ e.terms → Made t

lemma Condition.Made.wellTypedTerms {e : Condition} (h : e.Made) : WellTypedTerms e.parts := by
  cases h with
  | terms _ _ => exact exists_parts_eq_iff.mp ⟨e, rfl⟩
  | tree h => exact (exists_ofTree_iff.mp ⟨e, h, rfl⟩).2
  | guardTree h => exact (Guard.exists_holds_iff.mp ⟨e, h, rfl⟩).2
  | ruleTree h he => exact (Rule.exists_ofTree_iff.mp ⟨_, e, h, he, rfl⟩).2
  | rulesTree h hr he =>
    obtain ⟨ts, _, hts⟩ := asListOf_eq_ok_iff.mp h
    obtain ⟨t, _, ht⟩ := exists_of_mem_mapM hts _ hr
    exact (Rule.exists_ofTree_iff.mp ⟨_, e, ht, he, rfl⟩).2
  | text h => exact (exists_compile_iff.mp ⟨e, h, rfl⟩).2
  | policy h he =>
    obtain ⟨l, _, hl⟩ := Rules.exists_line_of_mem_ofText h
    obtain ⟨s, hs⟩ := Rule.exists_of_ofLine? hl he
    exact (exists_compile_iff.mp ⟨e, hs, rfl⟩).2

lemma Comparison.Made.wellTyped {t : Comparison} (h : t.Made) :
    WellTyped t.field t.op t.literal := by
  cases h with
  | @parts f op l _ h =>
    have hparts : (f, op, l) = t.parts := Condition.make_eq_ok_iff.mp h
    cases hparts
    exact exists_make_iff.mp ⟨t, h, rfl⟩
  | tree h => exact (exists_ofTree_iff.mp ⟨t, h, rfl⟩).2
  | term he ht => exact he.wellTypedTerms.2 _ (List.mem_map_of_mem ht)

structure Condition.ChecksTerms : Prop where
  make : ∀ f op l, (∃ t, Comparison.make f op l = .ok t ∧ t.parts = (f, op, l)) ↔
    WellTyped f op l
  comparison : ∀ context u p, (∃ t, Comparison.ofTree context u = .ok t ∧ t.parts = p) ↔
    Comparison.partsOfTree context u = .ok p ∧ WellTyped p.1 p.2.1 p.2.2
  condition : ∀ context u ps, (∃ e, ofTree context u = .ok e ∧ e.parts = ps) ↔
    partsOfTree context u = .ok ps ∧ WellTypedTerms ps
  guard : ∀ context u ps,
    (∃ e, Guard.ofConditionTree context u = .ok (.holds e) ∧ e.parts = ps) ↔
      Guard.StatesTerms context u ps ∧ WellTypedTerms ps
  rule : ∀ u ps, (∃ r e, Rule.ofTree u = .ok r ∧ r.guard = .holds e ∧ e.parts = ps) ↔
    Rule.StatesTerms u ps ∧ WellTypedTerms ps
  text : ∀ s ps, (∃ e, compile s = .ok e ∧ e.parts = ps) ↔
    Joined IsTerm (trim s.toList) ps ∧ WellTypedTerms ps

/-- A comparison is made of parts that go together and of no others, and a condition of one such
comparison or more, whichever way it is made. So no comparison that is evaluated asks for an order
with `null` or between texts, and only a missing field is unlike what it is compared with. -/
theorem Comparison.wellTyped_of_made :
    Condition.ChecksTerms ∧ (∀ e : Condition, e.Made → e.terms ≠ []) ∧
    ∀ t : Comparison, t.Made → WellTyped t.field t.op t.literal ∧ ∀ c, t.IsEvaluable c := by
  refine ⟨⟨fun _ _ _ => exists_make_iff, fun _ _ _ => exists_ofTree_iff,
    fun _ _ _ => Condition.exists_ofTree_iff, fun _ _ _ => Guard.exists_holds_iff,
    fun _ _ => Rule.exists_ofTree_iff, fun _ _ => Condition.exists_compile_iff⟩, ?_, ?_⟩
  · intro e he hterms
    exact he.wellTypedTerms.1 (by rw [Condition.parts, hterms, List.map_nil])
  · exact fun t ht => ⟨ht.wellTyped, isEvaluable_of_wellTyped ht.wellTyped⟩

end OfferPolicy
