import OfferPolicy.Proofs.Condition.WellTyped
import OfferPolicy.Proofs.Policy.Rule
import OfferPolicy.Rule.Form

namespace OfferPolicy

open OfferPolicy.Tree

lemma asCount_int {n : Nat} (h : n < 2 ^ 64) : asCount (.int n) = .ok n := by
  simp [asCount, asNat, Option.filter, h, ofSome]

variable {context : Context}

lemma Field.ofTree_toTree (f : Field) : Field.ofTree context f.toTree = .ok f := by
  simp [Field.ofTree, Field.toTree, asName, asVariant, isVoid, bind, Except.bind, ofSome]

lemma Operator.ofTree_toTree (op : Operator) : Operator.ofTree context op.toTree = .ok op := by
  simp [Operator.ofTree, Operator.toTree, asName, asVariant, isVoid, bind, Except.bind, ofSome]

lemma Literal.toTree_of_not_isFinite {l : Literal} (h : ¬ l.IsFinite) :
    l.toTree = .table [("Number", .null)] := by
  cases l with
  | null | text _ => exact (h trivial).elim
  | number n =>
    have hn : ¬ Decimal.isFinite n = true := h
    rw [toTree, ofFloat, if_neg hn]

lemma Literal.ofTree_toTree (l : Literal) :
    Literal.ofTree context l.toTree = if l.IsFinite then .ok l else .error .form := by
  by_cases h : l.IsFinite
  · rw [if_pos h]
    cases l with
    | null | text _ => rfl
    | number n =>
      have hn : Decimal.isFinite n = true := h
      rw [toTree, ofFloat, if_pos hn]
      rfl
  · rw [if_neg h, toTree_of_not_isFinite h]
    rfl

lemma Comparison.ofTree_toTree (c : Comparison) :
    Comparison.ofTree context c.toTree = if c.literal.IsFinite then .ok c else .error .form := by
  have hparts : partsOfTree context c.toTree = (do
      let field ← Field.ofTree context c.field.toTree
      let op ← Operator.ofTree context c.op.toTree
      .ok (field, op, ← Literal.ofTree context c.literal.toTree)) := rfl
  rw [Field.ofTree_toTree, Operator.ofTree_toTree, Literal.ofTree_toTree] at hparts
  have hread : partsOfTree context c.toTree =
      if c.literal.IsFinite then .ok (c.field, c.op, c.literal) else .error .form :=
    hparts.trans (ite_ok_bind c.literal Mismatch.form _)
  rw [ofTree, hread, ite_ok_bind]
  simp only [make_eq_ok c.fits]

lemma Condition.ofTree_toTree (e : Condition) : Condition.ofTree context e.toTree =
    if ∀ c ∈ e.terms, c.literal.IsFinite then .ok e else .error .form := by
  have hterms : asRow ["terms"] (·.required "terms" (asListOf (Comparison.ofTree context)))
      e.toTree = (e.terms.map Comparison.toTree).mapM (Comparison.ofTree context) := rfl
  rw [ofTree, hterms, mapM_map_eq fun c _ => Comparison.ofTree_toTree c, ite_ok_bind,
    ofTerms?_eq_some_iff.mpr rfl]

lemma Guard.ofConditionTree_eq {g : Guard} {t : Tree} (ht : g.conditionTree? = some t) :
    ofConditionTree context t = if ∀ l ∈ g.literals, l.IsFinite then .ok g else .error .form := by
  cases g with
  | always => cases ht
  | broken source reason =>
    cases ht
    cases context <;> rfl
  | holds e =>
    cases ht
    have hread : ofConditionTree context (.table [("compiled", e.toTree)]) =
        (Condition.ofTree context e.toTree).map holds := rfl
    rw [hread, Condition.ofTree_toTree]
    by_cases h : ∀ c ∈ e.terms, c.literal.IsFinite
    · have hl : ∀ l ∈ (holds e).literals, l.IsFinite := List.forall_mem_map.mpr h
      rw [if_pos h, if_pos hl]
      rfl
    · have hl : ¬ ∀ l ∈ (holds e).literals, l.IsFinite := fun hl => h (List.forall_mem_map.mp hl)
      rw [if_neg h, if_neg hl]
      rfl

namespace Rule

structure IsMade (r : Rule) : Prop where
  offer : ∃ tag, r.offer = Label.ofTag tag
  line : ∀ n ∈ r.line, n < 2 ^ 64

variable {r : Rule} {t : Tree}

def lineTree (r : Rule) : Tree := Tree.ofOption (fun n => .int n) r.line

lemma IsMade.readOffer (h : r.IsMade) : Label.ofTree r.offer.toTree = .ok r.offer := by
  obtain ⟨tag, htag⟩ := h.offer
  rw [htag]
  exact congrArg Except.ok (Label.ofTag_text_ofTag tag)

lemma IsMade.readLine (h : r.IsMade) : asOption asCount r.lineTree = .ok r.line := by
  obtain ⟨guard, offer, line⟩ := r
  cases line with
  | none => rfl
  | some n => exact congrArg (Except.map some) (asCount_int (h.line n rfl))

lemma ofTree_fallback (h : r.guard.conditionTree? = none) : ofTree r.toTree = (do
    let offer ← Label.ofTree r.offer.toTree
    .ok ⟨.always, offer, ← asOption asCount r.lineTree⟩) := by
  obtain ⟨guard, offer, line⟩ := r
  rw [toTree, h]
  cases line <;> rfl

lemma ofTree_conditional (h : r.guard.conditionTree? = some t) : ofTree r.toTree = (do
    let guard ← Guard.ofConditionTree .untyped t
    let offer ← Label.ofTree r.offer.toTree
    .ok ⟨guard, offer, ← asOption asCount r.lineTree⟩) := by
  obtain ⟨guard, offer, line⟩ := r
  rw [toTree, h]
  cases line <;> rfl

lemma ofTree_toTree (h : r.IsMade) : ofTree r.toTree =
    if ∀ l ∈ r.guard.literals, l.IsFinite then .ok r else .error .form := by
  cases ht : r.guard.conditionTree? with
  | none =>
    obtain ⟨guard, offer, line⟩ := r
    cases guard with
    | holds _ | broken _ _ => cases ht
    | always =>
      rw [ofTree_fallback ht, h.readOffer, h.readLine]
      exact (if_pos (List.forall_mem_nil _)).symm
  | some t =>
    rw [ofTree_conditional ht, h.readOffer, h.readLine, Guard.ofConditionTree_eq ht, ite_ok_bind]
    rfl

end Rule

namespace Rules

variable {rules : Rules}

lemma ofTree_toTree_eq (h : ∀ r ∈ rules, r.IsMade) : ofTree rules.toTree =
    if ∀ r ∈ rules, ∀ l ∈ r.guard.literals, l.IsFinite then .ok rules else .error .form :=
  mapM_map_eq fun r hr => Rule.ofTree_toTree (h r hr)

lemma beq_self_of_isFinite (h : ∀ r ∈ rules, ∀ l ∈ r.guard.literals, l.IsFinite) :
    (rules == rules) = true := by
  apply list_beq_self
  intro r hr
  have hguard : (r.guard == r.guard) = true :=
    Guard.beq_self fun n hn => Literal.IsFinite.place_le (h r hr _ hn)
  rw [Rule.beq_eq, hguard]
  simp

/-- Rules read as what they were written from where all their numbers are finite. A number that is
not is written as `null`, and with it nothing is read. -/
theorem ofTree_toTree_iff (rules : Rules) (h : ∀ r ∈ rules, r.IsMade) :
    ((∃ read, ofTree rules.toTree = .ok read ∧ (read == rules) = true) ↔
        ∀ r ∈ rules, ∀ l ∈ r.guard.literals, l.IsFinite) ∧
      ((∀ r ∈ rules, ∀ l ∈ r.guard.literals, l.IsFinite) → ofTree rules.toTree = .ok rules) ∧
      ((∃ r ∈ rules, ∃ l ∈ r.guard.literals, ¬ l.IsFinite) →
        ofTree rules.toTree = .error .form) ∧
      ∀ r ∈ rules, ∀ l ∈ r.guard.literals, ¬ l.IsFinite →
        l.toTree = .table [("Number", .null)] := by
  have hread := ofTree_toTree_eq h
  refine ⟨⟨?_, ?_⟩, ?_, ?_, ?_⟩
  · rintro ⟨read, hok, _⟩
    by_contra hl
    rw [hread, if_neg hl] at hok
    cases hok
  · intro hl
    exact ⟨rules, by rw [hread, if_pos hl], beq_self_of_isFinite hl⟩
  · intro hl
    rw [hread, if_pos hl]
  · rintro ⟨r, hr, l, hl, hinfinite⟩
    have hall : ¬ ∀ r ∈ rules, ∀ l ∈ r.guard.literals, l.IsFinite :=
      fun hall => hinfinite (hall r hr l hl)
    rw [hread, if_neg hall]
  · intro r _ l _ hl
    exact Literal.toTree_of_not_isFinite hl

theorem ofTree_toTree_iff_broken_and_nan :
    (∀ r ∈ [Rule.mk (.broken "tenure" "no operator") (.ofTag "groß") (some 3),
        ⟨.always, .big, none⟩], r.IsMade) ∧
      ofTree (toTree [⟨.broken "tenure" "no operator", .ofTag "groß", some 3⟩,
          ⟨.always, .big, none⟩]) =
        .ok [⟨.broken "tenure" "no operator", .ofTag "groß", some 3⟩, ⟨.always, .big, none⟩] ∧
      ofTree (toTree [⟨.holds ⟨[⟨.tenure, .lt, .number Decimal.nan, by decide⟩], by decide⟩, .big,
        none⟩]) = .error .form := by
  have hbig : ∃ tag, Label.big = .ofTag tag := ⟨"BIG", by decide +kernel⟩
  have hmade : ∀ r ∈ [Rule.mk (.broken "tenure" "no operator") (.ofTag "groß") (some 3),
      ⟨.always, .big, none⟩], r.IsMade := by
    simp only [List.forall_mem_cons]
    exact ⟨⟨⟨"groß", rfl⟩, by decide⟩, ⟨hbig, by decide⟩, List.forall_mem_nil _⟩
  have hnan : ∀ r ∈ [Rule.mk (.holds ⟨[⟨.tenure, .lt, .number Decimal.nan, by decide⟩],
      by decide⟩) .big none], r.IsMade := by
    simp only [List.forall_mem_cons]
    exact ⟨⟨hbig, by decide⟩, List.forall_mem_nil _⟩
  refine ⟨hmade, (ofTree_toTree_iff _ hmade).2.1 ?_, (ofTree_toTree_iff _ hnan).2.2.1 ?_⟩
  · simp [Guard.literals]
  · refine ⟨_, List.mem_singleton_self _, _, List.mem_singleton_self _, ?_⟩
    decide +kernel

end Rules

end OfferPolicy
