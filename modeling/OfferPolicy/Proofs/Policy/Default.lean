import OfferPolicy.Policy.Default
import OfferPolicy.Proofs.Policy.Frame
import OfferPolicy.Proofs.Policy.Rule
import OfferPolicy.Rule.Decision

namespace OfferPolicy

open Text (trim)

namespace Operator

lemma holds_ofNumber? (op : Operator) (n : Option Float) (x : Float) :
    op.holds (.ofNumber? n) (.number x) = n.any (op.compareNumbers · x) := by
  cases n <;> rfl

lemma holds_ofText? (op : Operator) (s : Option String) (t : String) :
    op.holds (.ofText? s) (.text t) = s.any (op.compareTexts · t) := by
  cases s <;> rfl

end Operator

namespace Comparison

def unscored : Comparison := ⟨.churnScore, .eq, .null, rfl⟩

def scoreBelow (x : Float) : Comparison := ⟨.churnScore, .lt, .number x, rfl⟩

def scoreFrom (x : Float) : Comparison := ⟨.churnScore, .ge, .number x, rfl⟩

def inSegment (s : Segment) : Comparison := ⟨.segment, .eq, .text s.tag, rfl, rfl⟩

def onContract (s : String) : Comparison := ⟨.contract, .eq, .text s, rfl, rfl⟩

section

variable (c : Customer)

lemma holds_unscored : unscored.holds c = c.churnScore.isNone :=
  Value.isNull_ofNumber? c.churnScore

lemma holds_scoreBelow (x : Float) :
    (scoreBelow x).holds c = c.churnScore.any fun s => decide (s < x) :=
  Operator.holds_ofNumber? .lt c.churnScore x

lemma holds_scoreFrom (x : Float) : (scoreFrom x).holds c = c.isHighRisk x := by
  refine (Operator.holds_ofNumber? .ge c.churnScore x).trans ?_
  rw [Customer.isHighRisk]
  cases c.churnScore <;> rfl

lemma holds_inSegment (s : Segment) : (inSegment s).holds c = decide (c.segment = some s) := by
  refine (Operator.holds_ofText? .eq (c.segment.map Segment.tag) s.tag).trans ?_
  rcases c.segment with _ | t
  · rfl
  · cases s <;> cases t <;> rfl

lemma holds_onContract (s : String) : (onContract s).holds c = decide (c.contract = some s) := by
  refine (Operator.holds_ofText? .eq c.contract s).trans ?_
  cases c.contract with
  | none => rfl
  | some t => simp [Operator.compareTexts, beq_eq_decide]

end

end Comparison

namespace Rule

def given (t : Comparison) (ts : List Comparison) (offer : Label) : Rule :=
  ⟨.holds ⟨t :: ts, List.cons_ne_nil t ts⟩, offer, none⟩

@[simp] lemma applies_onLine (n : Nat) (r : Rule) (c : Customer) :
    (r.onLine n).applies c = r.applies c := rfl

@[simp] lemma offer_given (t : Comparison) (ts : List Comparison) (offer : Label) :
    (given t ts offer).offer = offer := rfl

@[simp] lemma applies_given (t : Comparison) (ts : List Comparison) (offer : Label) (c : Customer) :
    (given t ts offer).applies c = (t.holds c && ts.all (·.holds c)) := rfl

end Rule

namespace Rules

def commented (ps : List (String × Rule)) : List String :=
  ps.flatMap fun p => [p.1, p.2.source, ""]

def numbered (n : Nat) : List (String × Rule) → Rules
  | [] => []
  | p :: ps => p.2.onLine (n + 1) :: numbered (n + 3) ps

lemma filterMap_commented {ps : List (String × Rule)}
    (hcomment : ∀ p ∈ ps, isSkipped (trim p.1.toList) = true)
    (hrule : ∀ p ∈ ps, ∀ n, Rule.ofLine? ⟨n, p.2.source.toList⟩ = some (p.2.onLine n)) (n : Nat) :
    (Line.numberFrom n ((commented ps).map String.toList)).filterMap Rule.ofLine? =
      numbered n ps := by
  induction ps generalizing n with
  | nil => rfl
  | cons p ps ih =>
    obtain ⟨hp, hps⟩ := List.forall_mem_cons.mp hcomment
    obtain ⟨hr, hrs⟩ := List.forall_mem_cons.mp hrule
    have hskip : Rule.ofLine? ⟨n, p.1.toList⟩ = none := by simp [Rule.ofLine?, hp]
    have hblank : Rule.ofLine? ⟨n + 1 + 1, "".toList⟩ = none := Rule.ofLine?_nil _
    rw [commented, List.flatMap_cons, ← commented]
    simp only [List.cons_append, List.nil_append, List.map_cons, Line.numberFrom,
      List.filterMap_cons, hskip, hr, hblank, ih hps hrs]
    rfl

end Rules

section Default

open Comparison (unscored scoreBelow scoreFrom inSegment onContract)

def defaultCommented : List (String × Rule) := [
  ("// 1. Data hygiene", .given unscored [] .noOffer),
  ("// 2. Savings: ignore low risk", .given (scoreBelow 0.7) [] .noOffer),
  ("// 3. Targeted retention: VIP on a short leash (highest risk)",
    .given (inSegment .vip) [onContract "Month-to-month"] .big),
  ("// 4. Loyalty effect: a two-year contract locks the customer in, give the minimum",
    .given (onContract "Two year") [] .small),
  ("// 5. Middle class: optimal retention for STANDARD", .given (inSegment .standard) [] .medium),
  ("// 6. Insurance: keep coverage above 90% for everyone else at risk",
    .given (scoreFrom 0.7) [] .small),
  ("// 7. Fallback", ⟨.always, .noOffer, none⟩)]

lemma chars_defaultPolicyLines :
    (∀ cs ∈ defaultPolicyLines.map String.toList, '\n' ∉ cs) ∧
    (∀ cs ∈ (defaultPolicyLines.take 9).map String.toList, trim cs ≠ "[RULES]".toList) ∧
    ∀ cs ∈ ((defaultPolicyLines.drop 10).take 21).map String.toList,
      (trim cs).head? ≠ some '[' := by
  simp only [defaultPolicyLines, List.drop_succ_cons, List.drop_zero, List.take_succ_cons,
    List.take_zero, List.map_cons, List.map_nil]
  -- Characters are read off a literal at once, but off an encoded text one by one from its start.
  repeat rw [String.toList_ofList]
  decide +kernel

lemma lineFeed_notMem_defaultPolicyLines : ∀ l ∈ defaultPolicyLines, '\n' ∉ l.toList :=
  fun _ hl => chars_defaultPolicyLines.1 _ (List.mem_map_of_mem hl)

lemma isFrame_defaultPolicyLines :
    Document.IsFrame (defaultPolicyLines.take 9) (defaultPolicyLines.drop 31) where
  before_lines l hl := lineFeed_notMem_defaultPolicyLines l (List.mem_of_mem_take hl)
  before_ne _ hl := chars_defaultPolicyLines.2.1 _ (List.mem_map_of_mem hl)
  behind_lines l hl := lineFeed_notMem_defaultPolicyLines l (List.mem_of_mem_drop hl)
  behind_head := by decide +kernel

lemma isBody_defaultPolicyLines : Document.IsBody ((defaultPolicyLines.drop 10).take 21) where
  lines l hl :=
    lineFeed_notMem_defaultPolicyLines l (List.mem_of_mem_drop (List.mem_of_mem_take hl))
  head_ne _ hl := chars_defaultPolicyLines.2.2 _ (List.mem_map_of_mem hl)

lemma commented_defaultCommented :
    Rules.commented defaultCommented = (defaultPolicyLines.drop 10).take 21 := by
  decide +kernel

lemma isSkipped_comment : ∀ p ∈ defaultCommented, isSkipped (trim p.1.toList) = true := by
  rw [← List.forall_mem_map (P := fun cs => isSkipped (trim cs) = true), defaultCommented]
  simp only [List.map_cons, List.map_nil]
  repeat rw [String.toList_ofList]
  decide +kernel

lemma ofLine?_source_defaultCommented : ∀ p ∈ defaultCommented, ∀ n,
    Rule.ofLine? ⟨n, p.2.source.toList⟩ = some (p.2.onLine n) := by
  have hfinite : ∀ p ∈ defaultCommented,
      p.2.guard.isBroken = false ∧ ∀ l ∈ p.2.guard.literals, l.IsFinite := by
    decide +kernel
  have htag : ∀ p ∈ defaultCommented, Label.ofTag p.2.offer.text = p.2.offer ∧
      p.2.offer.text.toList ≠ [] ∧ p.2.offer.text.toList.all RuleLine.isLabelChar = true := by
    decide +kernel
  intro p hp
  obtain ⟨htext, hne, hchars⟩ := htag p hp
  have hline : p.2.source ∈ (defaultPolicyLines.drop 10).take 21 := by
    rw [← commented_defaultCommented]
    exact List.mem_flatMap.mpr ⟨p, hp, by simp⟩
  exact Rule.ofLine?_source_of_isFinite (hfinite p hp).1 (hfinite p hp).2
    (Label.isTag_of_ofTag_text htext hne hchars) (isBody_defaultPolicyLines.lines _ hline)

lemma defaultRules_eq : defaultRules = Rules.numbered 11 defaultCommented := by
  have hframed : defaultPolicy = Document.framed (defaultPolicyLines.take 9)
      ((defaultPolicyLines.drop 10).take 21) (defaultPolicyLines.drop 31) := rfl
  rw [defaultRules, hframed, Rules.ofText_framed_eq isFrame_defaultPolicyLines
    isBody_defaultPolicyLines, ← commented_defaultCommented]
  exact Rules.filterMap_commented isSkipped_comment ofLine?_source_defaultCommented 11

end Default

end OfferPolicy
