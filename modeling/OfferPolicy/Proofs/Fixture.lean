import Mathlib.Data.List.Forall2
import OfferPolicy.Fixture
import OfferPolicy.Proofs.Rule.Form
import OfferPolicy.Proofs.Rule.Trace

/-! Results of cases. A case passes by its own customer and by nothing else: the first rule that
applies makes the expected offer, and stands on the line the case names, if it names one. So it does
not matter whether cases are picked before they are run or after, nor in how many files they
stand. -/

namespace OfferPolicy

namespace Rules

variable {rules : Rules} {c : Customer}

lemma matchedLine_trace_eq (rules : Rules) (c : Customer) : (rules.trace c).matchedLine =
    ((rules.trace c).matchedRule.bind (rules[·]?)).bind Rule.line := by
  obtain ⟨k, hk, _, hf⟩ := Trace.exists_follows rules c
  have hindex : (rules.trace c).matchedRule = k := by
    rw [trace, (hf 0).matchedRule]
    simp only [Nat.zero_add, Option.map_id']
  rw [hindex, trace, Trace.matchedLine_runFrom, find?_of_firstAccepting hk]

lemma decide_of_firstAccepting_none (h : rules.FirstAccepting c none) :
    rules.decide c = .noOffer := by
  rw [decide, find?_of_firstAccepting h, Option.bind_none]

lemma exists_ofTag_decide (h : ∀ r ∈ rules, ∃ tag, r.offer = Label.ofTag tag) (c : Customer) :
    ∃ tag, rules.decide c = Label.ofTag tag := by
  rw [decide]
  split
  · next r hr => exact h r (List.mem_of_find?_eq_some hr)
  · exact ⟨"NO_OFFER", by decide +kernel⟩

end Rules

lemma Label.ofTag_eq_ofTag_iff {s t : String} :
    ofTag s = ofTag t ↔ Text.upper s.toList = Text.upper t.toList := by
  rw [ofTag, ofTag, mk.injEq, String.ofList_inj]

namespace Fixture

lemma occursIn_iff {part cs : List Char} : occursIn part cs = true ↔ part <:+: cs := by
  induction cs with
  | nil => rw [occursIn, List.isEmpty_iff, List.infix_nil]
  | cons c cs ih =>
    rw [occursIn, Bool.or_eq_true, ih, List.isPrefixOf_iff_prefix, List.infix_cons_iff]

def Asks (filter : Option String) (name : String) : Prop :=
  ∀ part ∈ filter, part.toList <:+: name.toList

instance (filter : Option String) (name : String) : Decidable (Asks filter name) := by
  unfold Asks
  infer_instance

lemma selected_eq (filter : Option String) (case : Case) :
    case.selected filter = decide (Asks filter case.name) := by
  rw [Bool.eq_iff_iff, decide_eq_true_iff, Asks]
  cases filter with
  | none => simp [Case.selected]
  | some part => simp [Case.selected, occursIn_iff]

structure Case.Verdict (rules : Rules) (case : Case) (r : Result) : Prop where
  name : r.name = case.name
  expected : r.expected = case.expect
  expectedLine : r.expectedLine = case.matchedLine
  actual : r.actual = rules.decide case.customer
  actualLine : ∀ n, r.actualLine = some n ↔ rules.StopsOn case.customer n
  actualLine_eq : r.actualLine =
    ((rules.trace case.customer).matchedRule.bind (rules[·]?)).bind Rule.line
  passed : r.passed = true ↔ rules.decide case.customer = case.expect ∧
    ∀ n, case.matchedLine = some n → rules.StopsOn case.customer n
  upper : (∀ r ∈ rules, ∃ tag, r.offer = Label.ofTag tag) → ∀ tag, case.expect = .ofTag tag →
    (rules.decide case.customer = case.expect ↔
      Text.upper (rules.decide case.customer).text.toList = Text.upper tag.toList)
  unmatched : rules.FirstAccepting case.customer none →
    r.actual = .noOffer ∧ r.actualLine = none ∧ (case.matchedLine ≠ none → r.passed = false)

lemma Case.passed_run_iff (rules : Rules) (case : Case) : (case.run rules).passed = true ↔
    rules.decide case.customer = case.expect ∧
      ∀ n, case.matchedLine = some n → rules.StopsOn case.customer n := by
  simp only [run, Trace.offer_trace, Bool.and_eq_true, beq_iff_eq]
  refine and_congr_right fun _ => ?_
  cases case.matchedLine with
  | none => simp
  | some n => simp [Rules.matchedLine_trace_eq_some_iff]

lemma Case.verdict_run (rules : Rules) (case : Case) : case.Verdict rules (case.run rules) := by
  have hoffer := Trace.offer_trace rules case.customer
  have hline : ∀ n, (rules.trace case.customer).matchedLine = some n ↔
      rules.StopsOn case.customer n := fun _ => Rules.matchedLine_trace_eq_some_iff
  have hpassed := case.passed_run_iff rules
  refine ⟨rfl, rfl, rfl, hoffer, hline, Rules.matchedLine_trace_eq rules case.customer, hpassed,
    fun hrules tag htag => ?_, fun hnone => ?_⟩
  · obtain ⟨tag', htag'⟩ := Rules.exists_ofTag_decide hrules case.customer
    rw [htag, htag', Label.ofTag_eq_ofTag_iff, Label.ofTag, String.toList_ofList, Text.upper_upper]
  · have hnot := Rules.not_stopsOn hnone
    refine ⟨hoffer.trans (Rules.decide_of_firstAccepting_none hnone), ?_, fun hnamed => ?_⟩
    · exact Option.eq_none_iff_forall_ne_some.mpr fun n hn => hnot n ((hline n).mp hn)
    · obtain ⟨n, hn⟩ := Option.ne_none_iff_exists'.mp hnamed
      exact eq_false_of_ne_true fun h => hnot n ((hpassed.mp h).2 n hn)

structure Summary.Counts (s : Summary) : Prop where
  total : s.total = s.results.length
  passed : s.passed = s.results.countP (·.passed)
  failed : s.failed = s.results.countP fun r => !r.passed
  total_eq_add : s.total = s.passed + s.failed
  allPassed : s.allPassed = true ↔ ∀ r ∈ s.results, r.passed = true

lemma Summary.counts (s : Summary) : s.Counts := by
  have hsplit : s.results.length =
      s.results.countP (·.passed) + s.results.countP fun r => !r.passed := by
    rw [List.length_eq_countP_add_countP (·.passed)]
    simp only [Bool.not_eq_true, Bool.decide_eq_false]
  have hfailed : s.failed = s.results.countP fun r => !r.passed := by
    rw [failed, total, passed, hsplit, Nat.add_sub_cancel_left]
  refine ⟨rfl, rfl, hfailed, ?_, ?_⟩
  · rw [total, passed, hfailed, hsplit]
  · rw [allPassed, beq_iff_eq, hfailed, List.countP_eq_zero]
    simp

lemma results_run (rules : Rules) (filter : Option String) (cases : List Case) :
    (run rules filter cases).results =
      (cases.filter fun case => Asks filter case.name).map (·.run rules) := by
  rw [run]
  simp only [selected_eq]

lemma results_run_filter (rules : Rules) (filter : Option String) (cases : List Case) :
    (run rules filter cases).results =
      (run rules none cases).results.filter fun r => Asks filter r.name := by
  have hall : cases.filter (fun case => Asks none case.name) = cases :=
    List.filter_eq_self.mpr fun _ _ => decide_eq_true nofun
  rw [results_run, results_run, hall, List.filter_map]
  rfl

lemma results_run_append (rules : Rules) (filter : Option String) (cases more : List Case) :
    (run rules filter (cases ++ more)).results =
      (run rules filter cases).results ++ (run rules filter more).results := by
  rw [results_run, results_run, results_run, List.filter_append, List.map_append]

/-- Running cases gives one result for each case that is asked for, in their order, whatever else
stands in the file. The summary counts them. -/
theorem run_verdicts (rules : Rules) (filter : Option String) (cases : List Case) :
    (run rules filter cases).results =
        ((run rules none cases).results.filter fun r => Asks filter r.name) ∧
      List.Forall₂ (Case.Verdict rules) (cases.filter fun case => Asks filter case.name)
        (run rules filter cases).results ∧
      (run rules filter cases).Counts ∧
      (run rules filter cases).results =
        cases.flatMap (fun case => (run rules filter [case]).results) ∧
      ∀ more : List Case, (run rules filter (cases ++ more)).results =
        (run rules filter cases).results ++ (run rules filter more).results := by
  refine ⟨results_run_filter rules filter cases, ?_, Summary.counts _, ?_,
    results_run_append rules filter cases⟩
  · rw [results_run, List.forall₂_map_right_iff, List.forall₂_same]
    exact fun case _ => case.verdict_run rules
  · induction cases with
    | nil => rfl
    | cons case cases ih =>
      rw [List.flatMap_cons, ← ih]
      exact results_run_append rules filter [case] cases

end Fixture

end OfferPolicy
