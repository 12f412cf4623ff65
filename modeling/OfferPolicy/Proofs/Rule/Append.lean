import OfferPolicy.Proofs.Rule.Trace

/-! Rules behind other rules. As long as none of those in front applies, the rules behind do what
they would do alone, under higher numbers; once one applies, the rules behind are skipped. So a
broken rule decides nothing wherever it stands, and neither does a rule behind one for everybody. -/

namespace OfferPolicy

def Entry.movedDown (n : Nat) (e : Entry) : Entry := { e with index := n + e.index }

def Entry.skip (e : Entry) : Entry := { e with status := .skipped }

namespace Trace

def movedDown (n : Nat) (t : Trace) : Trace :=
  { t with
    matchedRule := t.matchedRule.map (n + ·)
    entries := t.entries.map (Entry.movedDown n) }

def andSkip (t next : Trace) : Trace :=
  { t with
    skipped := t.skipped + next.entries.length
    entries := t.entries ++ next.entries.map Entry.skip }

def andThen (t next : Trace) : Trace :=
  { next with
    hasErrors := t.hasErrors || next.hasErrors
    evaluated := t.evaluated + next.evaluated
    entries := t.entries ++ next.entries }

lemma skipAll_append (index : Nat) (front back : List Rule) :
    skipAll index (front ++ back) = skipAll index front ++ skipAll (index + front.length) back := by
  induction front generalizing index with
  | nil => rfl
  | cons r front ih =>
    have hindex : index + 1 + front.length = index + (r :: front).length := by
      rw [List.length_cons]
      omega
    rw [List.cons_append, skipAll, skipAll, ih, hindex, List.cons_append]

lemma skipAll_movedDown (n index : Nat) (rules : List Rule) :
    skipAll (n + index) rules = (skipAll index rules).map (Entry.movedDown n) := by
  induction rules generalizing index with
  | nil => rfl
  | cons r rules ih =>
    rw [skipAll, skipAll, List.map_cons, Nat.add_assoc, ih]
    rfl

lemma map_skip_skipAll (index : Nat) (rules : List Rule) :
    (skipAll index rules).map Entry.skip = skipAll index rules := by
  induction rules generalizing index with
  | nil => rfl
  | cons r rules ih =>
    rw [skipAll, List.map_cons, ih]
    rfl

section Run

variable {c : Customer} {r : Rule}

lemma runFrom_cons_of_accepts (index : Nat) (rules : List Rule) (h : r.guard.Accepts c) :
    runFrom c index (r :: rules) = ⟨r.offer, some index, false, 1, rules.length,
      ⟨index, r, .matched⟩ :: skipAll (index + 1) rules⟩ := by
  simp only [runFrom, Guard.status_of_accepts h]

lemma map_skip_entries_runFrom (c : Customer) (index : Nat) (rules : List Rule) :
    (runFrom c index rules).entries.map Entry.skip = skipAll index rules := by
  induction rules generalizing index with
  | nil => rfl
  | cons r rules ih =>
    by_cases hr : r.guard.Accepts c
    · rw [runFrom_cons_of_accepts index rules hr, List.map_cons, map_skip_skipAll]
      rfl
    · rw [runFrom_cons_of_declines index rules hr, prepend, List.map_cons, ih]
      rfl

lemma movedDown_prepend (n : Nat) (t : Trace) (e : Entry) :
    (t.prepend e).movedDown n = (t.movedDown n).prepend (e.movedDown n) := rfl

lemma runFrom_movedDown (c : Customer) (n index : Nat) (rules : List Rule) :
    runFrom c (n + index) rules = (runFrom c index rules).movedDown n := by
  induction rules generalizing index with
  | nil => rfl
  | cons r rules ih =>
    by_cases hr : r.guard.Accepts c
    · rw [runFrom_cons_of_accepts _ rules hr, runFrom_cons_of_accepts _ rules hr, Nat.add_assoc,
        skipAll_movedDown]
      rfl
    · rw [runFrom_cons_of_declines _ rules hr, runFrom_cons_of_declines _ rules hr, Nat.add_assoc,
        ih, movedDown_prepend]
      rfl

lemma andThen_prepend (t next : Trace) (e : Entry) :
    (t.prepend e).andThen next = (t.andThen next).prepend e := by
  simp only [andThen, prepend, Bool.or_assoc, Nat.add_right_comm, List.cons_append]

lemma andSkip_prepend (t next : Trace) (e : Entry) :
    (t.prepend e).andSkip next = (t.andSkip next).prepend e := rfl

lemma andThen_of_nil (c : Customer) (index : Nat) (next : Trace) :
    (runFrom c index []).andThen next = next := by
  simp only [runFrom, andThen, Bool.false_or, Nat.zero_add, List.nil_append]

end Run

end Trace

namespace Rules

def someApplies (rules : Rules) (c : Customer) : Bool := rules.any (·.applies c)

def unbroken (rules : Rules) : Rules := rules.filter fun r => !r.guard.isBroken

variable {c : Customer} {r : Rule}

lemma someApplies_cons_of_accepts (rules : Rules) (h : r.guard.Accepts c) :
    someApplies (r :: rules) c = true := by
  rw [someApplies, List.any_cons, (r.applies_iff c).mpr h, Bool.true_or]

lemma someApplies_cons_of_declines (rules : Rules) (h : ¬ r.guard.Accepts c) :
    someApplies (r :: rules) c = rules.someApplies c := by
  have ha : r.applies c = false := by simpa using mt (r.applies_iff c).mp h
  rw [someApplies, List.any_cons, ha, Bool.false_or, someApplies]

lemma runFrom_append (front back : Rules) (c : Customer) (index : Nat) :
    Trace.runFrom c index (front ++ back) =
      if front.someApplies c then
        (Trace.runFrom c index front).andSkip (Trace.runFrom c (index + front.length) back)
      else (Trace.runFrom c index front).andThen (Trace.runFrom c (index + front.length) back) := by
  induction front generalizing index with
  | nil => exact (Trace.andThen_of_nil c index _).symm
  | cons r front ih =>
    have hindex : index + (r :: front).length = index + 1 + front.length := by
      rw [List.length_cons]
      omega
    rw [List.cons_append, hindex]
    by_cases hr : r.guard.Accepts c
    · rw [someApplies_cons_of_accepts front hr, if_pos rfl,
        Trace.runFrom_cons_of_accepts index (front ++ back) hr,
        Trace.runFrom_cons_of_accepts index front hr, Trace.andSkip,
        Trace.map_skip_entries_runFrom, Trace.skipAll_append, Trace.length_entries_runFrom,
        List.length_append, List.cons_append]
    · rw [someApplies_cons_of_declines front hr, Trace.runFrom_cons_of_declines index _ hr,
        Trace.runFrom_cons_of_declines index front hr, ih, Trace.andSkip_prepend,
        Trace.andThen_prepend]
      split <;> rfl

lemma trace_append_eq (front back : Rules) (c : Customer) :
    (front ++ back).trace c =
      if front.someApplies c then (front.trace c).andSkip ((back.trace c).movedDown front.length)
      else (front.trace c).andThen ((back.trace c).movedDown front.length) := by
  have hback : Trace.runFrom c (0 + front.length) back =
      (Trace.runFrom c 0 back).movedDown front.length := by
    rw [Nat.add_comm]
    exact Trace.runFrom_movedDown c front.length 0 back
  rw [trace, runFrom_append, hback, trace, trace]

lemma decide_append (front back : Rules) (c : Customer) :
    (front ++ back).decide c =
      if front.someApplies c then front.decide c else back.decide c := by
  rw [← Trace.offer_trace, trace_append_eq, ← Trace.offer_trace front, ← Trace.offer_trace back]
  split <;> rfl

lemma isSome_matchedRule_trace (rules : Rules) (c : Customer) :
    (rules.trace c).matchedRule.isSome = rules.someApplies c := by
  obtain ⟨k, hk, _, hf⟩ := Trace.exists_follows rules c
  rw [trace, (hf 0).matchedRule, Option.isSome_map, someApplies, ← List.isSome_find?,
    find?_of_firstAccepting hk]
  cases k with
  | none => rfl
  | some k =>
    obtain ⟨⟨r, hr, _⟩, _⟩ := hk
    rw [Option.bind_some, hr]
    rfl

lemma decide_unbroken (rules : Rules) (c : Customer) :
    rules.unbroken.decide c = rules.decide c := by
  rw [decide, decide, unbroken, List.find?_filter]
  congr 2
  funext r
  by_cases h : r.guard.Accepts c
  · simp [(r.applies_iff c).mpr h, Guard.isBroken_of_accepts h]
  · have ha : r.applies c = false := by simpa using mt (r.applies_iff c).mp h
    simp [ha]

/-- Rules behind others decide and are traced as if alone where none of those in front applies, and
are skipped otherwise. Broken rules may be left out, and so may rules behind one for everybody. -/
theorem trace_append (front back : Rules) (c : Customer) :
    (front ++ back).decide c =
        (if front.someApplies c then front.decide c else back.decide c) ∧
      (front ++ back).trace c =
        (if front.someApplies c then (front.trace c).andSkip ((back.trace c).movedDown front.length)
        else (front.trace c).andThen ((back.trace c).movedDown front.length)) ∧
      (back.trace c).entries.length = back.length ∧
      (front.trace c).matchedRule.isSome = front.someApplies c ∧
      front.unbroken.decide c = front.decide c ∧
      ∀ offer line, decide (front ++ ⟨.always, offer, line⟩ :: back) c =
        decide (front ++ [⟨.always, offer, line⟩]) c := by
  refine ⟨decide_append front back c, trace_append_eq front back c,
    Trace.length_entries_runFrom c 0 back, isSome_matchedRule_trace front c,
    decide_unbroken front c, fun offer line => ?_⟩
  have hcons : front ++ ⟨.always, offer, line⟩ :: back =
      front ++ [⟨.always, offer, line⟩] ++ back := List.append_cons ..
  have hsome : someApplies (front ++ [⟨.always, offer, line⟩]) c = true := by
    rw [someApplies, List.any_append]
    exact Bool.or_true _
  rw [hcons, decide_append _ back, if_pos hsome]

end Rules

end OfferPolicy
