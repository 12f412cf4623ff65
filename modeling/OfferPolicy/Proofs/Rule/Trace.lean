import Mathlib.Tactic.Common
import OfferPolicy.Rule.Trace

namespace OfferPolicy

inductive Guard.Accepts (c : Customer) : Guard → Prop
  | always : Accepts c .always
  | holds {e : Condition} : e.holds c = true → Accepts c (.holds e)

lemma Guard.admits_iff (c : Customer) (g : Guard) : g.admits c = true ↔ g.Accepts c := by
  constructor
  · intro h
    cases g with
    | always => exact .always
    | holds e => exact .holds h
    | broken source reason => cases h
  · rintro (_ | h)
    · rfl
    · exact h

lemma Rule.applies_iff (r : Rule) (c : Customer) : r.applies c = true ↔ r.guard.Accepts c :=
  Guard.admits_iff c r.guard

lemma Guard.status_of_accepts {c : Customer} {g : Guard} (h : g.Accepts c) :
    g.status c = .matched := by
  cases h with
  | always => rfl
  | holds he => simp [Guard.status, he]

lemma Guard.isBroken_of_accepts {c : Customer} {g : Guard} (h : g.Accepts c) :
    g.isBroken = false := by
  cases h <;> rfl

inductive Guard.Declines : Guard → Status → Prop
  | holds (e : Condition) : Declines (.holds e) .notMatched
  | broken (source reason : String) : Declines (.broken source reason) (.failed reason)

lemma Guard.Declines.ne_matched {g : Guard} {s : Status} (h : g.Declines s) : s ≠ .matched := by
  cases h <;> simp

lemma Guard.Declines.isSome_reason? {g : Guard} {s : Status} (h : g.Declines s) :
    s.reason?.isSome = g.isBroken := by
  cases h <;> rfl

lemma Guard.declines_status {c : Customer} {g : Guard} (h : ¬ g.Accepts c) :
    g.Declines (g.status c) := by
  cases g with
  | always => exact (h .always).elim
  | holds e =>
    have he : e.holds c ≠ true := fun he => h (.holds he)
    simp only [Guard.status, he]
    exact .holds e
  | broken source reason => exact .broken source reason

namespace Rules

def FirstAccepting (rules : Rules) (c : Customer) : Option Nat → Prop
  | none => ∀ r ∈ rules, ¬ r.guard.Accepts c
  | some k => (∃ r, rules[k]? = some r ∧ r.guard.Accepts c) ∧
      ∀ i < k, ∀ r, rules[i]? = some r → ¬ r.guard.Accepts c

def offerAt (rules : Rules) (k : Option Nat) : Label :=
  ((k.bind (rules[·]?)).map Rule.offer).getD .noOffer

lemma firstAccepting_zero {c : Customer} {r : Rule} (rules : Rules) (h : r.guard.Accepts c) :
    FirstAccepting (r :: rules) c (some 0) :=
  ⟨⟨r, rfl, h⟩, fun i hi => (Nat.not_lt_zero i hi).elim⟩

lemma FirstAccepting.cons {c : Customer} {r : Rule} {rules : Rules} {k : Option Nat}
    (hr : ¬ r.guard.Accepts c) (h : FirstAccepting rules c k) :
    FirstAccepting (r :: rules) c (k.map (· + 1)) := by
  cases k with
  | none =>
    intro s hs
    rcases List.mem_cons.1 hs with rfl | hs
    · exact hr
    · exact h s hs
  | some k =>
    obtain ⟨hk, hlt⟩ := h
    refine ⟨hk, fun i hi s hs => ?_⟩
    cases i with
    | zero =>
      cases hs
      exact hr
    | succ i => exact hlt i (Nat.lt_of_succ_lt_succ hi) s hs

lemma offerAt_cons_succ (r : Rule) (rules : Rules) (k : Option Nat) :
    offerAt (r :: rules) (k.map (· + 1)) = offerAt rules k := by
  cases k <;> simp [offerAt]

lemma find?_of_firstAccepting {c : Customer} {rules : Rules} {k : Option Nat}
    (h : rules.FirstAccepting c k) : rules.find? (·.applies c) = k.bind (rules[·]?) := by
  cases k with
  | none =>
    rw [Option.bind_none, List.find?_eq_none]
    exact fun r hr ha => h r hr ((r.applies_iff c).mp ha)
  | some k =>
    obtain ⟨⟨r, hr, hac⟩, hlt⟩ := h
    obtain ⟨hk, hrk⟩ := List.getElem?_eq_some_iff.mp hr
    rw [Option.bind_some, hr, List.find?_eq_some_iff_getElem]
    refine ⟨(r.applies_iff c).mpr hac, k, hk, hrk, fun i hi => ?_⟩
    have hnot := hlt i hi _ (List.getElem?_eq_getElem (Nat.lt_trans hi hk))
    simpa using mt (Rule.applies_iff _ c).mp hnot

end Rules

structure Status.Fits (k : Option Nat) (i : Nat) (g : Guard) (s : Status) : Prop where
  before : (∀ n, k = some n → i < n) → g.Declines s
  deciding : k = some i → s = .matched
  behind : ∀ n, k = some n → n < i → s = .skipped

lemma Status.Fits.succ {k : Option Nat} {i : Nat} {g : Guard} {s : Status} (h : s.Fits k i g) :
    s.Fits (k.map (· + 1)) (i + 1) g := by
  refine ⟨fun hlt => h.before fun n hn => ?_, fun hk => h.deciding ?_, fun n hn hlt => ?_⟩
  · exact Nat.lt_of_succ_lt_succ (hlt (n + 1) (by simp [hn]))
  · simpa using hk
  · obtain ⟨m, hm, rfl⟩ := Option.map_eq_some_iff.1 hn
    exact h.behind m hm (Nat.lt_of_succ_lt_succ hlt)

namespace Trace

/-- A trace through rules numbered from `index` where the rule `k` places behind the first of them
decides. -/
structure Follows (t : Trace) (index : Nat) (rules : Rules) (k : Option Nat) : Prop where
  offer : t.offer = rules.offerAt k
  matchedRule : t.matchedRule = k.map (index + ·)
  length_entries : t.entries.length = rules.length
  entry : ∀ i r, rules[i]? = some r →
    ∃ s : Status, t.entries[i]? = some ⟨index + i, r, s⟩ ∧ s.Fits k i r.guard
  evaluated : t.evaluated = k.elim rules.length (· + 1)
  total : t.evaluated + t.skipped = rules.length
  hasErrors : t.hasErrors = true ↔
    ∃ i < t.evaluated, ∃ r, rules[i]? = some r ∧ r.guard.isBroken = true

lemma getElem?_skipAll (index : Nat) (rules : List Rule) (i : Nat) :
    (skipAll index rules)[i]? = rules[i]?.map fun r => ⟨index + i, r, .skipped⟩ := by
  induction rules generalizing index i with
  | nil => rfl
  | cons r rules ih =>
    cases i with
    | zero => rfl
    | succ i =>
      have hi : index + 1 + i = index + (i + 1) := by omega
      simp [skipAll, ih, hi]

lemma follows_nil (c : Customer) (index : Nat) : (runFrom c index []).Follows index [] none where
  offer := rfl
  matchedRule := rfl
  length_entries := rfl
  entry i r h := by simp at h
  evaluated := rfl
  total := rfl
  hasErrors := by simp [runFrom]

lemma follows_of_accepts {c : Customer} {r : Rule} (index : Nat) (rules : List Rule)
    (h : r.guard.Accepts c) :
    (runFrom c index (r :: rules)).Follows index (r :: rules) (some 0) := by
  have hs := Guard.status_of_accepts h
  have hrun : runFrom c index (r :: rules) = ⟨r.offer, some index, false, 1, rules.length,
      ⟨index, r, .matched⟩ :: skipAll (index + 1) rules⟩ := by
    simp only [runFrom, hs]
  have hb := Guard.isBroken_of_accepts h
  rw [hrun]
  refine ⟨rfl, rfl, by simp, ?_, rfl, by simp [Nat.add_comm], ?_⟩
  · intro i s hi
    cases i with
    | zero =>
      cases hi
      exact ⟨.matched, rfl, fun hlt => (Nat.lt_irrefl 0 (hlt 0 rfl)).elim, fun _ => rfl, by simp⟩
    | succ i =>
      have hi' : rules[i]? = some s := hi
      refine ⟨.skipped, ?_, fun hlt => (Nat.not_lt_zero _ (hlt 0 rfl)).elim, by simp,
        fun _ _ _ => rfl⟩
      have hn : index + 1 + i = index + (i + 1) := by omega
      simp [getElem?_skipAll, hi', hn]
  · simp [hb]

lemma Follows.prepend {t : Trace} {index : Nat} {rules : Rules} {k : Option Nat} {r : Rule}
    {s : Status} (h : t.Follows (index + 1) rules k) (hs : r.guard.Declines s) :
    (t.prepend ⟨index, r, s⟩).Follows index (r :: rules) (k.map (· + 1)) where
  offer := by rw [Rules.offerAt_cons_succ]; exact h.offer
  matchedRule := by
    simp only [Trace.prepend, h.matchedRule, Option.map_map]
    congr 1
    funext n
    simp only [Function.comp_apply]
    omega
  length_entries := by simp [Trace.prepend, h.length_entries]
  entry i q hq := by
    cases i with
    | zero =>
      cases hq
      refine ⟨s, rfl, fun _ => hs, ?_, ?_⟩ <;> cases k <;> simp
    | succ i =>
      obtain ⟨u, hu, hfits⟩ := h.entry i q hq
      have hn : index + 1 + i = index + (i + 1) := by omega
      exact ⟨u, by simpa [Trace.prepend, hn] using hu, hfits.succ⟩
  evaluated := by cases k <;> simp [Trace.prepend, h.evaluated]
  total := by
    have ht := h.total
    simp only [Trace.prepend, List.length_cons]
    omega
  hasErrors := by
    simp only [Trace.prepend, Bool.or_eq_true, hs.isSome_reason?, h.hasErrors]
    constructor
    · rintro (hb | ⟨i, hi, q, hq, hb⟩)
      · exact ⟨0, Nat.succ_pos _, r, rfl, hb⟩
      · exact ⟨i + 1, Nat.succ_lt_succ hi, q, hq, hb⟩
    · rintro ⟨i, hi, q, hq, hb⟩
      cases i with
      | zero =>
        cases hq
        exact Or.inl hb
      | succ i => exact Or.inr ⟨i, Nat.lt_of_succ_lt_succ hi, q, hq, hb⟩

lemma runFrom_cons_of_declines {c : Customer} {r : Rule} (index : Nat) (rules : List Rule)
    (h : ¬ r.guard.Accepts c) : runFrom c index (r :: rules) =
      (runFrom c (index + 1) rules).prepend ⟨index, r, r.guard.status c⟩ := by
  have hs := (Guard.declines_status h).ne_matched
  cases he : r.guard.status c with
  | matched => exact (hs he).elim
  | notMatched | skipped | failed reason => simp only [runFrom, he]

lemma exists_follows (rules : Rules) (c : Customer) :
    ∃ k, rules.FirstAccepting c k ∧ rules.decide c = rules.offerAt k ∧
      ∀ index, (runFrom c index rules).Follows index rules k := by
  induction rules with
  | nil => exact ⟨none, fun _ h => (List.not_mem_nil h).elim, rfl, follows_nil c⟩
  | cons r rules ih =>
    by_cases hr : r.guard.Accepts c
    · refine ⟨some 0, Rules.firstAccepting_zero rules hr, ?_, fun index => ?_⟩
      · rw [Rules.decide_cons_of_applies ((r.applies_iff c).mpr hr)]
        rfl
      · exact follows_of_accepts index rules hr
    · obtain ⟨k, hk, hd, hf⟩ := ih
      refine ⟨k.map (· + 1), hk.cons hr, ?_, fun index => ?_⟩
      · have ha : r.applies c = false := by simpa using mt (r.applies_iff c).mp hr
        rw [Rules.decide_cons_of_not_applies ha, Rules.offerAt_cons_succ, hd]
      · rw [runFrom_cons_of_declines index rules hr]
        exact (hf (index + 1)).prepend (Guard.declines_status hr)

lemma matchedLine_prepend {e : Entry} (t : Trace) (h : e.status ≠ .matched) :
    (t.prepend e).matchedLine = t.matchedLine := by
  simp [matchedLine, prepend, h]

lemma matchedLine_runFrom (c : Customer) (index : Nat) (rules : List Rule) :
    (runFrom c index rules).matchedLine = (rules.find? (·.applies c)).bind Rule.line := by
  induction rules generalizing index with
  | nil => rfl
  | cons r rules ih =>
    by_cases hr : r.guard.Accepts c
    · have hs := Guard.status_of_accepts hr
      simp [runFrom, hs, matchedLine, (r.applies_iff c).mpr hr]
    · have hs := (Guard.declines_status hr).ne_matched
      have ha : r.applies c = false := by simpa using mt (r.applies_iff c).mp hr
      rw [runFrom_cons_of_declines index rules hr, matchedLine_prepend _ hs, ih,
        List.find?_cons_of_neg (by simp [ha])]

lemma offer_trace (rules : Rules) (c : Customer) : (rules.trace c).offer = rules.decide c := by
  obtain ⟨k, _, hd, hf⟩ := exists_follows rules c
  rw [hd, Rules.trace, (hf 0).offer]

end Trace

namespace Rules

def StopsOn (rules : Rules) (c : Customer) (n : Nat) : Prop :=
  ∃ k r, rules.FirstAccepting c (some k) ∧ rules[k]? = some r ∧ r.line = some n

variable {rules : Rules} {c : Customer}

lemma matchedLine_trace_eq_some_iff {n : Nat} :
    (rules.trace c).matchedLine = some n ↔ rules.StopsOn c n := by
  rw [trace, Trace.matchedLine_runFrom]
  constructor
  · intro h
    obtain ⟨k, hk, _⟩ := Trace.exists_follows rules c
    rw [find?_of_firstAccepting hk] at h
    obtain ⟨r, hr, hn⟩ := Option.bind_eq_some_iff.mp h
    obtain ⟨k, rfl, hr⟩ := Option.bind_eq_some_iff.mp hr
    exact ⟨k, r, hk, hr, hn⟩
  · rintro ⟨k, r, hk, hr, hn⟩
    rw [find?_of_firstAccepting hk, Option.bind_some, hr, Option.bind_some, hn]

lemma not_stopsOn (h : rules.FirstAccepting c none) (n : Nat) : ¬ rules.StopsOn c n := by
  rintro ⟨k, _, ⟨⟨r, hr, haccepts⟩, _⟩, _⟩
  exact h r (List.mem_of_getElem? hr) haccepts

end Rules

/-- Deciding and tracing stop at the same rule, and the trace tells what became of every rule. -/
theorem Rules.trace_follows (rules : Rules) (c : Customer) :
    ∃ k, rules.FirstAccepting c k ∧ rules.decide c = rules.offerAt k ∧
      (rules.trace c).Follows 0 rules k := by
  obtain ⟨k, hk, hd, hf⟩ := Trace.exists_follows rules c
  exact ⟨k, hk, hd, hf 0⟩

end OfferPolicy
