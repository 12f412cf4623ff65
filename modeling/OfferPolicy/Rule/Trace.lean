import OfferPolicy.Rule.Decision

namespace OfferPolicy

inductive Status where
  | matched
  | notMatched
  | skipped
  | failed (reason : String)
  deriving DecidableEq, Repr

namespace Status

def name : Status → String
  | matched => "matched"
  | notMatched => "not_matched"
  | skipped => "skipped"
  | failed _ => "error"

def reason? : Status → Option String
  | failed reason => some reason
  | matched | notMatched | skipped => none

end Status

def Guard.status (c : Customer) : Guard → Status
  | always => .matched
  | holds condition => if condition.holds c then .matched else .notMatched
  | broken _ reason => .failed reason

structure Entry where
  index : Nat
  rule : Rule
  status : Status

structure Trace where
  offer : Label
  matchedRule : Option Nat
  hasErrors : Bool
  evaluated : Nat
  skipped : Nat
  entries : List Entry

namespace Trace

def skipAll (index : Nat) : List Rule → List Entry
  | [] => []
  | r :: rules => ⟨index, r, .skipped⟩ :: skipAll (index + 1) rules

@[simp] theorem length_skipAll (index : Nat) (rules : List Rule) :
    (skipAll index rules).length = rules.length := by
  induction rules generalizing index with
  | nil => rfl
  | cons r rules ih => simp [skipAll, ih]

def prepend (e : Entry) (t : Trace) : Trace :=
  { t with
    hasErrors := e.status.reason?.isSome || t.hasErrors
    evaluated := t.evaluated + 1
    entries := e :: t.entries }

def runFrom (c : Customer) (index : Nat) : List Rule → Trace
  | [] => ⟨.noOffer, none, false, 0, 0, []⟩
  | r :: rules =>
    match r.guard.status c with
    | .matched =>
      ⟨r.offer, some index, false, 1, rules.length,
        ⟨index, r, .matched⟩ :: skipAll (index + 1) rules⟩
    | s => (runFrom c (index + 1) rules).prepend ⟨index, r, s⟩

@[simp] theorem length_entries_runFrom (c : Customer) (index : Nat) (rules : List Rule) :
    (runFrom c index rules).entries.length = rules.length := by
  induction rules generalizing index with
  | nil => rfl
  | cons r rules ih =>
    simp only [runFrom]
    split <;> simp [prepend, ih]

def matchedLine (t : Trace) : Option Nat :=
  (t.entries.find? (·.status = .matched)).bind (·.rule.line)

end Trace

def Rules.trace (rules : Rules) (c : Customer) : Trace :=
  Trace.runFrom c 0 rules

end OfferPolicy
