import OfferPolicy.Rule.Trace

/-!
Expectations of a policy, and how it meets them.

A case names a customer, the offer the customer should get and, if it matters, the line of the rule
that should decide.
-/

namespace OfferPolicy

namespace Fixture

structure Case where
  name : String
  customer : Customer
  expect : Label
  matchedLine : Option Nat

structure Result where
  name : String
  passed : Bool
  expected : Label
  actual : Label
  expectedLine : Option Nat
  actualLine : Option Nat

structure Summary where
  results : List Result

namespace Summary

def total (s : Summary) : Nat := s.results.length

def passed (s : Summary) : Nat := s.results.countP (·.passed)

def failed (s : Summary) : Nat := s.total - s.passed

def allPassed (s : Summary) : Bool := s.failed == 0

end Summary

def occursIn (needle : List Char) : List Char → Bool
  | [] => needle.isEmpty
  | c :: cs => needle.isPrefixOf (c :: cs) || occursIn needle cs

def Case.selected (filter : Option String) (case : Case) : Bool :=
  match filter with
  | none => true
  | some part => occursIn part.toList case.name.toList

def Case.run (rules : Rules) (case : Case) : Result :=
  let t := rules.trace case.customer
  { name := case.name
    passed := t.offer == case.expect &&
      (case.matchedLine.isNone || t.matchedLine == case.matchedLine)
    expected := case.expect
    actual := t.offer
    expectedLine := case.matchedLine
    actualLine := t.matchedLine }

def run (rules : Rules) (filter : Option String) (cases : List Case) : Summary :=
  ⟨(cases.filter (·.selected filter)).map (·.run rules)⟩

end Fixture

end OfferPolicy
