import OfferPolicy.Customer.Form
import OfferPolicy.Fixture
import OfferPolicy.Rule.TraceForm

namespace OfferPolicy.Fixture

open OfferPolicy.Tree

def Case.ofTree : Tree → Except Mismatch Case :=
  asRow ["name", "record", "expect", "matched_line"] fun row => do
    let name ← row.required "name" asText
    let customer ← row.withDefault "record" Customer.ofTree {}
    let expect ← row.required "expect" Label.ofTree
    .ok ⟨name, customer, expect, ← row.optional "matched_line" asCount⟩

def casesOfTree : Tree → Except Mismatch (List Case) :=
  asRow ["tests"] (·.required "tests" (asListOf Case.ofTree))

def Result.toTree (timed : Bool) (r : Result) : Tree :=
  .table ([("name", .text r.name),
      ("passed", .bool r.passed),
      ("expected", r.expected.toTree),
      ("actual", r.actual.toTree)] ++
    Tree.optional "expected_line" (fun n => .int n) r.expectedLine ++
    Tree.optional "actual_line" (fun n => .int n) r.actualLine ++
    untimed timed "duration_us")

def Summary.toTree (timed : Bool) (s : Summary) : Tree :=
  .table ([("total", .int s.total),
      ("passed", .int s.passed),
      ("failed", .int s.failed),
      ("results", .list (s.results.map (Result.toTree timed)))] ++
    untimed timed "duration_ms")

end OfferPolicy.Fixture
