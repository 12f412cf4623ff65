import OfferPolicy.Customer
import OfferPolicy.Rule.Form
import OfferPolicy.Tree.Reading

namespace OfferPolicy

open OfferPolicy.Tree

namespace Segment

def toTree (s : Segment) : Tree := .text s.tag

def ofTree (context : Context) (t : Tree) : Except Mismatch Segment := do
  ofSome (ofTag? (← asName context t))

end Segment

namespace Columns

def toTree (m : Columns) : Tree :=
  .table (m.entries.map fun e => (e.1, .text e.2))

def ofTree (t : Tree) : Except Mismatch Columns := do
  .ok (ofList (← asEntriesOf asText t))

end Columns

namespace Customer

def fieldNames : List String :=
  ["customer_id", "segment", "contract", "monthly_charges", "tenure", "churn_score", "extra"]

def entries (c : Customer) : List (String × Tree) :=
  Tree.optional "customer_id" .text c.id ++
    [("segment", .ofOption Segment.toTree c.segment),
      ("contract", .ofOption .text c.contract),
      ("monthly_charges", .ofOption .ofFloat c.monthlyCharges),
      ("tenure", .ofOption .ofFloat c.tenure),
      ("churn_score", .ofOption .ofFloat c.churnScore)] ++
    if c.extra.isEmpty then [] else [("extra", c.extra.toTree)]

def toTree (c : Customer) : Tree := .table c.entries

def ofRow (context : Context) (row : Row) : Except Mismatch Customer := do
  let id ← row.optional "customer_id" asText
  let segment ← row.optional "segment" (Segment.ofTree context)
  let contract ← row.optional "contract" asText
  let monthlyCharges ← row.optional "monthly_charges" asFloat
  let tenure ← row.optional "tenure" asFloat
  let churnScore ← row.optional "churn_score" asFloat
  let extra ← row.withDefault "extra" Columns.ofTree .empty
  .ok { id, segment, contract, monthlyCharges, tenure, churnScore, extra }

def ofTree : Tree → Except Mismatch Customer :=
  asRow fieldNames (ofRow .typed)

end Customer

namespace Outcome

def toTree (o : Outcome) : Tree :=
  .table (o.customer.entries ++ [("offer", o.offer.toTree), ("cost", .ofFloat o.cost)])

def ofTree : Tree → Except Mismatch Outcome
  | .table es =>
    .table es |> asRow (Customer.fieldNames ++ ["offer", "cost"]) fun row => do
      let offer ← row.required "offer" Label.ofTree
      let cost ← row.required "cost" asFloat
      .ok ⟨← Customer.ofRow .untyped row, offer, cost⟩
  | _ => .error .form

end Outcome

end OfferPolicy
