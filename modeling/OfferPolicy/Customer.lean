import OfferPolicy.Columns
import OfferPolicy.Label
import OfferPolicy.Segment

namespace OfferPolicy

structure Customer where
  id : Option String := none
  segment : Option Segment := none
  contract : Option String := none
  monthlyCharges : Option Float := none
  tenure : Option Float := none
  churnScore : Option Float := none
  extra : Columns := .empty

instance : Inhabited Customer := ⟨{}⟩

/-- A missing score is never high, nor is one that is not a number. -/
def Customer.isHighRisk (c : Customer) (threshold : Float) : Bool :=
  match c.churnScore with
  | some score => threshold ≤ score
  | none => false

structure Outcome where
  customer : Customer
  offer : Label
  cost : Float

def Outcome.priced (customer : Customer) (offer : Label) : Outcome :=
  ⟨customer, offer, Float.ofNat offer.price⟩

end OfferPolicy
