import OfferPolicy.Condition.Basic
import OfferPolicy.Customer
import OfferPolicy.Decimal.Layout

/-!
Whether a condition holds of a customer.

A missing field equals `null` and nothing else, and no order holds of it. Numbers are equal when
they are closer than the gap behind one; texts are equal when they are the same.
-/

namespace OfferPolicy

inductive Value where
  | null
  | number (n : Float)
  | text (s : String)

namespace Value

def isNull : Value → Bool
  | null => true
  | number _ | text _ => false

def kind : Value → String
  | null => "null"
  | number _ => "number"
  | text _ => "string"

def shown : Value → String
  | null => "null"
  | number n => Decimal.plain.render n
  | text s => s

def ofNumber? : Option Float → Value
  | some n => number n
  | none => null

def ofText? : Option String → Value
  | some s => text s
  | none => null

@[simp] theorem isNull_ofNumber? (n : Option Float) : (ofNumber? n).isNull = n.isNone := by
  cases n <;> rfl

end Value

def Field.value (c : Customer) : Field → Value
  | churnScore => .ofNumber? c.churnScore
  | monthlyCharges => .ofNumber? c.monthlyCharges
  | tenure => .ofNumber? c.tenure
  | segment => .ofText? (c.segment.map Segment.tag)
  | contract => .ofText? c.contract

def Literal.value : Literal → Value
  | null => .null
  | number n => .number n
  | text s => .text s

def tolerance : Float :=
  Decimal.ofPlace false ((1023 - 52) * 2 ^ 52)

def numbersEqual (a b : Float) : Bool :=
  (a - b).abs < tolerance

namespace Operator

def compareNumbers (a b : Float) : Operator → Bool
  | eq => numbersEqual a b
  | ne => !numbersEqual a b
  | lt => a < b
  | le => a ≤ b
  | gt => b < a
  | ge => b ≤ a

def compareTexts (a b : String) : Operator → Bool
  | eq => a == b
  | ne => a != b
  | lt | le | gt | ge => false

def compareNull (left : Value) : Operator → Bool
  | eq => left.isNull
  | ne => !left.isNull
  | lt | le | gt | ge => false

def holds (op : Operator) : Value → Value → Bool
  | left, .null => op.compareNull left
  | .number a, .number b => op.compareNumbers a b
  | .text a, .text b => op.compareTexts a b
  | _, _ => false

end Operator

def Comparison.holds (t : Comparison) (c : Customer) : Bool :=
  t.op.holds (t.field.value c) t.literal.value

def Condition.holds (e : Condition) (c : Customer) : Bool :=
  e.terms.all (·.holds c)

theorem Condition.holds_iff {e : Condition} {c : Customer} :
    e.holds c = true ↔ ∀ t ∈ e.terms, t.holds c = true :=
  List.all_eq_true

end OfferPolicy
