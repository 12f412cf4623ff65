/-!
Conditions on a customer: comparisons of a field with a literal, joined by AND.

A comparison carries the proof that its operator and literal fit its field, and a condition the
proof that it has a comparison, so neither has to be checked again when it is evaluated.
-/

namespace OfferPolicy

inductive Field where
  | churnScore
  | monthlyCharges
  | tenure
  | segment
  | contract
  deriving DecidableEq, Repr

namespace Field

def all : List Field := [churnScore, monthlyCharges, tenure, segment, contract]

def name : Field → String
  | churnScore => "churn_score"
  | monthlyCharges => "monthly_charges"
  | tenure => "tenure"
  | segment => "segment"
  | contract => "contract"

def isText : Field → Bool
  | segment | contract => true
  | churnScore | monthlyCharges | tenure => false

def ofName? (s : String) : Option Field :=
  all.find? (·.name == s)

@[simp] theorem ofName?_name (f : Field) : ofName? f.name = some f := by
  cases f <;> decide

theorem eq_of_ofName? {s : String} {f : Field} (h : ofName? s = some f) : s = f.name := by
  have h' := List.find?_some h
  exact (beq_iff_eq.1 h').symm

end Field

inductive Operator where
  | eq
  | ne
  | lt
  | le
  | gt
  | ge
  deriving DecidableEq, Repr

namespace Operator

def all : List Operator := [eq, ne, lt, le, gt, ge]

def symbol : Operator → String
  | eq => "=="
  | ne => "!="
  | lt => "<"
  | le => "<="
  | gt => ">"
  | ge => ">="

def isOrdering : Operator → Bool
  | eq | ne => false
  | lt | le | gt | ge => true

end Operator

inductive Literal where
  | null
  | number (n : Float)
  | text (s : String)
  deriving BEq, Repr

def Literal.kind : Literal → String
  | null => "null"
  | number _ => "number"
  | text _ => "string"

/-- Whether operator and literal make sense after the field: `null` and text only with `==` and
`!=`, text after a text field and numbers after a numeric one. -/
def Fits (f : Field) (op : Operator) : Literal → Prop
  | .null => op.isOrdering = false
  | .number _ => f.isText = false
  | .text _ => f.isText = true ∧ op.isOrdering = false

instance (f : Field) (op : Operator) (l : Literal) : Decidable (Fits f op l) := by
  cases l <;> unfold Fits <;> infer_instance

structure Comparison where
  field : Field
  op : Operator
  literal : Literal
  fits : Fits field op literal

instance : BEq Comparison where
  beq a b := a.field == b.field && a.op == b.op && a.literal == b.literal

inductive Misfit where
  | orderedNull (f : Field) (op : Operator)
  | orderedText (f : Field) (op : Operator)
  | otherKind (f : Field) (kind : String)
  deriving DecidableEq, Repr

def Misfit.message : Misfit → String
  | orderedNull f op => f.name ++ " " ++ op.symbol ++ " null: null only supports == and !="
  | orderedText f op => f.name ++ " is a text field and does not support " ++ op.symbol
  | otherKind f kind => f.name ++ " cannot be compared with a " ++ kind ++ " literal"

def misfit (f : Field) (op : Operator) : Literal → Misfit
  | .null => .orderedNull f op
  | .number n => .otherKind f (Literal.number n).kind
  | .text s => if f.isText then .orderedText f op else .otherKind f (Literal.text s).kind

def Comparison.make (f : Field) (op : Operator) (l : Literal) : Except Misfit Comparison :=
  if h : Fits f op l then .ok ⟨f, op, l, h⟩ else .error (misfit f op l)

theorem Comparison.make_eq_ok {f : Field} {op : Operator} {l : Literal} (h : Fits f op l) :
    make f op l = .ok ⟨f, op, l, h⟩ := by
  simp [make, h]

structure Condition where
  terms : List Comparison
  nonempty : terms ≠ []

instance : BEq Condition where
  beq a b := a.terms == b.terms

def Condition.ofTerms? (terms : List Comparison) : Option Condition :=
  if h : terms = [] then none else some ⟨terms, h⟩

end OfferPolicy
