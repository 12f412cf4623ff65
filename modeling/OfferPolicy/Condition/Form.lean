import OfferPolicy.Condition.Error
import OfferPolicy.Tree.Reading

namespace OfferPolicy

open OfferPolicy.Tree

namespace Field

def toTree (f : Field) : Tree := .text f.name

def ofTree (context : Context) (t : Tree) : Except Mismatch Field := do
  ofSome (ofName? (← asName context t))

end Field

namespace Operator

def word : Operator → String
  | eq => "Eq"
  | ne => "Ne"
  | lt => "Lt"
  | le => "Le"
  | gt => "Gt"
  | ge => "Ge"

def ofWord? (s : String) : Option Operator :=
  all.find? (·.word == s)

@[simp] theorem ofWord?_word (op : Operator) : ofWord? op.word = some op := by
  cases op <;> decide

def toTree (op : Operator) : Tree := .text op.word

def ofTree (context : Context) (t : Tree) : Except Mismatch Operator := do
  ofSome (ofWord? (← asName context t))

end Operator

namespace Literal

def toTree : Literal → Tree
  | null => .text "Null"
  | number n => .table [("Number", .ofFloat n)]
  | text s => .table [("String", .text s)]

def ofTree (context : Context) (t : Tree) : Except Mismatch Literal := do
  match ← asVariant t with
  | ("Null", t) => if isVoid context t then .ok null else .error .form
  | ("Number", some t) => .ok (number (← asFloat t))
  | ("String", some t) => .ok (text (← asText t))
  | _ => .error .form

end Literal

namespace Comparison

def toTree (c : Comparison) : Tree :=
  .table [("field", c.field.toTree), ("op", c.op.toTree), ("literal", c.literal.toTree)]

def partsOfTree (context : Context) :
    Tree → Except Mismatch (Field × Operator × Literal) :=
  asRow ["field", "op", "literal"] fun row => do
    let field ← row.required "field" (Field.ofTree context)
    let op ← row.required "op" (Operator.ofTree context)
    .ok (field, op, ← row.required "literal" (Literal.ofTree context))

def ofTree (context : Context) (t : Tree) : Except Mismatch Comparison := do
  let (field, op, literal) ← partsOfTree context t
  match make field op literal with
  | .ok c => .ok c
  | .error m => .error (.refused (ConditionError.misfit m).message)

end Comparison

namespace Condition

def toTree (c : Condition) : Tree :=
  .table [("terms", .list (c.terms.map Comparison.toTree))]

def ofTree (context : Context) (t : Tree) : Except Mismatch Condition := do
  let terms ← asRow ["terms"] (·.required "terms" (asListOf (Comparison.ofTree context))) t
  match ofTerms? terms with
  | some c => .ok c
  | none => .error (.refused ConditionError.blank.message)

end Condition

end OfferPolicy
