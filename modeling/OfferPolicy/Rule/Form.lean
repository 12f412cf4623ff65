import OfferPolicy.Condition.Form
import OfferPolicy.Rule.Basic

namespace OfferPolicy

open OfferPolicy.Tree

def Label.toTree (l : Label) : Tree := .text l.text

def Label.ofTree (t : Tree) : Except Mismatch Label :=
  (asText t).map Label.ofTag

def Guard.conditionTree? : Guard → Option Tree
  | always => none
  | holds c => some (.table [("compiled", c.toTree)])
  | broken source reason =>
    some (.table [("invalid", .table [("source", .text source), ("reason", .text reason)])])

/-- What stands behind the name of a kind is a list in place of a table only in a value whose type
did not show while it was read. -/
def mayBeTable : Context → Tree → Bool
  | .typed, .list _ => false
  | _, _ => true

def Guard.ofConditionTree (context : Context) (t : Tree) : Except Mismatch Guard := do
  match ← asVariant t with
  | ("compiled", some t) => .ok (holds (← Condition.ofTree context t))
  | ("invalid", some t) =>
    if mayBeTable context t then
      t |> asRow ["source", "reason"] fun row => do
        .ok (broken (← row.required "source" asText) (← row.required "reason" asText))
    else .error .form
  | _ => .error .form

namespace Rule

def toTree (r : Rule) : Tree :=
  let shared := ("result", r.offer.toTree) :: Tree.optional "line" (fun n => .int n) r.line
  match r.guard.conditionTree? with
  | some condition => .table (("type", .text "conditional") :: ("condition", condition) :: shared)
  | none => .table (("type", .text "fallback") :: shared)

/-- The kind of a rule, and what else is said of it: a table without its entry `type`, or a list
without its first item. The type of the rest shows only with the kind. -/
def kindOf : Tree → Except Mismatch (String × Tree)
  | .table es =>
    match es.filter (·.1 == "type") with
    | [(_, t)] => do .ok (← asText t, .table (es.filter (·.1 != "type")))
    | _ => .error .form
  | .list (t :: ts) => do .ok (← asText t, .list ts)
  | _ => .error .form

def ofTree (t : Tree) : Except Mismatch Rule := do
  match ← kindOf t with
  | ("conditional", body) =>
    body |> asRow ["condition", "result", "line"] fun row => do
      let guard ← row.required "condition" (Guard.ofConditionTree .untyped)
      let offer ← row.required "result" Label.ofTree
      .ok ⟨guard, offer, ← row.optional "line" asCount⟩
  | ("fallback", body) =>
    body |> asRow ["result", "line"] fun row => do
      let offer ← row.required "result" Label.ofTree
      .ok ⟨.always, offer, ← row.optional "line" asCount⟩
  | _ => .error .form

end Rule

namespace Rules

def toTree (rules : Rules) : Tree := .list (rules.map Rule.toTree)

def ofTree (t : Tree) : Except Mismatch Rules :=
  asListOf Rule.ofTree t

end Rules

end OfferPolicy
