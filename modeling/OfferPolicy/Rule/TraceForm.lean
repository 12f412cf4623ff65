import OfferPolicy.Rule.Form
import OfferPolicy.Rule.Trace

namespace OfferPolicy

def untimed (shown : Bool) (name : String) : List (String × Tree) :=
  if shown then [(name, .int 0)] else []

def Entry.toTree (timed : Bool) (e : Entry) : Tree :=
  .table ([("index", .int e.index)] ++
    Tree.optional "line" (fun n => .int n) e.rule.line ++
    [("rule_display", .text e.rule.source),
      ("label", e.rule.offer.toTree),
      ("result", .text e.status.name)] ++
    untimed timed "evaluation_duration_us" ++
    Tree.optional "error" .text e.status.reason?)

def Trace.toTree (timed : Bool) (t : Trace) : Tree :=
  .table ([("offer", t.offer.toTree)] ++
    Tree.optional "matched_rule" (fun n => .int n) t.matchedRule ++
    [("has_errors", .bool t.hasErrors),
      ("total_rules_evaluated", .int t.evaluated),
      ("total_rules_skipped", .int t.skipped)] ++
    untimed timed "evaluation_duration_us" ++
    [("trace", .list (t.entries.map (Entry.toTree timed)))])

end OfferPolicy
