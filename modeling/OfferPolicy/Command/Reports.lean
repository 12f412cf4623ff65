import OfferPolicy.Command.Table
import OfferPolicy.Decimal.Layout
import OfferPolicy.Fixture
import OfferPolicy.Rule.Trace

namespace OfferPolicy.Command

open Decimal (plain fixed)

def ofLines (lines : List (List Char)) : String :=
  String.ofList (lines.flatMap (· ++ ['\n']))

def ofStrings (lines : List String) : String :=
  ofLines (lines.map String.toList)

def numberCell (places : Nat) : Option Float → String
  | some x => fixed places x
  | none => ""

section

open Score

def summaryLines (k : Kpi Float) : List String :=
  ["Rows:      " ++ toString k.rows,
    "Budget:    $" ++ plain.render k.totalCost,
    "Coverage:  " ++ toString k.coveragePercent ++ "% (" ++ toString k.covered ++ "/" ++
      toString k.highRisk ++ " high risk)",
    "Score:     " ++ toString k.finalScore,
    "Avg cost:  $" ++ fixed 2 k.avgCost,
    "           safety " ++ fixed 1 k.safetyScore ++ " + efficiency " ++
      fixed 1 k.efficiencyScore ++ " - penalty " ++ fixed 1 k.penalty]

end

def outcomeHeader : List String :=
  ["customer_id", "segment", "monthly_charges", "tenure", "contract", "churn_score", "offer", "cost"]

def outcomeCells (o : Outcome) : List String :=
  [o.customer.id.getD "",
    (o.customer.segment.map Segment.tag).getD "",
    numberCell 2 o.customer.monthlyCharges,
    numberCell 0 o.customer.tenure,
    o.customer.contract.getD "",
    numberCell 2 o.customer.churnScore,
    o.offer.text,
    plain.render o.cost]

def restLines (rows : Nat) (os : List Outcome) : List (List Char) :=
  if rows < os.length then [("... " ++ toString (os.length - rows) ++ " more rows").toList]
  else []

def outcomeText? (rows : Nat) (os : List Outcome) : Option String :=
  let cells := (os.take rows).map fun o => (outcomeCells o).map String.toList
  (tableLines? (outcomeHeader.map String.toList) cells).map fun lines =>
    ofLines (lines ++ restLines rows os)

def simulationText? (rows : Nat) (s : Simulation) : Option String :=
  (outcomeText? rows s.outcomes).map fun table =>
    ofStrings (summaryLines s.summary ++ [""]) ++ table

def lineNumber (line : Option Nat) : String :=
  String.ofList (padFrontTo 3 ((line.map toString).getD "-").toList)

def ruleLines (r : Rule) : List String :=
  let shown (status : String) :=
    "  [" ++ status ++ "] line " ++ lineNumber r.line ++ "  " ++ r.source
  match r.guard with
  | .broken _ reason => [shown "ERR", "             " ++ reason]
  | .always | .holds _ => [shown "OK "]

def rulesText (rules : Rules) : String :=
  ofStrings ((toString rules.length ++ " rules loaded:") :: rules.flatMap ruleLines)

def marker : Status → String
  | .matched => "=>"
  | .notMatched => "  "
  | .skipped => " ."
  | .failed _ => "!!"

def entryLine (e : Entry) : String :=
  marker e.status ++ " line " ++ lineNumber e.rule.line ++ "  " ++
    String.ofList (padTo 11 e.status.name.toList) ++ " " ++ e.rule.source ++
    match e.status.reason? with
    | some reason => "  (" ++ reason ++ ")"
    | none => ""

def orNull (s : String) : String :=
  if s.isEmpty then "null" else s

def customerLine (c : Customer) : String :=
  "customer " ++ c.id.getD "-" ++ ": segment=" ++ (c.segment.map Segment.tag).getD "null" ++
    " contract=" ++ c.contract.getD "null" ++
    " monthly_charges=" ++ orNull (numberCell 2 c.monthlyCharges) ++
    " tenure=" ++ orNull (numberCell 0 c.tenure) ++
    " churn_score=" ++ orNull (numberCell 2 c.churnScore)

def offerLine (t : Trace) : String :=
  "offer: " ++ t.offer.text ++ " (cost " ++ toString t.offer.price ++ "), " ++
    toString t.evaluated ++ " evaluated, " ++ toString t.skipped ++ " skipped, 0us"

def traceText (c : Customer) (t : Trace) : String :=
  ofStrings (customerLine c :: t.entries.map entryLine ++ [offerLine t])

def onLine (line : Option Nat) : String :=
  match line with
  | some n => " (line " ++ toString n ++ ")"
  | none => ""

def resultLine (r : Fixture.Result) : String :=
  if r.passed then "  [PASS] " ++ r.name
  else
    "  [FAIL] " ++ r.name ++ ": expected " ++ r.expected.text ++ onLine r.expectedLine ++
      ", got " ++ r.actual.text ++ onLine r.actualLine

def fixtureText (s : Fixture.Summary) : String :=
  ofStrings (s.results.map resultLine ++
    [toString s.passed ++ " passed, " ++ toString s.failed ++ " failed, " ++ toString s.total ++
      " total (0ms)"])

end OfferPolicy.Command
