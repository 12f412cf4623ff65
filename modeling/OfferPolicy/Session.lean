import OfferPolicy.Churn.Model
import OfferPolicy.Dataset.Form
import OfferPolicy.Policy.Rules
import OfferPolicy.Rule.Trace

namespace OfferPolicy

structure Session where
  rules : Rules
  model : Churn.Model
  customers : List Customer

namespace Session

def start : Session := ⟨[], (Churn.Model.ofSeed 0).withJitter 0.0, []⟩

inductive Step where
  /-- Adds a rule behind the others. A condition that does not compile fails the step, unless such
  a condition is kept. -/
  | push (label : String) (condition : Option String) (keepBroken : Bool) (line : Option Nat)
  | appendPolicy (text : String)
  | clear
  | listRules
  | seed (seed : UInt64)
  | jitter (width : Float)
  | add (c : Customer)
  | loadCsv (text : String)
  | loadSample
  | score
  | enrich
  | decide
  | trace (index : Nat)
  | simulate (scoring : Score.Scoring Float)

inductive Reply where
  | pushed (source : String) (rules : Rules)
  | appended (count : Nat) (rules : Rules)
  | cleared (rules : Rules)
  | listed (rules : Rules)
  | jitter (width : Float)
  | customerCount (n : Nat)
  | scores (scores : List Float)
  | customers (cs : List Customer)
  | offers (labels : List Label)
  | trace (t : Trace)
  | kpi (k : Score.Kpi Float)

inductive Failure where
  | condition (e : ConditionError)
  | source (e : SourceError)
  | noSuchCustomer

def guardOf (condition : Option String) (keepBroken : Bool) : Except ConditionError Guard :=
  match condition with
  | none => .ok .always
  | some source =>
    match Condition.compile source with
    | .ok c => .ok (.holds c)
    | .error e => if keepBroken then .ok (.broken source e.message) else .error e

def push (s : Session) (r : Rule) : Session × Reply :=
  let rules := s.rules ++ [r]
  ({ s with rules }, .pushed r.source rules)

def addCustomers (s : Session) (cs : List Customer) : Session × Reply :=
  let customers := s.customers ++ cs
  ({ s with customers }, .customerCount customers.length)

def setModel (s : Session) (model : Churn.Model) : Session × Reply :=
  ({ s with model }, .jitter model.jitter)

def step (s : Session) : Step → Except Failure (Session × Reply)
  | .push label condition keepBroken line =>
    match guardOf condition keepBroken with
    | .ok guard => .ok (s.push ⟨guard, .ofTag label, line⟩)
    | .error e => .error (.condition e)
  | .appendPolicy text =>
    let added := Rules.ofText text
    let rules := s.rules ++ added
    .ok ({ s with rules }, .appended added.length rules)
  | .clear => .ok ({ s with rules := [] }, .cleared [])
  | .listRules => .ok (s, .listed s.rules)
  | .seed seed => .ok (s.setModel (.ofSeed seed))
  | .jitter width => .ok (s.setModel (s.model.withJitter width))
  | .add c => .ok (s.addCustomers [c])
  | .loadCsv text =>
    match Csv.read text with
    | .ok cs => .ok (s.addCustomers cs)
    | .error e => .error (.source e)
  | .loadSample => .ok (s.addCustomers sampleCustomers)
  | .score =>
    let r := s.model.scoreAll s.customers
    .ok ({ s with model := r.2 }, .scores r.1)
  | .enrich =>
    let r := s.model.enrichAll s.customers
    .ok ({ s with model := r.2, customers := r.1 }, .customers r.1)
  | .decide => .ok (s, .offers (s.customers.map s.rules.decide))
  | .trace index =>
    match s.customers[index]? with
    | some c => .ok (s, .trace (s.rules.trace c))
    | none => .error .noSuchCustomer
  | .simulate scoring => .ok (s, .kpi (s.rules.simulate scoring s.customers).summary)

end Session

end OfferPolicy
