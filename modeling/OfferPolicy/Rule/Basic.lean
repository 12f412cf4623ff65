import OfferPolicy.Condition.Reader
import OfferPolicy.Condition.Source
import OfferPolicy.Label

namespace OfferPolicy

inductive Guard where
  | always
  | holds (condition : Condition)
  | broken (source reason : String)
  deriving BEq

namespace Guard

def ofText (source : String) : Guard :=
  match Condition.compile source with
  | .ok condition => .holds condition
  | .error e => .broken source e.message

def isAlways : Guard → Bool
  | always => true
  | holds _ | broken .. => false

def isBroken : Guard → Bool
  | broken .. => true
  | always | holds _ => false

def source? : Guard → Option String
  | always => none
  | holds condition => some condition.source
  | broken source _ => some source

end Guard

structure Rule where
  guard : Guard
  offer : Label
  line : Option Nat := none
  deriving BEq

namespace Rule

def source (r : Rule) : String :=
  match r.guard.source? with
  | some condition => "IF " ++ condition ++ " THEN RETURN \"" ++ r.offer.text ++ "\""
  | none => "RETURN \"" ++ r.offer.text ++ "\""

end Rule

abbrev Rules := List Rule

def Rules.broken (rules : Rules) : List Rule :=
  rules.filter (·.guard.isBroken)

end OfferPolicy
