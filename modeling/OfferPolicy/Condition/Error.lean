import OfferPolicy.Condition.Basic
import OfferPolicy.Text.Quoted

namespace OfferPolicy

inductive Part where
  | field
  | operator
  | literal
  deriving DecidableEq, Repr

inductive Mistake where
  | wrongType
  | unknownField
  | unreadable
  deriving DecidableEq, Repr

inductive ConditionError where
  | blank
  /-- No comparison begins the text: `missing` does not stand at `rest`. -/
  | malformed (missing : Part) (rest : String)
  /-- Comparisons begin the text, but `rest` continues none of them. -/
  | trailing (rest : String)
  | unknownField (name : String)
  | misfit (m : Misfit)
  deriving DecidableEq, Repr

namespace ConditionError

def mistake : ConditionError → Mistake
  | blank | malformed .. | trailing _ => .unreadable
  | unknownField _ => .unknownField
  | misfit _ => .wrongType

def missingCode : Part → String
  | .field => "TakeWhile1"
  | .operator => "Tag"
  | .literal => "Char"

def quote (s : String) : String :=
  String.ofList (Text.quoted s.toList)

def message : ConditionError → String
  | blank => "parse error: empty condition"
  | malformed missing rest =>
    "parse error: condition parse error: Parsing Error: Error \x7b input: " ++ quote rest ++
      ", code: " ++ missingCode missing ++ " \x7d"
  | trailing rest => "parse error: unexpected trailing input: " ++ quote rest
  | unknownField name => "unknown field: " ++ name
  | misfit m => "type error: " ++ m.message

end ConditionError

end OfferPolicy
