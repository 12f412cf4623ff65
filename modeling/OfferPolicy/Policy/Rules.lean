import OfferPolicy.Policy.Document
import OfferPolicy.Policy.RuleLine
import OfferPolicy.Rule.Basic

namespace OfferPolicy

open Text (trim)

def policyExtensions : List String := ["policy", "txt"]

def isSkipped (trimmed : List Char) : Bool :=
  trimmed.isEmpty || trimmed.take 2 == ['/', '/']

def Rule.ofLine? (l : Line) : Option Rule :=
  if isSkipped (trim l.chars) then none
  else
    match RuleLine.read (trim l.chars) with
    | .conditional condition label =>
      some ⟨.ofText (String.ofList condition), .ofTag (String.ofList label), some l.number⟩
    | .fallback label => some ⟨.always, .ofTag (String.ofList label), some l.number⟩
    | .unrecognized => none

def Rules.ofDocument (d : Document) : Rules :=
  match d.section? Document.rulesName with
  | some s => s.lines.filterMap Rule.ofLine?
  | none => []

def Rules.ofText (s : String) : Rules :=
  .ofDocument (.ofText s)

end OfferPolicy
