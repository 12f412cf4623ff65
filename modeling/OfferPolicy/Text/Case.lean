import OfferPolicy.Text.Case.Table
import OfferPolicy.Text.Character

/-!
Upper and lower case of a text by the full mappings of Unicode: one character may become several,
and a capital sigma at the end of a word becomes the final small sigma.
-/

namespace OfferPolicy.Text

def CaseRun.covers (r : CaseRun) (n : Nat) : Bool :=
  r.first ≤ n && n ≤ r.last && (n - r.first) % r.step == 0

def mapCase (runs : List CaseRun) (c : Char) : Char :=
  match runs.find? (·.covers c.toNat) with
  | some r => Char.ofNat ((c.toNat : Int) + r.shift).toNat
  | none => c

def upperChar (c : Char) : List Char :=
  match upperExpansions.find? (·.1 == c.toNat) with
  | some (_, us) => us.map Char.ofNat
  | none => [mapCase upperRuns c]

def upper (cs : List Char) : List Char :=
  cs.flatMap upperChar

def lowerChar (c : Char) : List Char :=
  if c = 'İ' then ['i', '\u0307'] else [mapCase lowerRuns c]

def startsCased (cs : List Char) : Bool :=
  match cs.dropWhile (within caseIgnorableBounds) with
  | [] => false
  | c :: _ => within casedBounds c

/-- Lower case of a text that follows one whose last character with a say has case, or not. -/
def lowerAfter (cased : Bool) : List Char → List Char
  | [] => []
  | c :: cs =>
    let next := if within caseIgnorableBounds c then cased else within casedBounds c
    if c = 'Σ' then (if cased && !startsCased cs then 'ς' else 'σ') :: lowerAfter next cs
    else lowerChar c ++ lowerAfter next cs

def lower (cs : List Char) : List Char :=
  lowerAfter false cs

end OfferPolicy.Text
