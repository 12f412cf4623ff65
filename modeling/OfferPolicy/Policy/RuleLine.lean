import OfferPolicy.Text.Blank

/-!
The two forms of a rule line: `IF condition THEN RETURN label` and `RETURN label`.

Keywords are written in any case, a quote may stand on either side of the label, and what follows
the last `THEN RETURN` decides. Lines are read from their end, where the label stands.
-/

namespace OfferPolicy

open Text (isBlank trim)

inductive RuleLine where
  | conditional (condition label : List Char)
  | fallback (label : List Char)
  | unrecognized
  deriving DecidableEq, Repr

namespace RuleLine

/-- Letters, the underscore, and the two characters beyond ASCII that are a case of a letter. -/
def isLabelChar (c : Char) : Bool :=
  c.isAlpha || c == '_' || c == 'ſ' || c == '\u212a'

def dropWord? : List Char → List Char → Option (List Char)
  | [], cs => some cs
  | _ :: _, [] => none
  | w :: ws, c :: cs => if c.toUpper = w then dropWord? ws cs else none

def dropBlanks? (cs : List Char) : Option (List Char) :=
  match cs with
  | [] => none
  | c :: cs => if isBlank c then some (cs.dropWhile isBlank) else none

def dropQuote : List Char → List Char
  | '"' :: cs => cs
  | cs => cs

/-- The label at the end of a line and, from back to front, what stands before its RETURN. -/
def returned? (backwards : List Char) : Option (List Char × List Char) :=
  let atLabel := dropQuote backwards
  let label := atLabel.takeWhile isLabelChar
  if label.isEmpty then none
  else
    (dropBlanks? (dropQuote (atLabel.dropWhile isLabelChar))).bind fun before =>
      (dropWord? "NRUTER".toList before).map fun front => (label.reverse, front)

/-- The condition in the text between IF and THEN. White space alone is no condition, but then one
of its inner characters is taken for it, the last that does not end the line. -/
def conditionIn? (gap : List Char) : Option (List Char) :=
  let condition := trim gap
  if condition.isEmpty then
    ((gap.drop 1).dropLast.reverse.find? (· ≠ '\n')).map fun c => [c]
  else if gap.head?.any isBlank && gap.getLast?.any isBlank && !condition.contains '\n' then
    some condition
  else none

def condition? (backwards : List Char) : Option (List Char) :=
  if backwards.head?.any isBlank then
    (dropWord? "NEHT".toList (backwards.dropWhile isBlank)).bind fun before =>
      (dropWord? "IF".toList before.reverse).bind conditionIn?
  else none

def read (line : List Char) : RuleLine :=
  match returned? line.reverse with
  | none => .unrecognized
  | some (label, []) => .fallback label
  | some (label, before) =>
    match condition? before with
    | some condition => .conditional condition label
    | none => .unrecognized

end RuleLine

end OfferPolicy
