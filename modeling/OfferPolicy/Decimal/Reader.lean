import OfferPolicy.Decimal.Scientific

/-!
Reading floating point numbers: an optional sign, then `inf`, `infinity` or `nan` in any case, or
digits with at most one point among or around them and an optional exponent. Nothing else may stand
in the text, and the number is the one nearest to what is written.
-/

namespace OfferPolicy.Decimal

def isDigit (c : Char) : Bool :=
  '0' ≤ c && c ≤ '9'

def natOf (cs : List Char) : Nat :=
  cs.foldl (fun n c => 10 * n + (c.toNat - '0'.toNat)) 0

def Scientific.ofParts (whole fraction : List Char) (exponent : Int) : Scientific :=
  ⟨natOf (whole ++ fraction), exponent - fraction.length⟩

def takeSign : List Char → Bool × List Char
  | '-' :: cs => (true, cs)
  | '+' :: cs => (false, cs)
  | cs => (false, cs)

def exponent? : List Char → Option Int
  | [] => some 0
  | c :: cs =>
    let ds := (takeSign cs).2
    if c.toLower = 'e' && !ds.isEmpty && ds.all isDigit then
      some (if (takeSign cs).1 then -(natOf ds : Int) else natOf ds)
    else none

def scientific? (cs : List Char) : Option Scientific :=
  let whole := cs.takeWhile isDigit
  let rest := cs.dropWhile isDigit
  let fraction := if rest.head? = some '.' then rest.tail.takeWhile isDigit else []
  let tail := if rest.head? = some '.' then rest.tail.dropWhile isDigit else rest
  if whole.isEmpty && fraction.isEmpty then none
  else (exponent? tail).map (Scientific.ofParts whole fraction)

def float? (cs : List Char) : Option Float :=
  let (negative, body) := takeSign cs
  let word := body.map Char.toLower
  if word = "inf".toList || word = "infinity".toList then some (infinity negative)
  else if word = "nan".toList then some nan
  else (scientific? body).map (Scientific.toFloat negative)

end OfferPolicy.Decimal
