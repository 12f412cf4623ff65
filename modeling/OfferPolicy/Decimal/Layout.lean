import OfferPolicy.Decimal.Shortest

/-!
Written forms of floating point numbers.

A `Layout` says how a shortest decimal number is set on paper: which numbers are written without
an exponent, how an exponent is introduced and whether a whole number shows its point. Fixed places
are cut from the exact value, a half going to the even digit.
-/

namespace OfferPolicy.Decimal

structure Layout where
  /-- Numbers with their point between these two places behind the first digit have no exponent. -/
  positional : Option (Int × Int)
  showsPoint : Bool
  plus : List Char
  tie : Tie

def Scientific.plainText (d : Scientific) : List Char :=
  match d.exponent with
  | .ofNat e => d.text ++ List.replicate e '0'
  | .negSucc e =>
    let places := e + 1
    if places < d.text.length then
      d.text.take (d.text.length - places) ++ '.' :: d.text.drop (d.text.length - places)
    else ['0', '.'] ++ List.replicate (places - d.text.length) '0' ++ d.text

def Scientific.exponentText (plus : List Char) (d : Scientific) : List Char :=
  let e := d.point - 1
  let sign := if e < 0 then ['-'] else plus
  let mantissa :=
    match d.text with
    | [] => []
    | [c] => [c]
    | c :: cs => c :: '.' :: cs
  mantissa ++ 'e' :: sign ++ Nat.toDigits 10 e.natAbs

def Layout.magnitude (l : Layout) (p : Nat) : List Char :=
  let d := shortest l.tie p
  let isPositional := p == 0 ||
    match l.positional with
    | none => true
    | some (low, high) => low < d.point && d.point ≤ high
  if isPositional then
    d.plainText ++ if l.showsPoint && 0 ≤ d.exponent then ['.', '0'] else []
  else d.exponentText l.plus

def signOf (x : Float) : List Char :=
  if isNegative x then ['-'] else []

def Layout.render (l : Layout) (x : Float) : String :=
  String.ofList <|
    if isNaN x then "NaN".toList
    else if isFinite x then signOf x ++ l.magnitude (place x)
    else signOf x ++ "inf".toList

def plain : Layout where
  positional := none
  showsPoint := false
  plus := []
  tie := .up

def json : Layout where
  positional := some (-5, 16)
  showsPoint := true
  plus := ['+']
  tie := .even

def fixed (places : Nat) (x : Float) : String :=
  String.ofList <|
    if isNaN x then "NaN".toList
    else if isFinite x then
      let n := roundEven (units (place x) * 10 ^ places) (2 ^ 1074)
      signOf x ++ if places = 0 then Nat.toDigits 10 n else Scientific.plainText ⟨n, -(places : Int)⟩
    else signOf x ++ "inf".toList

end OfferPolicy.Decimal
