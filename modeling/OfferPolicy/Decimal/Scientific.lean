import OfferPolicy.Decimal.Binary64

namespace OfferPolicy.Decimal

structure Scientific where
  digits : Nat
  exponent : Int
  deriving DecidableEq, Repr

namespace Scientific

def text (d : Scientific) : List Char :=
  Nat.toDigits 10 d.digits

def point (d : Scientific) : Int :=
  d.text.length + d.exponent

def normal (d : Scientific) : Scientific :=
  let zeros := (d.text.reverse.takeWhile (· == '0')).length
  if d.digits = 0 then ⟨0, 0⟩ else ⟨d.digits / 10 ^ zeros, d.exponent + zeros⟩

/-- The place of the floating point number nearest to a decimal number. Numbers from `10 ^ 310` on
are infinite and numbers below `10 ^ (-330)` are zero, whatever their digits. -/
def place (d : Scientific) : Nat :=
  if d.digits = 0 || d.point < -330 then 0
  else if 310 < d.point then infinityPlace
  else
    match d.exponent with
    | .ofNat e => nearestPlace (d.digits * 10 ^ e) 1
    | .negSucc e => nearestPlace d.digits (10 ^ (e + 1))

def toFloat (negative : Bool) (d : Scientific) : Float :=
  ofPlace negative d.place

end Scientific

end OfferPolicy.Decimal
