namespace OfferPolicy.Text

/-- Whether an odd number of the ascending points is at most the character. -/
def within (bounds : List Nat) (c : Char) : Bool :=
  (bounds.takeWhile (· ≤ c.toNat)).length % 2 == 1

def digitValue (c : Char) : Nat :=
  if '0' ≤ c && c ≤ '9' then c.toNat - '0'.toNat
  else if 'a' ≤ c && c ≤ 'z' then c.toNat - 'a'.toNat + 10
  else if 'A' ≤ c && c ≤ 'Z' then c.toNat - 'A'.toNat + 10
  else 36

def isDigitOf (base : Nat) (c : Char) : Bool :=
  digitValue c < base

def natOfDigits? (base : Nat) (ds : List Char) : Option Nat :=
  if !ds.isEmpty && ds.all (isDigitOf base) then
    some (ds.foldl (fun n c => base * n + digitValue c) 0)
  else none

def hexChar? (digits : Nat) (cs : List Char) : Option (Char × List Char) :=
  if cs.length < digits then none
  else
    (natOfDigits? 16 (cs.take digits)).bind fun n =>
      if n.isValidChar then some (Char.ofNat n, cs.drop digits) else none

def hexDigits (n : Nat) : List Char :=
  Nat.toDigits 16 n

end OfferPolicy.Text
