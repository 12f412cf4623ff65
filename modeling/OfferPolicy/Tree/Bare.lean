import OfferPolicy.Decimal.Reader
import OfferPolicy.Text.Character

namespace OfferPolicy.Tree

open Decimal (isDigit)

def isNullWord (s : List Char) : Bool :=
  [[], ['~'], "null".toList, "Null".toList, "NULL".toList].contains s

def infinityWords : List (List Char) :=
  [".inf".toList, ".Inf".toList, ".INF".toList]

def nanWords : List (List Char) :=
  [".nan".toList, ".NaN".toList, ".NAN".toList]

def dropPlus : List Char → List Char
  | '+' :: cs => cs
  | cs => cs

def isSigned (cs : List Char) : Bool :=
  cs.head? == some '+' || cs.head? == some '-'

def bareFloat? (s : List Char) : Option Float :=
  let unsigned := dropPlus s
  if s.head? == some '+' && isSigned unsigned then none
  else if infinityWords.contains unsigned then some (Decimal.infinity false)
  else if s.head? == some '-' && infinityWords.contains s.tail then some (Decimal.infinity true)
  else if nanWords.contains s then some Decimal.nan
  else (Decimal.float? unsigned).filter Decimal.isFinite

def inBase? (base : Nat) (cs : List Char) : Option Nat :=
  Text.natOfDigits? base (dropPlus cs)

def isPadded (s : List Char) : Bool :=
  let ds := if isSigned s then s.tail else s
  ds.head? == some '0' && 1 < ds.length && ds.tail.all isDigit

def bareNat? (s : List Char) : Option Nat :=
  let unsigned := dropPlus s
  let named := match unsigned with
    | '0' :: 'x' :: ds => if isSigned ds then none else inBase? 16 ds
    | '0' :: 'o' :: ds => if isSigned ds then none else inBase? 8 ds
    | '0' :: 'b' :: ds => if isSigned ds then none else inBase? 2 ds
    | _ => none
  match named with
  | some n => some n
  | none => if isSigned unsigned || isPadded s then none else inBase? 10 unsigned

end OfferPolicy.Tree
