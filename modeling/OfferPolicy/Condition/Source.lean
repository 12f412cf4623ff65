import OfferPolicy.Condition.Basic
import OfferPolicy.Decimal.Layout

namespace OfferPolicy

open Decimal (plain)

def escapeChar (c : Char) : List Char :=
  if c = '\\' then ['\\', '\\'] else if c = '"' then ['\\', '"'] else [c]

def Literal.chars : Literal → List Char
  | null => "null".toList
  | number n => (plain.render n).toList
  | text s => '"' :: s.toList.flatMap escapeChar ++ ['"']

def Literal.source (l : Literal) : String :=
  String.ofList l.chars

def Comparison.chars (c : Comparison) : List Char :=
  c.field.name.toList ++ ' ' :: c.op.symbol.toList ++ ' ' :: c.literal.chars

def Comparison.source (c : Comparison) : String :=
  String.ofList c.chars

def Condition.chars (c : Condition) : List Char :=
  List.intercalate " AND ".toList (c.terms.map Comparison.chars)

def Condition.source (c : Condition) : String :=
  String.ofList c.chars

end OfferPolicy
