import OfferPolicy.Decimal.Binary64

namespace OfferPolicy

inductive Tree where
  | null
  | bool (b : Bool)
  | int (n : Int)
  | float (x : Float)
  | text (s : String)
  | bare (s : String)
  /-- A list, which may stand for a table if it has no item too many. -/
  | list (items : List Tree)
  /-- A list that may stand for a table whatever items are left over. -/
  | array (items : List Tree)
  /-- A list that never stands for a table. -/
  | sequence (items : List Tree)
  | table (entries : List (String × Tree))
  | keyed (entries : List (Tree × Tree))
  deriving Inhabited

namespace Tree

def ofFloat (x : Float) : Tree :=
  if Decimal.isFinite x then float x else null

def ofOption {α : Type} (f : α → Tree) : Option α → Tree
  | some a => f a
  | none => null

def optional {α : Type} (name : String) (f : α → Tree) : Option α → List (String × Tree)
  | some a => [(name, f a)]
  | none => []

end Tree

end OfferPolicy
