import OfferPolicy.Text.Case

namespace OfferPolicy

structure Label where
  text : String
  deriving DecidableEq, Repr

namespace Label

def ofTag (tag : String) : Label :=
  ⟨String.ofList (Text.upper tag.toList)⟩

def noOffer : Label := ⟨"NO_OFFER"⟩

def big : Label := ⟨"BIG"⟩

def medium : Label := ⟨"MEDIUM"⟩

def small : Label := ⟨"SMALL"⟩

def price (l : Label) : Nat :=
  if l = big then 50 else if l = medium then 25 else if l = small then 10 else 0

@[simp] theorem price_big : big.price = 50 := by decide

@[simp] theorem price_small : small.price = 10 := by decide

theorem price_le (l : Label) : l.price ≤ 50 := by
  unfold price
  split
  · exact Nat.le_refl 50
  · split
    · decide
    · split <;> decide

end Label

end OfferPolicy
