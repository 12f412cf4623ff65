import OfferPolicy.Decimal.Scientific

/-!
The shortest decimal number that reads back as a given floating point number.

For one digit, two digits and so on the two neighbours of the number on the grid of that many
digits are tried. The first grid with a neighbour that reads back decides, and the nearer of two
such neighbours wins. Every magnitude also has an exact decimal form, which stands in should no
grid of seventeen digits do.
-/

namespace OfferPolicy.Decimal

inductive Tie where
  | up
  | even
  deriving DecidableEq, Repr

def pointOf (p : Nat) : Int :=
  ((Nat.toDigits 10 (units p * 10 ^ 324 / 2 ^ 1074)).length : Int) - 324

def onGrid (p : Nat) (e : Int) : Nat × Nat :=
  match e with
  | .ofNat e => (units p, 2 ^ 1074 * 10 ^ e)
  | .negSucc e => (units p * 10 ^ (e + 1), 2 ^ 1074)

/-- The neighbour on the grid of step `10 ^ e` that reads back, the nearer one if both do. -/
def neighbour? (tie : Tie) (p : Nat) (e : Int) : Option Scientific :=
  let num := (onGrid p e).1
  let den := (onGrid p e).2
  let below : Scientific := ⟨num / den, e⟩
  let above : Scientific := ⟨num / den + 1, e⟩
  let twice := 2 * (num % den)
  let nearBelow := twice < den || (twice == den && tie == .even && num / den % 2 == 0)
  if below.place = p && (nearBelow || above.place ≠ p) then some below
  else if above.place = p then some above
  else none

theorem place_of_neighbour? {tie : Tie} {p : Nat} {e : Int} {d : Scientific}
    (h : neighbour? tie p e = some d) : d.place = p := by
  simp only [neighbour?] at h
  split at h
  · next hb =>
    simp only [Bool.and_eq_true, decide_eq_true_eq] at hb
    cases h
    exact hb.1
  · split at h
    · next ha =>
      cases h
      exact ha
    · cases h

def exact (p : Nat) : Scientific :=
  ⟨units p * 5 ^ 1074, -1074⟩

/-- The decimal number with the fewest digits that reads back as the number at place `p`. -/
def shortest (tie : Tie) (p : Nat) : Scientific :=
  if p = 0 then ⟨0, 0⟩
  else
    let point := pointOf p
    match (List.range 17).findSome? fun (i : Nat) => neighbour? tie p (point - (i + 1)) with
    | some d => d.normal
    | none => (exact p).normal

end OfferPolicy.Decimal
