import OfferPolicy.Decimal.Binary64

/-!
Reproducible noise: the ChaCha stream of twelve rounds under a key made from a seed.

The `i`-th draw depends on the key and on `i` alone, so a generator is its key and the number of
draws already taken.
-/

namespace OfferPolicy.Churn

abbrev Block := Vector UInt32 16

def rotate (x : UInt32) (n : UInt32) : UInt32 :=
  (x <<< n) ||| (x >>> (32 - n))

def quarter (a b c d : Fin 16) (v : Block) : Block :=
  let v := v.set a (v[a] + v[b])
  let v := v.set d (rotate (v[d] ^^^ v[a]) 16)
  let v := v.set c (v[c] + v[d])
  let v := v.set b (rotate (v[b] ^^^ v[c]) 12)
  let v := v.set a (v[a] + v[b])
  let v := v.set d (rotate (v[d] ^^^ v[a]) 8)
  let v := v.set c (v[c] + v[d])
  v.set b (rotate (v[b] ^^^ v[c]) 7)

def doubleRound (v : Block) : Block :=
  let v := quarter 0 4 8 12 v
  let v := quarter 1 5 9 13 v
  let v := quarter 2 6 10 14 v
  let v := quarter 3 7 11 15 v
  let v := quarter 0 5 10 15 v
  let v := quarter 1 6 11 12 v
  let v := quarter 2 7 8 13 v
  quarter 3 4 9 14 v

abbrev Key := Vector UInt32 8

def initial (k : Key) (counter : Nat) : Block :=
  #v[0x61707865, 0x3320646e, 0x79622d32, 0x6b206574, k[0], k[1], k[2], k[3],
    k[4], k[5], k[6], k[7], counter.toUInt32, (counter / 2 ^ 32).toUInt32, 0, 0]

def block (k : Key) (counter : Nat) : Block :=
  let start := initial k counter
  Vector.zipWith (· + ·) (Nat.repeat doubleRound 6 start) start

def word (k : Key) (i : Nat) : UInt32 :=
  (block k (i / 16)).get ⟨i % 16, Nat.mod_lt i (by decide)⟩

def nextState (s : UInt64) : UInt64 :=
  s * 6364136223846793005 + 11634580027462260723

def outputWord (s : UInt64) : UInt32 :=
  let x := (((s >>> 18) ^^^ s) >>> 27).toUInt32
  let n := (s >>> 59).toUInt32
  (x >>> n) ||| (x <<< ((32 - n) % 32))

def stateAfter (seed : UInt64) (steps : Nat) : UInt64 :=
  Nat.repeat nextState steps seed

def Key.ofSeed (seed : UInt64) : Key :=
  Vector.ofFn fun i : Fin 8 => outputWord (stateAfter seed (i.val + 1))

structure Noise where
  key : Key
  draws : Nat

namespace Noise

def ofSeed (seed : UInt64) : Noise := ⟨.ofSeed seed, 0⟩

/-- The 52 bits of the `i`-th draw: the high ones of two words, of which the second is higher. -/
def bits (k : Key) (i : Nat) : Nat :=
  ((word k (2 * i + 1)).toNat * 2 ^ 32 + (word k (2 * i)).toNat) / 2 ^ 12

def drawAt (k : Key) (i : Nat) : Float :=
  Decimal.ofRatio false (bits k i) (2 ^ 52) - 0.5

def value (g : Noise) : Float := drawAt g.key g.draws

def advance (g : Noise) : Noise := { g with draws := g.draws + 1 }

end Noise

end OfferPolicy.Churn
