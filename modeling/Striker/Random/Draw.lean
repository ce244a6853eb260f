/-
Random choices: a yes with a given chance, and a number from a range.
-/
import Striker.Number.Binary
import Striker.Random.Stream

namespace Striker.Random.Stream

/-- A yes with chance `p`, which is between 0 and 1: a drawn number of 64 bits is below the same
share of all of them. A chance of 1 draws nothing. -/
def chance (p : Double) (s : Stream) : Bool × Stream :=
  if p = 1 then (true, s)
  else
    let (v, s) := s.word64
    (decide (v.toNat < p.units * UInt64.size / Format.double.one), s)

/-- A number from 0 up to 1, which is not included: 23 bits of a word. -/
def fraction (s : Stream) : Single × Stream :=
  let (w, s) := s.word
  (.ofRatio false (w >>> 9).toNat Format.single.octave, s)

/-- A number from `low` up to `high`, which is not included. A draw that rounding takes to the end
is drawn again, as long as there are draws left. -/
def rangeWithin : Nat → (low high : Single) → Stream → Single × Stream
  | 0, low, _, s => (low, s)
  | draws + 1, low, high, s =>
    let (v, s) := s.fraction
    let x := v * (high - low) + low
    if x.less high then (x, s) else rangeWithin draws low high s

/-- A number from `low` up to `high`. One draw in millions is drawn again, so a hundred draws in a
row do not run out. -/
def range (low high : Single) (s : Stream) : Single × Stream := rangeWithin 100 low high s

end Striker.Random.Stream
