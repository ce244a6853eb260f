/-
Square roots and distances. The root is exact before its one rounding; the distance of a point
from the origin is taken at double precision and rounded down to single at the end.
-/
import Striker.Number.Binary

namespace Striker

/-- One way of halving toward the root of `n`, from any guess that is not below it. -/
def floorRoot.refine (n guess : Nat) : Nat :=
  let next := (guess + n / guess) / 2
  if next < guess then floorRoot.refine n next else guess
termination_by guess

/-- The greatest whole number whose square is at most `n`. -/
def floorRoot (n : Nat) : Nat :=
  if n = 0 then 0 else floorRoot.refine n (Nat.pow 2 (n.log2 / 2 + 1))

namespace Binary

variable {f : Format}

/-- The rounded square root. Negative numbers have none, except that the root of a negative zero
is that zero. What the whole root leaves over decides only to which side of a whole number the
exact root lies, so half a unit stands for it. -/
def sqrt : Binary f → Binary f
  | nan => nan
  | signed n r =>
    if r.val = 0 then signed n r
    else if n then nan
    else if r.val < f.top then
      let square := f.units r * f.one
      let root := floorRoot square
      signed false (f.nearest (2 * root + (if root * root = square then 0 else 1)) 2)
    else infinite false

end Binary

/-- The distance from the origin of the point with the given coordinates. An infinite coordinate
puts the point infinitely far away, whatever the other is. -/
def Single.hypotenuse (x y : Single) : Single :=
  if x.abs = .infinite false ∨ y.abs = .infinite false then .infinite false
  else
    let x : Double := x.convert
    let y : Double := y.convert
    (x * x + y * y).sqrt.convert

end Striker
