/-
The angle of a point, at single precision. An argument is moved next to zero by the angle of the
nearest of four anchors, an odd polynomial of degree 23 finishes the work there, and the two parts
of the anchor's angle, the second far smaller than the first, are put back last. Every operation
rounds, so their order is part of the definition.
-/
import Striker.Number.Binary

namespace Striker.Single

/-- An anchor's angle in two parts, the leading digits and the rest. -/
structure Anchor where
  leading : Single
  rest : Single

/-- The angle with tangent one half. -/
def Anchor.half : Anchor := ⟨4.6364760399e-01, 5.0121582440e-09⟩

/-- The angle with tangent one. -/
def Anchor.one : Anchor := ⟨7.8539812565e-01, 3.7748947079e-08⟩

/-- The angle with tangent one and a half. -/
def Anchor.oneAndHalf : Anchor := ⟨9.8279368877e-01, 3.4473217170e-08⟩

/-- The right angle, which tangents approach without end. -/
def Anchor.right : Anchor := ⟨1.5707962513e+00, 7.5497894159e-08⟩

/-- The value at `w` of the polynomial with the given coefficients, constant term first. -/
def polynomial (w : Single) (coefficients : List Single) : Single :=
  match coefficients with
  | [] => 0
  | [c] => c
  | c :: rest => c + w * polynomial w rest

/-- How far the angle with tangent `x` falls short of `x`, for small `x`: even and odd terms are
summed apart. -/
def shortfall (x : Single) : Single :=
  let z := x * x
  let w := z * z
  let odd := z * polynomial w
    [3.3333334327e-01, 1.4285714924e-01, 9.0908870101e-02, 6.6610731184e-02, 4.9768779427e-02,
      1.6285819933e-02]
  let even := w * polynomial w
    [-2.0000000298e-01, -1.1111110449e-01, -7.6918758452e-02, -5.8335702866e-02,
      -3.6531571299e-02]
  x * (odd + even)

/-- The angle of an anchor plus the angle with tangent `x`. -/
def Anchor.angleAt (anchor : Anchor) (x : Single) : Single :=
  anchor.leading - ((shortfall x - anchor.rest) - x)

/-- The angle with a tangent that is not negative. -/
def arctanPositive (x : Single) : Single :=
  if x.less 0.4375 then
    if x.less (Binary.ofRatio false 1 (Nat.pow 2 29)) then x else x - shortfall x
  else if x.less 0.6875 then Anchor.half.angleAt ((2 * x - 1) / (2 + x))
  else if x.less 1.1875 then Anchor.one.angleAt ((x - 1) / (x + 1))
  else if x.less 2.4375 then Anchor.oneAndHalf.angleAt ((x - 1.5) / (1 + 1.5 * x))
  else if x.less (Binary.ofNat (Nat.pow 2 25)) then Anchor.right.angleAt (-1 / x)
  else Anchor.right.leading + Anchor.right.rest

/-- The angle with tangent `x`, between the two right angles. -/
def arctan : Single → Single
  | .nan => .nan
  | .signed true r => -(arctanPositive (.signed false r))
  | .signed false r => arctanPositive (.signed false r)

/-- Half a turn. -/
def halfTurn : Single := 3.1415927410e+00

/-- What half a turn has beyond its single-precision value. -/
def halfTurnRest : Single := -8.7422776573e-08

/-- A quarter of a turn. -/
def quarterTurn : Single := 1.5707963705e+00

/-- An eighth of a turn. -/
def eighthTurn : Single := 7.8539818525e-01

/-- The position of a magnitude in the order of all magnitudes. -/
def rank : Single → Int
  | .nan => 0
  | .signed _ r => r

/-- The angle of the point `(x, y)` with both coordinates finite and different from zero. A
quotient beyond `2 ^ 60` either way counts as endless. -/
def slopeAngle (y x : Single) : Single :=
  let steps := (y.rank - x.rank) / Format.single.octave
  let acute :=
    if 60 < steps then quarterTurn + 0.5 * halfTurnRest
    else if x.isNegative ∧ steps < -60 then 0
    else arctan (y / x).abs
  match x.isNegative, y.isNegative with
  | false, false => acute
  | false, true => -acute
  | true, false => halfTurn - (acute - halfTurnRest)
  | true, true => (acute - halfTurnRest) - halfTurn

/-- The anti-clockwise angle from the first axis to the point `(x, y)`, in radians. -/
def angle (y x : Single) : Single :=
  match x, y with
  | .nan, _ => .nan
  | _, .nan => .nan
  | .signed xn xr, .signed yn yr =>
    let withSign (a : Single) : Single := if yn then -a else a
    if x = 1 then arctan y
    else if yr.val = 0 then if xn then withSign halfTurn else y
    else if xr.val = 0 then withSign quarterTurn
    else if !x.isFinite then
      if !y.isFinite then withSign (if xn then 3 * eighthTurn else eighthTurn)
      else withSign (if xn then halfTurn else 0)
    else if !y.isFinite then withSign quarterTurn
    else slopeAngle y x

end Striker.Single
