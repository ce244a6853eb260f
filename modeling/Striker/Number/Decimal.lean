/-
Decimals: a whole coefficient times a power of ten. Here are the decimal nearest in spirit to a
binary number, the shortest one that rounds back to it, and the number nearest to a decimal.
-/
import Striker.Number.Binary

namespace Striker

/-- The value `coefficient * 10 ^ exponent`. -/
structure Decimal where
  coefficient : Nat
  exponent : Int
  deriving DecidableEq

namespace Decimal

/-- The value as a quotient. -/
def ratio (d : Decimal) : Nat × Nat :=
  if 0 ≤ d.exponent then (d.coefficient * Nat.pow 10 d.exponent.toNat, 1)
  else (d.coefficient, Nat.pow 10 (-d.exponent).toNat)

/-- The digits of the coefficient. -/
def digits (d : Decimal) : List Char := Nat.toDigits 10 d.coefficient

/-- The power of ten that the leading digit counts. -/
def leading (d : Decimal) : Int := d.exponent + d.digits.length - 1

/-- The same value without zeros at the end of the coefficient. -/
def strip (d : Decimal) : Decimal := go d.digits.length d
where
  /-- Moves at most `n` zeros into the exponent. -/
  go : Nat → Decimal → Decimal
    | 0, d => d
    | n + 1, d =>
      if d.coefficient ≠ 0 ∧ d.coefficient % 10 = 0 then go n ⟨d.coefficient / 10, d.exponent + 1⟩
      else d

end Decimal

/-! ## The number nearest to a decimal -/

/-- The rank of the magnitude nearest to a decimal. A leading digit further than `depth` places
from the point decides alone: it stands for more than every finite magnitude, or for less than
half of the least one. -/
def Format.ofDecimal (f : Format) (d : Decimal) : Fin (f.top + 1) :=
  if d.coefficient = 0 then f.least
  else if (f.depth : Int) < d.leading then Fin.last f.top
  else if d.leading < -(f.depth : Int) - 1 then f.least
  else
    let (num, den) := d.ratio
    f.nearest (num * f.one) den

/-! ## The shortest decimal -/

/-- What becomes of a value half way between two decimals. -/
inductive Tie where
  | even
  | up
  deriving DecidableEq

/-- How often a count of least units below one must be multiplied by ten to reach it. -/
def Format.placesBelowOne (f : Format) : Nat → Nat → Nat
  | 0, _ => 0
  | n + 1, units => if f.one ≤ units then 0 else f.placesBelowOne n (units * 10) + 1

/-- The power of ten that the leading digit of a magnitude counts. -/
def Format.leading (f : Format) (units : Nat) : Int :=
  if f.one ≤ units then ((Nat.toDigits 10 (units / f.one)).length : Int) - 1
  else -(f.placesBelowOne f.depth units : Int)

/-- The magnitude of a rank as a decimal, digit for digit. -/
def Format.exact (f : Format) (rank : Nat) : Decimal :=
  ⟨f.units rank * Nat.pow 5 f.depth, -(f.depth : Int)⟩

/-- Of the two neighbours of a magnitude among the decimals of `n` digits, the one that rounds back
to it; of two such, the nearer. -/
def Format.decimalOf? (f : Format) (tie : Tie) (rank : Fin (f.top + 1)) (n : Nat) :
    Option Decimal :=
  let units := f.units rank
  let step := f.leading units - n + 1
  let num := if 0 ≤ step then units else units * Nat.pow 10 (-step).toNat
  let den := if 0 ≤ step then f.one * Nat.pow 10 step.toNat else f.one
  let below : Decimal := ⟨num / den, step⟩
  let above : Decimal := ⟨num / den + 1, step⟩
  match decide (f.ofDecimal below = rank), decide (f.ofDecimal above = rank) with
  | true, true =>
    let rest := 2 * (num % den)
    if rest < den then some below
    else if den < rest then some above
    else match tie with
      | .even => if num / den % 2 = 0 then some below else some above
      | .up => some above
  | true, false => some below
  | false, true => some above
  | false, false => none

/-- The shortest decimal that rounds to the magnitude of a rank. Seventeen digits are enough for
every format here, and all digits for any. -/
def Format.shortest (f : Format) (tie : Tie) (rank : Fin (f.top + 1)) : Decimal :=
  (((List.range 17).findSome? fun n => f.decimalOf? tie rank (n + 1)).getD (f.exact rank)).strip

end Striker
