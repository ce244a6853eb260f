/-
How numbers are spelled. A layout holds every decision of one spelling; writing a number chooses
its shortest digits and lays them out. Numbers with a fixed count of places are rounded from the
exact value.
-/
import Striker.Number.Decimal

namespace Striker

/-- The decisions of one spelling of numbers. -/
structure Layout where
  /-- Leading exponents of the numbers that are written without an exponent; nothing, for all. -/
  plain : Option (Int × Int)
  /-- Whether a positive exponent has its sign. -/
  plus : Bool
  /-- Whether a whole number keeps a point and a zero. -/
  point : Bool
  tie : Tie
  nan : String
  infinity : String
  negativeInfinity : String

namespace Layout

/-- Whether a number with this leading exponent is written without an exponent. -/
def isPlain (l : Layout) (leading : Int) : Bool :=
  match l.plain with
  | none => true
  | some (low, high) => low ≤ leading ∧ leading ≤ high

/-- A positive decimal without an exponent. -/
def writePlain (l : Layout) (d : Decimal) : List Char :=
  let digits := d.digits
  if 0 ≤ d.exponent then
    digits ++ List.replicate d.exponent.toNat '0' ++ (if l.point then ['.', '0'] else [])
  else if 0 ≤ d.leading then
    let whole := d.leading.toNat + 1
    digits.take whole ++ '.' :: digits.drop whole
  else '0' :: '.' :: List.replicate (-d.leading - 1).toNat '0' ++ digits

/-- A positive decimal with an exponent. -/
def writeScientific (l : Layout) (d : Decimal) : List Char :=
  let mantissa := match d.digits with
    | first :: second :: rest => first :: '.' :: second :: rest
    | short => short
  let sign := if d.leading < 0 then ['-'] else if l.plus then ['+'] else []
  mantissa ++ 'e' :: sign ++ Nat.toDigits 10 d.leading.natAbs

/-- A decimal that is not negative. -/
def writeDecimal (l : Layout) (d : Decimal) : List Char :=
  if d.coefficient = 0 then if l.point then ['0', '.', '0'] else ['0']
  else if l.isPlain d.leading then l.writePlain d
  else l.writeScientific d

/-- A number in this layout. -/
def write {f : Format} (l : Layout) : Binary f → String
  | .nan => l.nan
  | .signed n r =>
    if r.val < f.top then
      String.ofList ((if n then ['-'] else []) ++ l.writeDecimal (f.shortest l.tie r))
    else if n then l.negativeInfinity
    else l.infinity

end Layout

/-- The spelling for people: never an exponent, and no point in a whole number. -/
def Layout.display : Layout := ⟨none, false, false, .up, "NaN", "inf", "-inf"⟩

/-- The spelling for inspection: a point in every number that has no exponent. -/
def Layout.inspection : Layout := ⟨some (-4, 15), false, true, .up, "NaN", "inf", "-inf"⟩

/-- A number with exactly `places` digits after the point, rounded from its exact value, a tie to
the even digit. -/
def Binary.writeFixed {f : Format} (places : Nat) : Binary f → String
  | .nan => "NaN"
  | .signed n r =>
    let sign := if n then ['-'] else []
    if r.val < f.top then
      let digits := Nat.toDigits 10 (roundHalfEven (f.units r * Nat.pow 10 places) f.one)
      let digits := List.replicate (places + 1 - digits.length) '0' ++ digits
      let whole := digits.length - places
      let tail := if places = 0 then [] else '.' :: digits.drop whole
      String.ofList (sign ++ digits.take whole ++ tail)
    else String.ofList (sign ++ ['i', 'n', 'f'])

end Striker
