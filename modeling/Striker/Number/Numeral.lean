/-
Numbers read from text. Whole numbers are digits in a base, with at most one plus sign in front.
Numbers with a fraction may have a sign, a point with digits on at least one side, and an exponent;
infinity and the absence of a number have names, in letters of either case.
-/
import Striker.Number.Decimal

namespace Striker

/-- A digit of the bases up to sixteen. -/
def digitValue? (c : Char) : Option Nat :=
  if '0' ≤ c ∧ c ≤ '9' then some (c.toNat - '0'.toNat)
  else if 'a' ≤ c ∧ c ≤ 'f' then some (c.toNat - 'a'.toNat + 10)
  else if 'A' ≤ c ∧ c ≤ 'F' then some (c.toNat - 'A'.toNat + 10)
  else none

/-- A digit of the given base. -/
def digitIn? (base : Nat) (c : Char) : Option Nat := (digitValue? c).filter (· < base)

/-- The number that the digits stand for; there is at least one digit and nothing else. -/
def digitsIn? (base : Nat) : List Char → Option Nat
  | [] => none
  | cs => cs.foldl (fun n c => do return (← n) * base + (← digitIn? base c)) (some 0)

/-- A whole number that is not negative, with an optional plus sign. -/
def wholeNumber? (cs : List Char) : Option Nat :=
  match cs with
  | '+' :: rest => digitsIn? 10 rest
  | cs => digitsIn? 10 cs

/-- A whole number below `2 ^ 32`. -/
def word32? (text : String) : Option UInt32 :=
  (wholeNumber? text.toList).bind fun n =>
    if n < UInt32.size then some (UInt32.ofNat n) else none

/-- A whole number below `2 ^ 64`. -/
def word64? (text : String) : Option UInt64 :=
  (wholeNumber? text.toList).bind fun n =>
    if n < UInt64.size then some (UInt64.ofNat n) else none

/-- An exponent: nothing at all, or a letter, an optional sign and digits. -/
def exponent? : List Char → Option Int
  | [] => some 0
  | c :: rest =>
    if c = 'e' ∨ c = 'E' then
      match rest with
      | '-' :: digits => (digitsIn? 10 digits).map fun n => -(n : Int)
      | '+' :: digits => (digitsIn? 10 digits).map Int.ofNat
      | digits => (digitsIn? 10 digits).map Int.ofNat
    else none

/-- A decimal without a sign. -/
def decimal? (cs : List Char) : Option Decimal :=
  let whole := cs.takeWhile Char.isDigit
  let afterWhole := cs.dropWhile Char.isDigit
  let (fraction, tail) := match afterWhole with
    | '.' :: rest => (rest.takeWhile Char.isDigit, rest.dropWhile Char.isDigit)
    | rest => ([], rest)
  match digitsIn? 10 (whole ++ fraction), exponent? tail with
  | some n, some e => some ⟨n, e - fraction.length⟩
  | _, _ => none

/-- A number of the format without a sign. -/
def magnitude? (f : Format) (cs : List Char) : Option (Bool → Binary f) :=
  let name := cs.map Char.toLower
  if name = "inf".toList ∨ name = "infinity".toList then some Binary.infinite
  else if name = "nan".toList then some fun _ => .nan
  else (decimal? cs).map fun d negative => .signed negative (f.ofDecimal d)

/-- The number of the format nearest to what the text says. -/
def Binary.ofText? {f : Format} (text : String) : Option (Binary f) :=
  match text.toList with
  | '-' :: rest => (magnitude? f rest).map (· true)
  | '+' :: rest => (magnitude? f rest).map (· false)
  | cs => (magnitude? f cs).map (· false)

end Striker
