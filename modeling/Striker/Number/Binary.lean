/-
Binary floating-point numbers, exactly. A number is a sign and a rank: the position of its
magnitude among all magnitudes of the format, in increasing order, infinity last. So two numbers
compare as their ranks do. Every finite magnitude is a whole number of least units, and every
operation computes the exact result in such units and rounds once, to the nearest magnitude, a
tie going to the even rank.
-/

namespace Striker

/-- A binary format: numbers have `bits` significant bits, the least positive magnitude is
`2 ^ -depth`, and infinity has rank `top`. -/
structure Format where
  bits : Nat
  depth : Nat
  top : Nat

namespace Format

/-- The format of 32 bits. -/
def single : Format := ⟨24, 149, 0x7f800000⟩

/-- The format of 64 bits. -/
def double : Format := ⟨53, 1074, 0x7ff0000000000000⟩

/-- How many ranks share one exponent. -/
def octave (f : Format) : Nat := Nat.pow 2 (f.bits - 1)

/-- The rank of zero. -/
def least (f : Format) : Fin (f.top + 1) := 0

/-- How many least units one is. -/
def one (f : Format) : Nat := Nat.pow 2 f.depth

/-- The magnitude of a finite rank, in least units: the first two octaves count one by one, and
from there on each octave steps twice as far as the one before. -/
def units (f : Format) (rank : Nat) : Nat :=
  if rank < f.octave then rank
  else (f.octave + rank % f.octave) * Nat.pow 2 (rank / f.octave - 1)

end Format

/-- The whole number nearest to `num / den`; half way between two, the even one. -/
def roundHalfEven (num den : Nat) : Nat :=
  let q := num / den
  let r := 2 * (num % den)
  if r < den then q else if den < r then q + 1 else q + q % 2

/-- The rank whose magnitude is nearest to `num / den` least units. -/
def Format.nearest (f : Format) (num den : Nat) : Fin (f.top + 1) :=
  let shift := (num / den).log2 + 1 - f.bits
  let rank := roundHalfEven num (den * Nat.pow 2 shift) + shift * f.octave
  ⟨min rank f.top, Nat.lt_succ_of_le (Nat.min_le_right _ _)⟩

/-- A number of the format: not a number at all, or a sign and the rank of a magnitude. -/
inductive Binary (f : Format) where
  | nan
  | signed (negative : Bool) (rank : Fin (f.top + 1))
  deriving DecidableEq

/-- Numbers of 32 bits. -/
abbrev Single := Binary .single

/-- Numbers of 64 bits. -/
abbrev Double := Binary .double

namespace Binary

variable {f g : Format}

/-! ## Parts of a number -/

/-- A number that is neither infinite nor no number. -/
def isFinite : Binary f → Bool
  | nan => false
  | signed _ r => r.val < f.top

/-- A sign bit that is set; zero has one too. -/
def isNegative : Binary f → Bool
  | nan => false
  | signed n _ => n

/-- The magnitude in least units, zero for what has none. -/
def units : Binary f → Nat
  | nan => 0
  | signed _ r => f.units r

/-- The place of a number on the line of ranks; both zeros share one. -/
def place? : Binary f → Option Int
  | nan => none
  | signed n r => some (if n then -(r.val : Int) else r.val)

/-! ## Making numbers -/

/-- The number nearest to `num / den`, with the given sign. -/
def ofRatio (negative : Bool) (num den : Nat) : Binary f :=
  signed negative (f.nearest (num * f.one) den)

/-- The number nearest to a whole number. -/
def ofNat (n : Nat) : Binary f := ofRatio false n 1

/-- The number nearest to a whole number of either sign. -/
def ofInt (i : Int) : Binary f := ofRatio (i < 0) i.natAbs 1

/-- Infinity of the given sign. -/
def infinite (negative : Bool) : Binary f := signed negative (Fin.last f.top)

/-- Zero of the given sign. -/
def zero (negative : Bool) : Binary f := signed negative f.least

instance (n : Nat) : OfNat (Binary f) n := ⟨ofNat n⟩

instance : OfScientific (Binary f) where
  ofScientific m down e :=
    if down then ofRatio false m (Nat.pow 10 e) else ofRatio false (m * Nat.pow 10 e) 1

/-- The same value in another format, rounded. -/
def convert : Binary f → Binary g
  | nan => nan
  | signed n r =>
    if r.val < f.top then signed n (g.nearest (f.units r * g.one) f.one)
    else infinite n

/-! ## Comparison -/

/-- Strictly smaller; nothing is comparable with what is not a number. -/
def less (a b : Binary f) : Bool :=
  match a.place?, b.place? with
  | some x, some y => x < y
  | _, _ => false

/-- Smaller or equal; nothing is comparable with what is not a number. -/
def atMost (a b : Binary f) : Bool :=
  match a.place?, b.place? with
  | some x, some y => x ≤ y
  | _, _ => false

/-- The larger of two numbers; of a number and no number, the number. -/
def max (a b : Binary f) : Binary f :=
  match a.place?, b.place? with
  | some x, some y => if x < y then b else a
  | some _, none => a
  | none, _ => b

/-! ## Arithmetic -/

/-- The opposite number. -/
def neg : Binary f → Binary f
  | nan => nan
  | signed n r => signed (!n) r

/-- The number without its sign. -/
def abs : Binary f → Binary f
  | nan => nan
  | signed _ r => signed false r

/-- The rounded sum. An exact sum of zero is positive unless both terms are negative. -/
def add : Binary f → Binary f → Binary f
  | signed n a, signed m b =>
    if a.val < f.top then
      if b.val < f.top then
        let sum : Int := (if n then -(f.units a : Int) else f.units a)
          + (if m then -(f.units b : Int) else f.units b)
        if sum = 0 then zero (n && m) else signed (sum < 0) (f.nearest sum.natAbs 1)
      else signed m b
    else if b.val < f.top then signed n a
    else if n = m then signed n a
    else nan
  | _, _ => nan

/-- The rounded difference. -/
def sub (a b : Binary f) : Binary f := a.add b.neg

/-- The rounded product. -/
def mul : Binary f → Binary f → Binary f
  | signed n a, signed m b =>
    if a.val < f.top ∧ b.val < f.top then
      signed (n != m) (f.nearest (f.units a * f.units b) f.one)
    else if a.val = 0 ∨ b.val = 0 then nan
    else infinite (n != m)
  | _, _ => nan

/-- The rounded quotient. -/
def div : Binary f → Binary f → Binary f
  | signed n a, signed m b =>
    if b.val < f.top then
      if b.val = 0 then (if a.val = 0 then nan else infinite (n != m))
      else if a.val < f.top then signed (n != m) (f.nearest (f.units a * f.one) (f.units b))
      else infinite (n != m)
    else if a.val < f.top then zero (n != m)
    else nan
  | _, _ => nan

instance : Neg (Binary f) := ⟨neg⟩
instance : Add (Binary f) := ⟨add⟩
instance : Sub (Binary f) := ⟨sub⟩
instance : Mul (Binary f) := ⟨mul⟩
instance : Div (Binary f) := ⟨div⟩

instance : Inhabited (Binary f) := ⟨zero false⟩

end Binary

end Striker
