/-
The values of JSON numbers and strings, and whole documents as data. Numbers are read the way fast
readers read them: digits are taken up while they fit into a 64-bit word, the rest only counts
places, and the word is scaled by a power of ten in 64-bit arithmetic. So a fraction may be off by
its last bit.
-/
import Striker.Json.Document

namespace Striker.Json

/-! ## Numbers -/

/-- Takes up digits while the number fits into a word; gives the number and the digits left. -/
def takeDigits (n : Nat) : List Char → Nat × List Char
  | [] => (n, [])
  | c :: rest =>
    let next := n * 10 + (c.toNat - '0'.toNat)
    if next < UInt64.size then takeDigits next rest else (n, c :: rest)

/-- Scales by a power of ten, at most 308 places at a time; nothing, if the result is too large. -/
def scale? : Nat → Double → Int → Option Double
  | 0, x, _ => some x
  | fuel + 1, x, e =>
    if e.natAbs ≤ 308 then
      if 0 ≤ e then
        let y := x * Binary.ofNat (Nat.pow 10 e.toNat)
        if y.isFinite then some y else none
      else some (x / Binary.ofNat (Nat.pow 10 e.natAbs))
    else if x.units = 0 then some x
    else if 0 ≤ e then none
    else scale? fuel (x / Binary.ofNat (Nat.pow 10 308)) (e + 308)

/-- The number that digits stand for. -/
def digitsValue (cs : List Char) : Nat := cs.foldl (fun n c => n * 10 + (c.toNat - '0'.toNat)) 0

namespace NumberText

/-- Whether there are digits only. -/
def isWhole (n : NumberText) : Bool := n.fraction.isEmpty && n.exponent.isNone

/-- A number with a fraction or an exponent, or with more digits than a word holds. An exponent of
ten digits or so is beyond counting: it makes zero of anything, or infinity of what is not zero. -/
def double? (n : NumberText) : Option Double :=
  let (word, wholeLeft) := takeDigits 0 n.whole
  let (word, fractionLeft) := takeDigits word n.fraction
  let places : Int := wholeLeft.length - (n.fraction.length - fractionLeft.length : Nat)
  let magnitude : Option Double := match n.exponent with
    | none => scale? places.natAbs (.ofNat word) places
    | some (minus, digits) =>
      let e := digitsValue digits
      if e < UInt32.size / 2 then
        let places := if minus then places - e else places + e
        scale? places.natAbs (.ofNat word) places
      else if word = 0 ∨ minus then some (.zero false)
      else none
  magnitude.map fun x => if n.negative then -x else x

/-- The value of a number: a natural number or a negative integer that fits into a word, or a
double. A negative zero is a double. -/
def value (n : NumberText) : Except Fault Datum :=
  match n.fault with
  | some f => .error f
  | none =>
    let (word, left) := takeDigits 0 n.whole
    if n.isWhole ∧ left = [] ∧ !n.negative then .ok (.natural word)
    else if n.isWhole ∧ left = [] ∧ 0 < word ∧ word ≤ UInt64.size / 2 then
      .ok (.integer (-(word : Int)))
    else match n.double? with
      | some x => .ok (.double x)
      | none => .error .malformed

end NumberText

/-! ## Strings -/

/-- The characters of a string. A code unit of a surrogate pair counts only with its partner. -/
def pieceChars (fault : Option Fault) : List Piece → Except Fault (List Char)
  | [] => match fault with
    | none => .ok []
    | some f => .error f
  | .char c :: rest => (c :: ·) <$> pieceChars fault rest
  | [.unit n] =>
    if 0xd800 ≤ n ∧ n ≤ 0xdbff then .error (fault.getD .malformed)
    else if 0xdc00 ≤ n ∧ n ≤ 0xdfff then .error .malformed
    else (Char.ofNat n :: ·) <$> pieceChars fault []
  | .unit n :: .unit m :: rest =>
    if 0xd800 ≤ n ∧ n ≤ 0xdbff then
      if 0xdc00 ≤ m ∧ m ≤ 0xdfff then
        (Char.ofNat (0x10000 + (n - 0xd800) * 1024 + (m - 0xdc00)) :: ·) <$> pieceChars fault rest
      else .error .malformed
    else if 0xdc00 ≤ n ∧ n ≤ 0xdfff then .error .malformed
    else (Char.ofNat n :: ·) <$> pieceChars fault (.unit m :: rest)
  | .unit n :: .char c :: rest =>
    if 0xd800 ≤ n ∧ n ≤ 0xdfff then .error .malformed
    else (Char.ofNat n :: ·) <$> pieceChars fault (.char c :: rest)

/-- The text of a string. -/
def StringText.value (s : StringText) : Except Fault String :=
  String.ofList <$> pieceChars s.fault s.pieces

/-! ## Reading over -/

/-- Reads over a number: one that breaks off is wrong even at the end of the text. -/
def NumberText.skip (n : NumberText) : Except Fault Unit :=
  if n.fault.isSome then .error .malformed else .ok ()

/-- Reads over a string. -/
def StringText.skip (s : StringText) : Except Fault Unit :=
  match s.fault with
  | some f => .error f
  | none => .ok ()

mutual

/-- Reads over a value. -/
def Node.skip : Node → Except Fault Unit
  | .null => .ok ()
  | .flag _ => .ok ()
  | .number n => n.skip
  | .string s => s.skip
  | .array items => items.skip
  | .object members => members.skip
  | .fragment f => .error f
  | .broken f => .error f

/-- Reads over items. -/
def Items.skip : Items → Except Fault Unit
  | .close none => .ok ()
  | .close (some f) => .error f
  | .item value rest => do
    value.skip
    rest.skip

/-- Reads over members. A key has to be a string. -/
def Members.skip : Members → Except Fault Unit
  | .close none => .ok ()
  | .close (some f) => .error f
  | .member key value rest => do
    match key with
    | .string s => s.skip
    | .broken f => throw f
    | _ => throw .malformed
    value.skip
    rest.skip

end

/-! ## Documents as data -/

mutual

/-- A value as a datum. `room` is how many lists and tables may still be opened inside each other
before the reader gives up. -/
def Node.datum (room : Nat) : Node → Except Fault Datum
  | .null => .ok .unit
  | .flag b => .ok (.flag b)
  | .number n => n.value
  | .string s => .text <$> s.value
  | .array items => if room ≤ 1 then .error .malformed else .list <$> items.data (room - 1)
  | .object members =>
    if room ≤ 1 then .error .malformed else .table <$> members.data (room - 1)
  | .fragment f => .error f
  | .broken f => .error f

/-- Items as data. -/
def Items.data (room : Nat) : Items → Except Fault (List Datum)
  | .close none => .ok []
  | .close (some f) => .error f
  | .item value rest => do return (← value.datum room) :: (← rest.data room)

/-- Members as data. -/
def Members.data (room : Nat) : Members → Except Fault (List (Datum × Datum))
  | .close none => .ok []
  | .close (some f) => .error f
  | .member key value rest => do
    let key ← match key with
      | .string s => s.value
      | .broken f => throw f
      | _ => throw .malformed
    return (.text key, ← value.datum room) :: (← rest.data room)

end

/-- How many lists and tables may be opened inside each other, and one more. -/
def depthLimit : Nat := 128

/-- A whole text as a datum, its members in the order of the text. -/
def datum? (text : String) : Except Fault Datum := do
  let d := Document.ofText text
  let value ← d.root.datum depthLimit
  match d.close with
  | some f => throw f
  | none => return value

end Striker.Json
