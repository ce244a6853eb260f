/-
UTF-8: the characters that bytes stand for. A character takes one to four bytes, no more than it
needs. Bytes that are no character are told apart, so that they can be refused or replaced.
-/

namespace Striker.Text

/-- How many bytes a character has that begins with this byte. -/
def utf8Length? (b : UInt8) : Option Nat :=
  if b < 0x80 then some 1
  else if 0xc2 ≤ b ∧ b ≤ 0xdf then some 2
  else if 0xe0 ≤ b ∧ b ≤ 0xef then some 3
  else if 0xf0 ≤ b ∧ b ≤ 0xf4 then some 4
  else none

/-- Whether a byte may be the second of a character that begins with `first`. -/
def isSecond (first b : UInt8) : Bool :=
  let low : UInt8 := if first = 0xe0 then 0xa0 else if first = 0xf0 then 0x90 else 0x80
  let high : UInt8 := if first = 0xed then 0x9f else if first = 0xf4 then 0x8f else 0xbf
  low ≤ b && b ≤ high

/-- Whether a byte may be the third or fourth of a character. -/
def isLater (b : UInt8) : Bool := 0x80 ≤ b && b ≤ 0xbf

/-- How many bytes at the front belong together: those of a character, or those that might have
begun one, at least one. -/
def groupLength : List UInt8 → Nat
  | [] => 0
  | first :: rest =>
    match utf8Length? first with
    | none => 1
    | some n => match rest with
      | [] => 1
      | second :: later =>
        if n = 1 ∨ !isSecond first second then 1
        else 2 + ((later.take (n - 2)).takeWhile isLater).length

/-- The character that a whole group of bytes stands for. -/
def charOfGroup? : List UInt8 → Option Char
  | [] => none
  | first :: rest =>
    if utf8Length? first = some (rest.length + 1) then
      let bits := if rest = [] then first.toNat else first.toNat % Nat.pow 2 (6 - rest.length)
      some (Char.ofNat (rest.foldl (fun n b => n * 64 + b.toNat % 64) bits))
    else none

/-- The character at the front, and how many bytes it has. -/
def decodeChar? (bytes : List UInt8) : Option (Char × Nat) :=
  let n := groupLength bytes
  (charOfGroup? (bytes.take n)).map fun c => (c, n)

/-- The characters of bytes; nothing stands for each group that is none. -/
def decodeGroups : Nat → List UInt8 → List (Option Char)
  | 0, _ => []
  | _, [] => []
  | fuel + 1, bytes =>
    let n := groupLength bytes
    charOfGroup? (bytes.take n) :: decodeGroups fuel (bytes.drop n)

/-- The text that bytes stand for, with a replacement character for each group that is none. -/
def decodeLossy (bytes : List UInt8) : String :=
  String.ofList ((decodeGroups bytes.length bytes).map fun c => c.getD '\ufffd')

/-- The text that bytes stand for, if all of them belong to characters. -/
def decode? (bytes : List UInt8) : Option String := String.fromUTF8? ⟨bytes.toArray⟩

/-- The bytes of a text. -/
def encode (s : String) : List UInt8 := s.toUTF8.data.toList

/-- A text can be read back from its bytes. -/
@[simp]
theorem decode?_encode (s : String) : decode? (encode s) = some s := by
  simp only [decode?, encode, String.fromUTF8?, Array.toArray_toList]
  exact dif_pos s.isValidUTF8

end Striker.Text
