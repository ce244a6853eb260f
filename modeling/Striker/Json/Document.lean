/-
JSON documents as far as they can be read. A text that goes wrong somewhere still has everything
before that place, and a reader that stops earlier never learns of the fault; so the fault is a
part of the tree, in its place. Numbers and strings keep their written form: whether a number is too
large, or an escape stands for no character, matters only to a reader that wants the value.
-/
import Striker.Datum.Basic

namespace Striker.Json

/-- A number as written: the digits before the point, after it and in the exponent, whose sign is
kept apart. A number that breaks off has a fault. -/
structure NumberText where
  negative : Bool
  whole : List Char
  fraction : List Char
  exponent : Option (Bool × List Char)
  fault : Option Fault

/-- A piece of a string as written: a character, or a code unit given by its number. -/
inductive Piece where
  | char (c : Char)
  | unit (n : Nat)
  deriving DecidableEq

/-- A string as written. A string that breaks off has a fault. -/
structure StringText where
  pieces : List Piece
  fault : Option Fault

mutual

/-- A value of a document: `fragment` is a word that goes wrong, `broken` the place of a value
where none begins. -/
inductive Node where
  | null
  | flag (b : Bool)
  | number (n : NumberText)
  | string (s : StringText)
  | array (items : Items)
  | object (members : Members)
  | fragment (f : Fault)
  | broken (f : Fault)

/-- The items of an array up to its end, or up to a fault in the place of a comma or bracket. -/
inductive Items where
  | close (f : Option Fault)
  | item (value : Node) (rest : Items)

/-- The members of an object, likewise. A key is a string or broken. -/
inductive Members where
  | close (f : Option Fault)
  | member (key value : Node) (rest : Members)

end

/-! ## Characters -/

/-- The four characters that may stand between tokens. -/
def isSpace (c : Char) : Bool := c = ' ' || c = '\t' || c = '\n' || c = '\r'

/-- The text from its next token on. -/
def skipSpace (cs : List Char) : List Char := cs.dropWhile isSpace

/-- The fault of a text that should have gone on: it ended, or went on wrongly. -/
def faultAt : List Char → Fault
  | [] => .truncated
  | _ :: _ => .malformed

/-! ## Words -/

/-- Reads the rest of a word and gives the node it stands for. -/
def readWord (node : Node) : List Char → List Char → Node × List Char
  | [], rest => (node, rest)
  | _ :: _, [] => (.fragment .truncated, [])
  | w :: word, c :: rest => if c = w then readWord node word rest else (.fragment .malformed, [])

/-! ## Numbers -/

/-- Reads an exponent, if there is one. -/
def readExponent (negative : Bool) (whole fraction : List Char) (cs : List Char) :
    NumberText × List Char :=
  match cs with
  | c :: rest =>
    if c = 'e' ∨ c = 'E' then
      let (minus, rest) := match rest with
        | '-' :: rest => (true, rest)
        | '+' :: rest => (false, rest)
        | rest => (false, rest)
      let digits := rest.takeWhile Char.isDigit
      let rest := rest.dropWhile Char.isDigit
      if digits = [] then (⟨negative, whole, fraction, none, some (faultAt rest)⟩, [])
      else (⟨negative, whole, fraction, some (minus, digits), none⟩, rest)
    else (⟨negative, whole, fraction, none, none⟩, cs)
  | [] => (⟨negative, whole, fraction, none, none⟩, [])

/-- Reads what follows the digits before the point. -/
def readFraction (negative : Bool) (whole : List Char) (cs : List Char) :
    NumberText × List Char :=
  match cs with
  | '.' :: rest =>
    let digits := rest.takeWhile Char.isDigit
    let rest := rest.dropWhile Char.isDigit
    if digits = [] then (⟨negative, whole, [], none, some (faultAt rest)⟩, [])
    else readExponent negative whole digits rest
  | cs => readExponent negative whole [] cs

/-- Reads a number after its sign. A zero in front stands alone. -/
def readNumber (negative : Bool) (cs : List Char) : NumberText × List Char :=
  let digits := cs.takeWhile Char.isDigit
  let rest := cs.dropWhile Char.isDigit
  match digits with
  | [] => (⟨negative, [], [], none, some (faultAt rest)⟩, [])
  | '0' :: _ :: _ => (⟨negative, ['0'], [], none, some .malformed⟩, [])
  | digits => readFraction negative digits rest

/-! ## Strings -/

/-- A digit of a code unit's number. -/
def hexValue? (c : Char) : Option Nat :=
  if c.isDigit then some (c.toNat - '0'.toNat)
  else if 'a' ≤ c ∧ c ≤ 'f' then some (c.toNat - 'a'.toNat + 10)
  else if 'A' ≤ c ∧ c ≤ 'F' then some (c.toNat - 'A'.toNat + 10)
  else none

/-- The character that a letter after a backslash stands for. -/
def escaped? (c : Char) : Option Char :=
  if c = '"' ∨ c = '\\' ∨ c = '/' then some c
  else if c = 'b' then some '\x08'
  else if c = 'f' then some '\x0c'
  else if c = 'n' then some '\n'
  else if c = 'r' then some '\r'
  else if c = 't' then some '\t'
  else none

/-- The code unit that four digits stand for. -/
def codeUnit? (a b c d : Char) : Option Nat := do
  let a ← hexValue? a
  let b ← hexValue? b
  let c ← hexValue? c
  let d ← hexValue? d
  return a * 4096 + b * 256 + c * 16 + d

/-- The fault where the four digits of a code unit should be: a text ends too early if it has fewer
than four bytes left. -/
def codeUnitFault (cs : List Char) : Fault :=
  if (cs.take 4).foldl (fun n c => n + c.utf8Size) 0 < 4 then .truncated else .malformed

/-- Reads a string after its first quote. -/
def readString : List Char → StringText × List Char
  | [] => (⟨[], some .truncated⟩, [])
  | '"' :: rest => (⟨[], none⟩, rest)
  | '\\' :: 'u' :: a :: b :: c :: d :: rest =>
    match codeUnit? a b c d with
    | some n =>
      let (s, rest) := readString rest
      (⟨.unit n :: s.pieces, s.fault⟩, rest)
    | none => (⟨[], some .malformed⟩, [])
  | '\\' :: 'u' :: rest => (⟨[], some (codeUnitFault rest)⟩, [])
  | '\\' :: c :: rest =>
    match escaped? c with
    | some c =>
      let (s, rest) := readString rest
      (⟨.char c :: s.pieces, s.fault⟩, rest)
    | none => (⟨[], some .malformed⟩, [])
  | ['\\'] => (⟨[], some .truncated⟩, [])
  | c :: rest =>
    if c.toNat < 32 then (⟨[], some .malformed⟩, [])
    else
      let (s, rest) := readString rest
      (⟨.char c :: s.pieces, s.fault⟩, rest)

/-- Reads a key: anything but a string is malformed. -/
def readKey (cs : List Char) : Node × List Char :=
  match skipSpace cs with
  | '"' :: rest =>
    let (s, rest) := readString rest
    (.string s, rest)
  | rest => (.broken (faultAt rest), [])

/-! ## Values -/

mutual

/-- Reads a value. -/
def readValue : Nat → List Char → Node × List Char
  | 0, _ => (.broken .malformed, [])
  | fuel + 1, cs =>
    match skipSpace cs with
    | [] => (.broken .truncated, [])
    | 'n' :: rest => readWord .null ['u', 'l', 'l'] rest
    | 't' :: rest => readWord (.flag true) ['r', 'u', 'e'] rest
    | 'f' :: rest => readWord (.flag false) ['a', 'l', 's', 'e'] rest
    | '"' :: rest =>
      let (s, rest) := readString rest
      (.string s, rest)
    | '[' :: rest =>
      let (items, rest) := readItems fuel true rest
      (.array items, rest)
    | '\x7b' :: rest =>
      let (members, rest) := readMembers fuel true rest
      (.object members, rest)
    | '-' :: rest =>
      let (n, rest) := readNumber true rest
      (.number n, rest)
    | c :: rest =>
      if c.isDigit then
        let (n, rest) := readNumber false (c :: rest)
        (.number n, rest)
      else (.broken .malformed, [])

/-- Reads items after the opening bracket or after an item. -/
def readItems : Nat → (first : Bool) → List Char → Items × List Char
  | 0, _, _ => (.close (some .malformed), [])
  | fuel + 1, first, cs =>
    let next (cs : List Char) : Items × List Char :=
      let (value, rest) := readValue fuel cs
      let (items, rest) := readItems fuel false rest
      (.item value items, rest)
    match skipSpace cs with
    | [] => (.close (some .truncated), [])
    | ']' :: rest => (.close none, rest)
    | ',' :: rest =>
      if first then next (',' :: rest)
      else match skipSpace rest with
        | ']' :: _ => (.close (some .malformed), [])
        | rest => next rest
    | rest => if first then next rest else (.close (some .malformed), [])

/-- Reads members after the opening brace or after a member. -/
def readMembers : Nat → (first : Bool) → List Char → Members × List Char
  | 0, _, _ => (.close (some .malformed), [])
  | fuel + 1, first, cs =>
    let next (cs : List Char) : Members × List Char :=
      let (key, rest) := readKey cs
      match skipSpace rest with
      | ':' :: rest =>
        let (value, rest) := readValue fuel rest
        let (members, rest) := readMembers fuel false rest
        (.member key value members, rest)
      | rest => (.member key (.broken (faultAt rest)) (.close none), [])
    match skipSpace cs with
    | [] => (.close (some .truncated), [])
    | '\x7d' :: rest => (.close none, rest)
    | ',' :: rest =>
      if first then next (',' :: rest)
      else match skipSpace rest with
        | '\x7d' :: _ => (.close (some .malformed), [])
        | rest => next rest
    | rest => if first then next rest else (.close (some .malformed), [])

end

/-- A document: its value and the text after it. -/
structure Document where
  root : Node
  rest : List Char

/-- Reads a text. Every step of reading uses up a character or opens a bracket that was used up
just before, so twice the length is enough. -/
def Document.ofText (text : String) : Document :=
  let cs := text.toList
  let (root, rest) := readValue (2 * cs.length + 2) cs
  ⟨root, rest⟩

/-- What comes after the value: nothing but space, or a fault. -/
def Document.close (d : Document) : Option Fault :=
  if skipSpace d.rest = [] then none else some .malformed

end Striker.Json
