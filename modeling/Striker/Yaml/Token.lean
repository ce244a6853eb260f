/-
Tokens of a YAML stream: the signs, names and scalars it is made of. Names have rules of their own:
anchors are plain words, tags may be shortened by a handle and may hold characters by their numbers,
and directives fill a line.
-/
import Striker.Text.Utf8
import Striker.Yaml.Block
import Striker.Yaml.Plain
import Striker.Yaml.Quoted

namespace Striker.Yaml

/-- How a scalar is written. -/
inductive Style where
  | plain
  | quoted
  | literal
  | folded
  deriving DecidableEq

/-- A token. -/
inductive Token where
  | version (major minor : Nat)
  | handle (name start : String)
  | documentStart
  | documentEnd
  | streamEnd
  | blockSequence
  | blockMapping
  | blockEnd
  | openSequence
  | closeSequence
  | openMapping
  | closeMapping
  | blockEntry
  | flowEntry
  | key
  | value
  | alias (name : String)
  | anchor (name : String)
  | tag (handle suffix : String)
  | scalar (text : String) (style : Style)
  deriving DecidableEq

/-! ## Anchors -/

/-- Reads the name of an anchor or alias after its sign. -/
def readAnchor (i : Input) : Option (String × Input) :=
  let name := i.run isNameChar
  let i := i.advance name.length
  let ends : Bool := match i.rest with
    | [] => true
    | c :: _ => isBlank c || isBreak c || ['?', ':', ',', ']', '\x7d', '%', '@', '`'].contains c
  if name ≠ [] ∧ ends then some (String.ofList name, i) else none

/-! ## Tags -/

/-- A character of tags. Within angle brackets and in directives a comma and square brackets are
allowed, too. -/
def isTagChar (wide : Bool) (c : Char) : Bool :=
  isNameChar c
    || [';', '/', '?', ':', '@', '&', '=', '+', '$', '.', '!', '~', '*', '\'', '(', ')'].contains c
    || (wide && (c = ',' || c = '[' || c = ']'))

/-- The byte that an escape of two digits stands for. -/
def escapedByte? : List Char → Option UInt8
  | '%' :: a :: b :: _ => (digitsIn? 16 [a, b]).map UInt8.ofNat
  | _ => none

/-- Reads the rest of a tag. The bytes given by their numbers have to be the bytes of characters. -/
def readTagText (wide : Bool) : Nat → Input → Option (List Char × Input)
  | 0, i => some ([], i)
  | fuel + 1, i =>
    match i.rest with
    | [] => some ([], i)
    | '%' :: _ => do
      let first ← escapedByte? i.rest
      let length ← Text.utf8Length? first
      let bytes ← (List.range length).mapM fun k => escapedByte? (i.rest.drop (3 * k))
      let (c, _) ← Text.decodeChar? bytes
      let (text, i) ← readTagText wide fuel (i.advance (3 * length))
      return (c :: text, i)
    | c :: _ =>
      if isTagChar wide c then do
        let (text, i) ← readTagText wide fuel (i.advance 1)
        return (c :: text, i)
      else some ([], i)

/-- The rest of a tag that is not empty, unless something was read before it. -/
def readTagRest (wide started : Bool) (i : Input) : Option (List Char × Input) := do
  let (text, i) ← readTagText wide i.rest.length i
  if started ∨ text ≠ [] then return (text, i) else none

/-- Reads a handle: a word that begins with an exclamation mark and may end with one. -/
def readHandle (i : Input) : Option (List Char × Input) :=
  match i.rest with
  | '!' :: _ =>
    let word := (i.advance 1).run isNameChar
    let i := i.advance (1 + word.length)
    match i.rest with
    | '!' :: _ => some ('!' :: word ++ ['!'], i.advance 1)
    | _ => some ('!' :: word, i)
  | _ => none

/-- Whether a handle ends with a mark of its own. -/
def isWholeHandle : List Char → Bool
  | '!' :: rest => rest.getLast? = some '!'
  | _ => false

/-- Reads a tag without looking at what follows: in angle brackets as it is, and otherwise with a
handle. A tag that is only a mark has no handle. -/
def readTagName (i : Input) : Option (Token × Input) :=
  match i.rest with
  | '!' :: '<' :: _ => do
    let (text, i) ← readTagRest true false (i.advance 2)
    match i.rest with
    | '>' :: _ => return (.tag "" (String.ofList text), i.advance 1)
    | _ => none
  | _ => do
    let (handle, i) ← readHandle i
    let (text, i) ← readTagRest false (!isWholeHandle handle) i
    if isWholeHandle handle then return (.tag (String.ofList handle) (String.ofList text), i)
    match handle.drop 1 ++ text with
    | [] => return (.tag "" "!", i)
    | text => return (.tag "!" (String.ofList text), i)

/-- Reads a tag, which has to end as a word does, or before a comma inside brackets. -/
def readTag (flow : Bool) (i : Input) : Option (Token × Input) := do
  let (token, i) ← readTagName i
  if wordEnds i.rest ∨ (flow ∧ i.rest.head? = some ',') then return (token, i) else none

/-! ## Directives -/

/-- Reads a number of a version: at most nine digits. -/
def readVersionNumber (i : Input) : Option (Nat × Input) :=
  let digits := i.run Char.isDigit
  if digits.length ≤ 9 then (digitsIn? 10 digits).map fun n => (n, i.advance digits.length)
  else none

/-- Reads the value of a version directive. -/
def readVersion (i : Input) : Option (Token × Input) := do
  let (major, i) ← readVersionNumber i
  match i.rest with
  | '.' :: _ => do
    let (minor, i) ← readVersionNumber (i.advance 1)
    return (.version major minor, i)
  | _ => none

/-- Reads the value of a directive that gives a handle its meaning. -/
def readHandleMeaning (i : Input) : Option (Token × Input) := do
  let (handle, i) ← readHandle i
  if ¬ isWholeHandle handle ∧ handle ≠ ['!'] then none
  match i.rest with
  | c :: _ => if !isBlank c then none
  | [] => none
  let (text, i) ← readTagRest true false i.skipBlanks
  if wordEnds i.rest then
    return (.handle (String.ofList handle) (String.ofList text), i)
  else none

/-- Reads a directive after its sign, with the rest of its line. -/
def readDirective (i : Input) : Option (Token × Input) := do
  let name := i.run isNameChar
  let i := i.advance name.length
  if !wordEnds i.rest then none
  let i := i.skipBlanks
  let (token, i) ←
    if name = "YAML".toList then readVersion i
    else if name = "TAG".toList then readHandleMeaning i
    else none
  let i := i.skipBlanks.skipComment
  if lineEnds i.rest then return (token, i.newLine) else none

end Striker.Yaml
