/-
The text of a YAML stream while it is being read: the characters left, and where in the text they
begin. Five characters end a line; two blanks separate words. A character that may not stand in a
stream spoils the whole block of text around it.
-/

namespace Striker.Yaml

/-- A place in a text: the bytes before it, the line, and the column in it, which counts
characters. -/
structure Position where
  index : Nat
  line : Nat
  column : Nat
  deriving DecidableEq

/-- The characters from a place on. -/
structure Input where
  start : Position
  rest : List Char
  deriving DecidableEq

/-! ## Characters -/

/-- A character that ends a line. -/
def isBreak (c : Char) : Bool :=
  c = '\n' || c = '\r' || c = '\x85' || c = '\u2028' || c = '\u2029'

/-- A blank. -/
def isBlank (c : Char) : Bool := c = ' ' || c = '\t'

/-- A character of names: letters, digits and two marks. -/
def isNameChar (c : Char) : Bool := c.isAlphanum || c = '-' || c = '_'

/-- A character that may stand in a stream at all: no control but tabs and line ends, and neither of
the two numbers that stand for no character. -/
def isPermitted (c : Char) : Bool :=
  let n := c.toNat
  n == 0x09 || n == 0x0a || n == 0x0d || (0x20 ≤ n && n ≤ 0x7e) || n == 0x85
    || (0xa0 ≤ n && n ≤ 0xfffd) || 0x10000 ≤ n

/-- Whether a line ends here. -/
def lineEnds : List Char → Bool
  | [] => true
  | c :: _ => isBreak c

/-- Whether a word ends here. -/
def wordEnds : List Char → Bool
  | [] => true
  | c :: _ => isBlank c || isBreak c

/-- What the end of a line stands for: a line feed, unless the line is ended by one of the two
separators, which stand for themselves. -/
def breakText (c : Char) : List Char :=
  if c = '\u2028' ∨ c = '\u2029' then [c] else ['\n']

/-- Whether a marker of documents stands here, at the start of a line. -/
def isMarker (p : Position) : List Char → Bool
  | '-' :: '-' :: '-' :: rest => p.column = 0 && wordEnds rest
  | '.' :: '.' :: '.' :: rest => p.column = 0 && wordEnds rest
  | _ => false

/-! ## Blocks -/

/-- How many bytes of a text are looked at together. -/
def blockSize : Nat := 16384

/-- The characters of the blocks before the first one with a character that may not stand in a
stream. `before` are the blocks read so far and `block` the one that has room left, both with the
last character first. -/
def legible (before block : List Char) (room : Nat) : List Char → List Char
  | [] => (block ++ before).reverse
  | c :: rest =>
    if !isPermitted c then before.reverse
    else if c.utf8Size ≤ room then legible before (c :: block) (room - c.utf8Size) rest
    else legible (block ++ before) [c] (blockSize - c.utf8Size) rest

/-! ## Moving on -/

/-- The start of the next line, after an end of `n` bytes. -/
def Position.newLine (p : Position) (n : Nat) : Position := ⟨p.index + n, p.line + 1, 0⟩

/-- The place after a character. -/
def Position.after (p : Position) (c : Char) : Position :=
  if isBreak c then p.newLine c.utf8Size else ⟨p.index + c.utf8Size, p.line, p.column + 1⟩

namespace Input

/-- The whole of a text. -/
def ofText (cs : List Char) : Input := ⟨⟨0, 0, 0⟩, cs⟩

/-- The input after `n` characters of the same line. -/
def advance (i : Input) (n : Nat) : Input := ⟨(i.rest.take n).foldl .after i.start, i.rest.drop n⟩

/-- The input after the end of a line, if it stands here. -/
def newLine (i : Input) : Input :=
  match i.rest with
  | '\r' :: '\n' :: rest => ⟨i.start.newLine 2, rest⟩
  | c :: rest => if isBreak c then ⟨i.start.after c, rest⟩ else i
  | [] => i

/-- The characters here for which `p` holds. -/
def run (i : Input) (p : Char → Bool) : List Char := i.rest.takeWhile p

/-- The input after the characters for which `p` holds, none of which ends a line. -/
def skip (i : Input) (p : Char → Bool) : Input := i.advance (i.run p).length

/-- The input after the blanks here. -/
def skipBlanks (i : Input) : Input := i.skip isBlank

/-- The input after the rest of the line, without its end. -/
def skipLine (i : Input) : Input := i.skip fun c => !isBreak c

/-- The input after a comment, if one begins here. -/
def skipComment (i : Input) : Input :=
  match i.rest with
  | '#' :: _ => i.skipLine
  | _ => i

end Input

end Striker.Yaml
