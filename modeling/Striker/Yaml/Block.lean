/-
Block scalars: whole lines, indented under a sign. A literal scalar keeps its lines; a folded one
joins neighbours that do not begin with a blank. The signs after the first say what becomes of the
line ends at the end, and how far the lines are indented.
-/
import Striker.Yaml.Input

namespace Striker.Yaml

/-- What becomes of the line ends after the last line. -/
inductive Chomp where
  | strip
  | clip
  | keep
  deriving DecidableEq

/-- The decisions in the first line of a block scalar. -/
structure BlockHeader where
  chomp : Chomp
  /-- How far the lines are indented beyond the scalar's parent, if that is said. -/
  indent : Option Nat
  deriving DecidableEq

/-- The line ends before a line of text, how far the furthest of these lines was indented, and the
input after them. -/
structure Breaks where
  text : List Char
  width : Nat
  input : Input

/-- The sign that says what becomes of the line ends at the end. -/
def chompSign? (c : Char) : Option Chomp :=
  if c = '+' then some .keep else if c = '-' then some .strip else none

/-- The digit that says how far lines are indented; nothing for zero. -/
def indentDigit? (c : Char) : Option Nat :=
  if '1' ≤ c ∧ c ≤ '9' then some (c.toNat - '0'.toNat) else none

/-- Reads the two signs of a header, in either order. -/
def readHeader (i : Input) : Option (BlockHeader × Input) :=
  match i.rest with
  | c :: rest =>
    match chompSign? c with
    | some chomp =>
      match rest with
      | d :: _ =>
        if d.isDigit then (indentDigit? d).map fun n => (⟨chomp, some n⟩, i.advance 2)
        else some (⟨chomp, none⟩, i.advance 1)
      | [] => some (⟨chomp, none⟩, i.advance 1)
    | none =>
      if c.isDigit then
        (indentDigit? c).map fun n => match rest.head?.bind chompSign? with
          | some chomp => (⟨chomp, some n⟩, i.advance 2)
          | none => (⟨.clip, some n⟩, i.advance 1)
      else some (⟨.clip, none⟩, i)
  | [] => some (⟨.clip, none⟩, i)

/-- Reads spaces and line ends before a line of text; `indent` is how far to go into a line, as far
as there are spaces if it is nothing. A tab may not stand in the indentation. -/
def readBreaks (indent : Option Nat) (text : List Char) (width : Nat) (p : Position) :
    List Char → Option Breaks
  | '\r' :: '\n' :: rest =>
    readBreaks indent (text ++ ['\n']) (max width p.column) (p.newLine 2) rest
  | c :: rest =>
    let inside : Bool := match indent with
      | none => true
      | some n => p.column < n
    if inside ∧ c = ' ' then readBreaks indent text width (p.after c) rest
    else if inside ∧ c = '\t' then none
    else if isBreak c then
      readBreaks indent (text ++ breakText c) (max width p.column) (p.after c) rest
    else some ⟨text, max width p.column, ⟨p, c :: rest⟩⟩
  | [] => some ⟨text, max width p.column, ⟨p, []⟩⟩

/-- What the end of the line here stands for. -/
def endText : List Char → List Char
  | '\r' :: '\n' :: _ => ['\n']
  | c :: _ => if isBreak c then breakText c else []
  | [] => []

/-- The text of a block scalar so far, last character first; the end of its last line; the ends
after that; and whether the last line began with a blank. -/
structure BlockText where
  text : List Char
  lineEnd : List Char
  breaks : List Char
  blank : Bool

/-- Adds a line. Between two lines that begin without a blank, a folded scalar has a space instead
of a single line end. -/
def BlockText.add (b : BlockText) (literal : Bool) (line lineEnd breaks : List Char) : BlockText :=
  let blank := (line.head?.map isBlank).getD false
  let joint :=
    if !literal && b.lineEnd = ['\n'] && !b.blank && !blank then
      if b.breaks = [] then [' '] else b.breaks
    else b.lineEnd ++ b.breaks
  ⟨line.reverse ++ joint.reverse ++ b.text, lineEnd, breaks, blank⟩

/-- Reads the lines of a block scalar that are indented by `indent`. -/
def readLines (literal : Bool) (indent : Nat) : Nat → BlockText → Input → Option (BlockText × Input)
  | 0, b, i => some (b, i)
  | fuel + 1, b, i =>
    if i.start.column = indent ∧ i.rest ≠ [] then do
      let line := i.run fun c => !isBreak c
      let i := i.skipLine
      let lineEnd := endText i.rest
      let next := i.newLine
      let breaks ← readBreaks (some indent) [] 0 next.start next.rest
      readLines literal indent fuel (b.add literal line lineEnd breaks.text) breaks.input
    else some (b, i)

/-- Reads a block scalar after its first sign; `parent` is how far its parent is indented. -/
def readBlock (literal : Bool) (parent : Int) (i : Input) : Option (List Char × Input) := do
  let (header, i) ← readHeader i
  let i := i.skipBlanks.skipComment
  if !lineEnds i.rest then none
  let i := i.newLine
  let told := header.indent.map fun n => (max parent 0).toNat + n
  let breaks ← readBreaks told [] 0 i.start i.rest
  let indent := told.getD (max breaks.width (max (parent + 1) 1).toNat)
  let (b, i) ← readLines literal indent breaks.input.rest.length ⟨[], [], breaks.text, false⟩
    breaks.input
  let tail := match header.chomp with
    | .strip => []
    | .clip => b.lineEnd
    | .keep => b.lineEnd ++ b.breaks
  return (b.text.reverse ++ tail, i)

end Striker.Yaml
