/-
Plain scalars: words without quotes, in one line or several. A plain scalar ends before a colon that
is followed by a blank, before a comment, before a line that is not indented far enough, and inside
brackets before their signs.
-/
import Striker.Yaml.Gap

namespace Striker.Yaml

/-- A scalar that was read, and the input after it and the gap behind it. -/
structure PlainScalar where
  text : List Char
  /-- Whether the gap behind the scalar goes over the end of a line. -/
  broken : Bool
  input : Input

/-- A sign that ends a word inside brackets. -/
def isFlowSign (c : Char) : Bool := c = ',' || c = '[' || c = ']' || c = '\x7b' || c = '\x7d'

/-- Whether a plain scalar ends before a word that begins here. -/
def plainEnds (indent : Int) (flow : Bool) (p : Position) (cs : List Char) : Bool :=
  (!flow && p.column < indent) || isMarker p cs || cs.head? = some '#'

/-- Whether a word of a plain scalar ends before a character that is not blank. -/
def plainWordEnds (flow : Bool) (c : Char) (rest : List Char) : Bool :=
  (c = ':' && wordEnds rest) || (flow && isFlowSign c)

/-- A colon inside brackets that is followed by a sign. -/
def isStrayColon (flow : Bool) (c : Char) (rest : List Char) : Bool :=
  flow && c = ':' && match rest with
    | d :: _ => isFlowSign d || d = '?'
    | [] => false

/-- Reads a plain scalar. `indent` is how far its lines have to be indented, `before` what was read
so far, last character first; `gap` is what was seen since the last word, if that is over. -/
def readPlain (indent : Int) (flow : Bool) (before : List Char) (gap : Option Gap) (p : Position) :
    List Char → Option PlainScalar
  | '\r' :: '\n' :: rest =>
    readPlain indent flow before (some ((gap.getD .empty).lineEnd ['\n'])) (p.newLine 2) rest
  | c :: rest =>
    if isBreak c then
      readPlain indent flow before (some ((gap.getD .empty).lineEnd (breakText c))) (p.after c)
        rest
    else if isBlank c then
      let g := gap.getD .empty
      if g.isBroken ∧ p.column < indent ∧ c = '\t' then none
      else readPlain indent flow before (some (g.blank c)) (p.after c) rest
    else if gap.isSome ∧ plainEnds indent flow p (c :: rest) then
      some ⟨before.reverse, (gap.getD .empty).isBroken, ⟨p, c :: rest⟩⟩
    else if isStrayColon flow c rest then none
    else if plainWordEnds flow c rest then
      some ⟨before.reverse, (gap.getD .empty).isBroken, ⟨p, c :: rest⟩⟩
    else
      readPlain indent flow (c :: (gap.getD .empty).text.reverse ++ before) none (p.after c) rest
  | [] => some ⟨before.reverse, (gap.getD .empty).isBroken, ⟨p, []⟩⟩

end Striker.Yaml
