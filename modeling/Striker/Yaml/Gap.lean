/-
Gaps: the blanks and line ends between two words of a scalar that goes on over several lines. Blanks
in one line count; over the end of a line they do not, the end itself becomes a space, and further
ends are kept.
-/
import Striker.Yaml.Input

namespace Striker.Yaml

/-- What has been seen since the last word: blanks, or the end of the line and further ends. -/
structure Gap where
  blanks : List Char
  /-- What the first end stands for; nothing, as long as the line has not ended. -/
  first : Option (List Char)
  more : List Char
  deriving DecidableEq

namespace Gap

/-- Nothing seen. -/
def empty : Gap := ⟨[], none, []⟩

/-- An end of line that stands for nothing. -/
def continued : Gap := ⟨[], some [], []⟩

/-- Whether the line has ended. -/
def isBroken (g : Gap) : Bool := g.first.isSome

/-- One more blank. -/
def blank (g : Gap) (c : Char) : Gap :=
  if g.isBroken then g else { g with blanks := g.blanks ++ [c] }

/-- One more end of line. -/
def lineEnd (g : Gap) (text : List Char) : Gap :=
  match g.first with
  | none => ⟨[], some text, []⟩
  | some _ => { g with more := g.more ++ text }

/-- What a gap stands for between two words. -/
def text (g : Gap) : List Char :=
  match g.first with
  | none => g.blanks
  | some ['\n'] => if g.more = [] then [' '] else g.more
  | some first => first ++ g.more

end Gap

end Striker.Yaml
