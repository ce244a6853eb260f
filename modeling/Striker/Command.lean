/-
Commands: what behaviour asks of the body for one frame. Every command carries a turn, in radians
against the clock, normally the heading to the ball.
-/
import Striker.Action
import Striker.Datum.Record

namespace Striker

/-- A command to the body. -/
inductive Command where
  | walk (turn : Single)
  | kick (turn : Single)
  | dribble (turn : Single)
  deriving DecidableEq

namespace Command

/-- Walking straight on. -/
instance : Inhabited Command := ⟨.walk 0⟩

/-- The action that motion reports once it carries the command out. -/
def action : Command → Action
  | walk _ => .walk
  | kick _ => .kick
  | dribble _ => .dribble

/-- The turn of a command. -/
def turn : Command → Single
  | walk t => t
  | kick t => t
  | dribble t => t

/-- A command to walk. -/
def isWalk : Command → Bool
  | walk _ => true
  | _ => false

/-- The kind of a command in data. -/
def kind : Command → String
  | walk _ => "walk"
  | kick _ => "kick"
  | dribble _ => "dribble"

/-- A command as data: its kind, under the name `action`, and its turn. -/
def datum (c : Command) : Datum :=
  .record [("action", .text c.kind), ("turn", .single c.turn)]

/-- A command as a term. -/
def term (c : Command) : Text.Term :=
  .record c.action.word [("turn", .single c.turn)]

/-! ## Reading -/

/-- The kinds of commands; a kind makes a command of a turn. -/
def kinds : List (String × (Single → Command)) :=
  [("walk", walk), ("kick", kick), ("dribble", dribble)]

/-- What is left of a command when its kind is known. -/
def rest (make : Single → Command) : Record Datum Command where
  title := "struct variant BodyCommand::" ++ (make 0).action.word
  fields := [.of "turn" true Source.single fun turn _ => make turn]
  start := make 0
  lenient := false

variable {σ : Type} [Source σ]

/-- Reads the kind of a command. -/
def readKind : σ → Reading (Single → Command) :=
  Source.label "variant identifier" (Datum.pick kinds)

/-- Reads the entries of a command: its kind, wherever it stands, and the others as data. -/
def readEntries : List (σ × σ) → Option (Single → Command) → List (Datum × Datum) →
    Reading (Option (Single → Command) × List (Datum × Datum))
  | [], make, others => pure (make, others.reverse)
  | (key, value) :: entries, make, others => do
    match ← Source.datum "a type tag `action` or any other value" key with
    | .text "action" =>
      if make.isSome then throw (.of (.duplicate "action"))
      else readEntries entries (some (← readKind value)) others
    | key => readEntries entries make ((key, ← Source.buffer value) :: others)

/-- Reads the kind of a command from its parts. The kind decides how the other parts are read, so
they are kept as data. In a list the kind comes first. -/
def readParts : Opened σ → Reading ((Single → Command) × Datum)
  | .items [] close => do
    closing close
    throw (.of (.missing "action"))
  | .items (first :: others) close => do
    let make ← readKind first
    let others ← others.mapM Source.buffer
    closing close
    return (make, .list others)
  | .entries entries close => do
    let (make, others) ← readEntries entries none []
    closing close
    match make with
    | some make => return (make, .table others)
    | none => throw (.of (.missing "action"))

/-- Reads a command. -/
def read (s : σ) : Reading Command := do
  let (make, others) ← Source.parts "internally tagged enum BodyCommand" readParts s
  (rest make).read others

end Command

end Striker
