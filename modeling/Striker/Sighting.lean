/-
Sightings: what perception tells behaviour about the ball in one frame. Positions are relative to
the robot, in millimetres, `x` forward and `y` to the left; headings are in radians against the
clock. Geometry that is unknown or no number is treated as far away and straight ahead.
-/
import Striker.Datum.Record
import Striker.Number.Arctangent
import Striker.Number.Root
import Striker.Text.Term

namespace Striker

/-- A position relative to the robot. -/
structure Position where
  x : Single
  y : Single
  deriving DecidableEq

/-- What is known of the ball: where it is, and in which direction. -/
structure Sighting where
  position : Option Position
  heading : Option Single
  deriving DecidableEq

/-! ## Positions -/

namespace Position

/-- The place of the robot itself. -/
instance : Inhabited Position := ⟨⟨0, 0⟩⟩

/-- The distance from the robot. -/
def distance (p : Position) : Single := Single.hypotenuse p.x p.y

/-- The angle from straight ahead. -/
def heading (p : Position) : Single := Single.angle p.y p.x

/-- A position with finite coordinates. -/
def isFinite (p : Position) : Bool := p.x.isFinite && p.y.isFinite

/-- A position as data. -/
def datum (p : Position) : Datum := .record [("x", .single p.x), ("y", .single p.y)]

/-- A position as a term. -/
def term (p : Position) : Text.Term := .record "RelPos" [("x", .single p.x), ("y", .single p.y)]

/-- The fields of a position. -/
def record (σ : Type) [Source σ] : Record σ Position where
  title := "struct RelPos"
  fields := [
    .of "x" true Source.single fun x p => { p with x },
    .of "y" true Source.single fun y p => { p with y }]
  start := default
  lenient := false

/-- Reads a position. -/
def read {σ : Type} [Source σ] (s : σ) : Reading Position := (record σ).read s

end Position

/-! ## Sightings -/

namespace Sighting

/-- The ball seen at a position. -/
def ofPosition (p : Position) : Sighting := ⟨some p, some p.heading⟩

/-- No ball. -/
def lost : Sighting := ⟨none, none⟩

instance : Inhabited Sighting := ⟨lost⟩

/-- The position of the ball, if it is known and finite. -/
def ball (s : Sighting) : Option Position := s.position.filter Position.isFinite

/-- The turn towards the ball. Without a finite heading the robot goes straight on. -/
def turn (s : Sighting) : Single := (s.heading.filter Binary.isFinite).getD 0

/-- Whether the ball is less than `threshold` ahead of the robot. A ball behind it is. -/
def isNear (threshold : Single) (s : Sighting) : Bool :=
  match s.ball with
  | some p => p.x.less threshold
  | none => false

/-- A sighting as data. -/
def datum (s : Sighting) : Datum :=
  .record [("ball_rel_pos", .option Position.datum s.position),
    ("ball_heading", .option .single s.heading)]

/-- A sighting as a term. -/
def term (s : Sighting) : Text.Term :=
  .record "PerceptionSnapshot" [("ball_rel_pos", .option (s.position.map Position.term)),
    ("ball_heading", .option (s.heading.map .single))]

/-- The fields of a sighting. -/
def record (σ : Type) [Source σ] : Record σ Sighting where
  title := "struct PerceptionSnapshot"
  fields := [
    .of "ball_rel_pos" false (Source.option Position.read) fun position s => { s with position },
    .of "ball_heading" false (Source.option Source.single) fun heading s => { s with heading }]
  start := lost
  lenient := false

/-- Reads a sighting. -/
def read {σ : Type} [Source σ] (s : σ) : Reading Sighting := (record σ).read s

end Sighting

end Striker
