/-
The ball of the simulation: where it is relative to the robot, and the random stream that moves it
and hides it from vision.
-/
import Striker.Board
import Striker.Random.Draw

namespace Striker

/-- A ball that moves at random. -/
structure Ball where
  stream : Random.Stream
  position : Position
  /-- The chance per frame that vision loses the ball. -/
  dropout : Double
  deriving DecidableEq

namespace Ball

/-- The closest, in millimetres, that the ball comes. -/
def closest : Single := 80

/-- A ball straight ahead. -/
def start (seed : UInt64) (distance : Single) (dropout : Double) : Ball :=
  ⟨.ofSeed seed, ⟨distance, 0⟩, dropout⟩

/-- Where a ball is after an action, and the stream that the draws for it leave: a kick sends the
ball far off, a dribble pushes it on, and anything else comes closer to it. -/
def moved (p : Position) (active : Action) (s : Random.Stream) : Position × Random.Stream :=
  match active with
  | .kick =>
    let (x, s) := s.range 800 1500
    let (y, s) := s.range (-300) 300
    (⟨x, y⟩, s)
  | .dribble =>
    let (dx, s) := s.range 10 25
    (⟨p.x + dx, p.y⟩, s)
  | _ =>
    let (dx, s) := s.range 5 15
    let (dy, s) := s.range (-10) 10
    (⟨(p.x - dx).max closest, p.y * 0.95 + dy⟩, s)

/-- Moves the ball according to what motion did. -/
def advance (b : Ball) (active : Action) : Ball :=
  let drawn := moved b.position active b.stream
  { b with stream := drawn.2, position := drawn.1 }

/-- Vision writes to the board what it sees of the ball. -/
def write (b : Ball) (board : Board) : Ball × Board :=
  let (lost, s) := b.stream.chance b.dropout
  ({ b with stream := s }, if lost then board.lose else board.see b.position)

end Ball

end Striker
