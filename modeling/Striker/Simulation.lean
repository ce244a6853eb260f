/-
The closed loop: in every frame vision writes to the board, the task decides, motion carries out,
and the ball moves. Everything random comes from the seed, so the same scenario gives the same log.
-/
import Striker.Ball
import Striker.Motion
import Striker.Runner
import Striker.Task.Alternate

namespace Striker

/-! ## Scenarios -/

/-- What is simulated. -/
structure Scenario where
  frames : UInt64
  seed : UInt64
  /-- The frames that motion lines up before a ball action. -/
  lineupFrames : UInt32
  /-- The frames of a ball action. -/
  actionFrames : UInt32
  /-- The chance per frame that vision loses the ball. -/
  dropout : Double
  /-- How far ahead the ball is at the start, in millimetres. -/
  distance : Single
  deriving DecidableEq

namespace Scenario

/-- The scenario that is simulated where nothing is said. -/
def standard : Scenario := ⟨600, 42, 10, 20, 0.05, 600⟩

instance : Inhabited Scenario := ⟨standard⟩

/-- Scenarios that can be simulated. -/
def check (s : Scenario) : Except Invalid Unit :=
  if !(Binary.atMost 0 s.dropout && s.dropout.atMost 1) then .error (.dropout s.dropout)
  else if !s.distance.isFinite then .error .startDistance
  else .ok ()

/-- A scenario as data. -/
def datum (s : Scenario) : Datum :=
  .record [("frames", .natural s.frames.toNat), ("seed", .natural s.seed.toNat),
    ("lineup_frames", .natural s.lineupFrames.toNat),
    ("action_frames", .natural s.actionFrames.toNat), ("dropout", .double s.dropout),
    ("start_distance_mm", .single s.distance)]

/-- A scenario as a term. -/
def term (s : Scenario) : Text.Term :=
  .record "SimConfig" [("frames", .whole s.frames.toNat), ("seed", .whole s.seed.toNat),
    ("lineup_frames", .whole s.lineupFrames.toNat),
    ("action_frames", .whole s.actionFrames.toNat), ("dropout", .double s.dropout),
    ("start_distance_mm", .single s.distance)]

/-- The fields of a scenario. Those that are missing keep their standard values. -/
def record (σ : Type) [Source σ] : Record σ Scenario where
  title := "struct SimConfig"
  fields := [
    .of "frames" false Source.word64 fun frames s => { s with frames },
    .of "seed" false Source.word64 fun seed s => { s with seed },
    .of "lineup_frames" false Source.word32 fun lineupFrames s => { s with lineupFrames },
    .of "action_frames" false Source.word32 fun actionFrames s => { s with actionFrames },
    .of "dropout" false Source.double fun dropout s => { s with dropout },
    .of "start_distance_mm" false Source.single fun distance s => { s with distance }]
  start := standard
  lenient := true

/-- Reads a scenario. -/
def read {σ : Type} [Source σ] (s : σ) : Reading Scenario := (record σ).read s

end Scenario

/-! ## Frames -/

/-- Everything that takes part in a simulation. -/
structure World where
  board : Board
  runner : Runner Task
  motion : Motion
  ball : Ball

/-- What a frame adds to the log, and what it says. -/
structure Frame where
  entry : Entry Status
  events : List Event

namespace World

/-- One frame. -/
def step (w : World) : World × Frame :=
  let (ball, board) := w.ball.write w.board
  let ran := w.runner.tick board
  let (motion, board) := w.motion.update ran.board
  (⟨board, ran.runner, motion, ball.advance board.active⟩, ⟨ran.entry, ran.events⟩)

/-- So many frames; those before them come in reverse. -/
def run : Nat → World → List Frame → World × List Frame
  | 0, w, before => (w, before.reverse)
  | n + 1, w, before =>
    let (w, frame) := w.step
    run n w (frame :: before)

end World

/-! ## Simulations -/

/-- A simulation that is ready to run. -/
structure Simulation where
  world : World
  frames : Nat

/-- What a simulation leads to. -/
structure Outcome where
  log : Log Status
  summary : Summary
  /-- The ball actions that motion carried through. -/
  performed : Nat
  events : List Event

namespace Simulation

/-- Sets up a scenario, if it and the settings are valid. -/
def ofScenario (settings : Settings) (s : Scenario) : Except Invalid Simulation := do
  s.check
  let task ← Task.ofSettings settings
  return {
    world := {
      board := .empty
      runner := .activate task
      motion := .start s.lineupFrames.toNat s.actionFrames.toNat
      ball := .start s.seed s.distance s.dropout }
    frames := s.frames.toNat }

/-- Runs all frames and deactivates the task. The activation is among the events. -/
def run (s : Simulation) : Outcome :=
  let (w, frames) := s.world.run s.frames []
  { log := ⟨frames.map Frame.entry⟩
    summary := w.runner.summary
    performed := w.motion.performed
    events := Runner.activation s.world.runner.task :: .simulationStarted s.frames
      :: frames.flatMap Frame.events ++ [w.runner.deactivation] }

end Simulation

end Striker
