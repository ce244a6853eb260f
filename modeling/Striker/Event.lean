/-
Events: what the program says about its steps. An event is data; its level and its one-line text are
functions of it.
-/
import Striker.Sighting
import Striker.Task.State

namespace Striker

/-- How important an event is. -/
inductive Level where
  | debug
  | info
  | warn
  deriving DecidableEq

/-- Something that happened. -/
inductive Event where
  | activated (task : String)
  | deactivated (task : String) (frames kicks dribbles : Nat)
  | phaseChanged (frame : Nat) (before after : Phase)
  | finished (frame : Nat) (completed motion : Action)
  | unexpected (frame : Nat) (motion attempting : Action)
  | ballNear (frame : Nat) (ball : Position)
  | ticked (frame : Nat) (body : Command) (state : State) (motion : Action)
  | simulationStarted (frames : Nat)
  | settingsLoaded (path : String) (walkFrames : UInt32) (threshold : Single)
  | walkFramesOverridden (walkFrames : UInt32)
  | thresholdOverridden (threshold : Single)
  | runStarted (frames seed : UInt64) (lineupFrames actionFrames : UInt32) (dropout : Double)
      (walkFrames : UInt32)
  | runFinished (kicks dribbles performed : Nat)
  | traceWritten (path : String) (ticks : Nat)
  deriving DecidableEq

namespace Event

/-- The level of an event. -/
def level : Event → Level
  | activated .. => .info
  | deactivated .. => .info
  | phaseChanged .. => .info
  | finished .. => .info
  | unexpected .. => .warn
  | ballNear .. => .debug
  | ticked .. => .debug
  | simulationStarted .. => .info
  | settingsLoaded .. => .info
  | walkFramesOverridden .. => .debug
  | thresholdOverridden .. => .debug
  | runStarted .. => .info
  | runFinished .. => .info
  | traceWritten .. => .info

/-- Whether an event is about what every tick does. -/
def isChatter : Event → Bool
  | ballNear .. => true
  | ticked .. => true
  | _ => false

/-- What an event says. -/
def message : Event → String
  | activated .. => "behaviour task activated"
  | deactivated .. => "behaviour task deactivated"
  | phaseChanged .. => "phase change"
  | finished .. => "ball action finished, walking"
  | unexpected .. => "motion reports an action that was not requested; waiting"
  | ballNear .. => "ball near, lining up"
  | ticked .. => "tick"
  | simulationStarted .. => "simulation started"
  | settingsLoaded .. => "behaviour config loaded"
  | walkFramesOverridden .. => "env override"
  | thresholdOverridden .. => "env override"
  | runStarted .. => "starting closed-loop run"
  | runFinished .. => "run finished"
  | traceWritten .. => "trace written"

/-- A number of 32 bits in an event, which holds numbers of 64 bits only. -/
def real (x : Single) : Text.Term := .double x.convert

/-- The named values of an event. -/
def values : Event → List (String × Text.Term)
  | activated task => [("task", .word task)]
  | deactivated task frames kicks dribbles =>
    [("task", .word task), ("frames", .whole frames), ("kicks", .whole kicks),
      ("dribbles", .whole dribbles)]
  | phaseChanged frame before after =>
    [("frame", .whole frame), ("from", before.term), ("to", after.term)]
  | finished frame completed motion =>
    [("frame", .whole frame), ("completed", .word completed.name), ("motion", .word motion.name)]
  | unexpected frame motion attempting =>
    [("frame", .whole frame), ("motion", .word motion.name),
      ("attempting", .word attempting.name)]
  | ballNear frame ball => [("frame", .whole frame), ("x", real ball.x), ("y", real ball.y)]
  | ticked frame body state motion =>
    [("frame", .whole frame), ("body", body.term), ("walk_frames", .whole state.walkFrames),
      ("handshake", state.handshake.term), ("motion", .word motion.name)]
  | simulationStarted frames => [("frames", .whole frames)]
  | settingsLoaded path walkFrames threshold =>
    [("path", .word path), ("walk_phase_frames", .whole walkFrames.toNat),
      ("near_field_threshold_mm", real threshold)]
  | walkFramesOverridden walkFrames => [("walk_phase_frames", .whole walkFrames.toNat)]
  | thresholdOverridden threshold => [("near_field_threshold_mm", real threshold)]
  | runStarted frames seed lineupFrames actionFrames dropout walkFrames =>
    [("frames", .whole frames.toNat), ("seed", .whole seed.toNat),
      ("lineup_frames", .whole lineupFrames.toNat), ("action_frames", .whole actionFrames.toNat),
      ("dropout", .double dropout), ("walk_phase_frames", .whole walkFrames.toNat)]
  | runFinished kicks dribbles performed =>
    [("kicks", .whole kicks), ("dribbles", .whole dribbles), ("motion_actions", .whole performed)]
  | traceWritten path ticks => [("path", .word path), ("ticks", .whole ticks)]

/-- The name of a level. -/
def levelName : Level → String
  | .debug => "DEBUG"
  | .info => "INFO"
  | .warn => "WARN"

/-- What an event says, with its values. -/
def text (e : Event) : String :=
  e.values.foldl (fun text (name, value) => text ++ " " ++ name ++ "=" ++ value.render) e.message

/-- An event on one line. -/
def line (e : Event) : String := levelName e.level ++ " " ++ e.text

end Event

end Striker
