/-
Settings of the task: how long a warm-up lasts, how near the ball has to be for a hint, the frame
rate, and the lamp that shows the phase. Settings are valid when a warm-up comes to an end and the
numbers make sense; `check` names the first thing that is wrong.
-/
import Striker.Indicator

namespace Striker

/-- Settings of the task. -/
structure Settings where
  /-- The frames walked before each attempt. -/
  walkFrames : UInt32
  /-- The forward distance, in millimetres, below which the ball is near. -/
  threshold : Single
  /-- Frames per second; only used to report times. -/
  frameRate : UInt32
  /-- The lamp that shows the phase. -/
  lamp : Lamp
  deriving DecidableEq

/-- Why settings, or what overrides them, are refused. -/
inductive Invalid where
  | walkFrames
  | frameRate
  | threshold (x : Single)
  | override (name value : String)
  | dropout (p : Double)
  | startDistance
  deriving DecidableEq

/-- A refusal in words. -/
def Invalid.message : Invalid → String
  | walkFrames => "walk_phase_frames must be at least 1"
  | frameRate => "frame_rate_hz must be at least 1"
  | threshold x => "near_field_threshold_mm must be a non-negative number, got "
      ++ Layout.display.write x
  | override name value => name ++ "=" ++ Text.quote value ++ " is not a valid value"
  | dropout p => "dropout must be within 0.0..=1.0, got " ++ Layout.display.write p
  | startDistance => "start_distance_mm must be finite"

namespace Settings

/-- The settings that are used where none are given. -/
def standard : Settings := ⟨60, 300, 30, .leftEye⟩

instance : Inhabited Settings := ⟨standard⟩

/-- The settings used on the robot. -/
def realistic : Settings := standard

/-- A short warm-up, for demonstrations. -/
def quick : Settings := { standard with walkFrames := 5 }

/-- Settings that a task accepts. -/
def check (s : Settings) : Except Invalid Unit :=
  if s.walkFrames = 0 then .error .walkFrames
  else if s.frameRate = 0 then .error .frameRate
  else if !s.threshold.isFinite || s.threshold.less 0 then .error (.threshold s.threshold)
  else .ok ()

/-- The length of a warm-up in seconds. -/
def walkSeconds (s : Settings) : Single :=
  .ofNat s.walkFrames.toNat / .ofNat (Nat.max s.frameRate.toNat 1)

/-- Settings as data. -/
def datum (s : Settings) : Datum :=
  .record [("walk_phase_frames", .natural s.walkFrames.toNat),
    ("near_field_threshold_mm", .single s.threshold),
    ("frame_rate_hz", .natural s.frameRate.toNat), ("indicator", s.lamp.datum)]

/-- Settings as a term. -/
def term (s : Settings) : Text.Term :=
  .record "BehaviourConfig" [("walk_phase_frames", .whole s.walkFrames.toNat),
    ("near_field_threshold_mm", .single s.threshold),
    ("frame_rate_hz", .whole s.frameRate.toNat), ("indicator", s.lamp.term)]

/-- The fields of settings. Those that are missing keep their standard values. -/
def record (σ : Type) [Source σ] : Record σ Settings where
  title := "struct BehaviourConfig"
  fields := [
    .of "walk_phase_frames" false Source.word32 fun walkFrames s => { s with walkFrames },
    .of "near_field_threshold_mm" false Source.single fun threshold s => { s with threshold },
    .of "frame_rate_hz" false Source.word32 fun frameRate s => { s with frameRate },
    .of "indicator" false Lamp.read fun lamp s => { s with lamp }]
  start := standard
  lenient := true

/-- Reads settings. -/
def read {σ : Type} [Source σ] (s : σ) : Reading Settings := (record σ).read s

end Settings

end Striker
