/-
The walk, kick and dribble task. It walks for a fixed number of frames, then asks motion for a kick.
Once motion has kicked and walks again, it walks again and then asks for a dribble; kicks and
dribbles alternate for ever. Time is counted in ticks.

A warm-up tick counts a frame. With the count full, a tick belongs to an attempt: it completes the
attempt when the handshake is confirmed, and asks for the target otherwise. The tick that completes
an attempt walks, so it belongs to the next warm-up, but it counts no frame.
-/
import Striker.Settings.Basic
import Striker.Task.Basic

namespace Striker

/-- The walk, kick and dribble task. -/
structure Task where
  settings : Settings
  state : State
  /-- The phase of the last tick. -/
  phase : Phase
  /-- The unexpected action that a warning was last given for. -/
  unexpected : Option Action
  deriving DecidableEq

/-- What the state of a task and a context lead to. -/
structure Decision where
  state : State
  unexpected : Option Action
  body : Command
  events : List Event
  deriving DecidableEq

namespace Task

/-- A task with the given settings, if they are valid. -/
def ofSettings (s : Settings) : Except Invalid Task :=
  match s.check with
  | .ok () => .ok ⟨s, .initial, .warmup, none⟩
  | .error e => .error e

/-- The task before its first tick. -/
def init (t : Task) : Task := ⟨t.settings, .initial, .warmup, none⟩

/-- Whether motion, although asked for the target, does something that does not lead to it. -/
def isUnexpected (target : Action) (c : Context) : Bool :=
  !c.active.endsBallAction && c.active ≠ target && c.published.body.action = target

/-- A tick of a warm-up. -/
def warmUp (t : Task) (c : Context) : Decision where
  state := { t.state with walkFrames := t.state.walkFrames + 1, handshake := .notTriggered }
  unexpected := t.unexpected
  body := .walk c.sighting.turn
  events := []

/-- The tick that completes an attempt. -/
def complete (t : Task) (c : Context) : Decision where
  state := ⟨0, t.state.target.other, .notTriggered⟩
  unexpected := none
  body := .walk c.sighting.turn
  events := [.finished c.frame t.state.target.action c.active]

/-- A tick of an attempt that goes on. A warning is given once for each change. -/
def attempt (t : Task) (c : Context) : Decision :=
  let target := t.state.target.action
  let unexpected := if isUnexpected target c then some c.active else none
  { state := { t.state with handshake := t.state.handshake.observe c.active target }
    unexpected
    body := t.state.target.command c.sighting.turn
    events := if unexpected.isSome && t.unexpected ≠ unexpected
      then [.unexpected c.frame c.active target] else [] }

/-- Decides what a tick asks of the body. -/
def decide (t : Task) (c : Context) : Decision :=
  if t.state.walkFrames < t.settings.walkFrames.toNat then t.warmUp c
  else if t.state.handshake.check c.active t.state.target.action = .confirmed then t.complete c
  else t.attempt c

/-- The phase that a decision belongs to. -/
def phaseOf (d : Decision) : Phase := if d.body.isWalk then .warmup else d.state.target.phase

/-- The hint, with the position of the ball that it is given for. -/
def near (t : Task) (c : Context) : Option Position :=
  if c.sighting.isNear t.settings.threshold then c.sighting.ball else none

/-- One tick. -/
def tick (t : Task) (c : Context) : Ticked Task :=
  let d := t.decide c
  let phase := phaseOf d
  let hint := match t.near c with
    | some ball => [.ballNear c.frame ball]
    | none => []
  let change := if phase = t.phase then [] else [.phaseChanged c.frame t.phase phase]
  { task := ⟨t.settings, d.state, phase, d.unexpected⟩
    request := ⟨d.body, c.sighting.isNear t.settings.threshold,
      some ⟨t.settings.lamp, phase.colour⟩⟩
    events := hint ++ d.events ++ change ++ [.ticked c.frame d.body d.state c.active] }

/-- What a task shows of itself. -/
def status (t : Task) : Status := ⟨t.phase, t.state⟩

/-- The name of the task. -/
def name : String := "WalkKickDribble"

instance : Behaviour Task Status := ⟨fun _ => name, init, tick, status⟩

end Task

end Striker
