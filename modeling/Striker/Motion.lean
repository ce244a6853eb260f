/-
Scripted motion: a stand-in for the walk engine that goes through the actions behaviour depends on.
Asked for a ball action it lines up, performs, and walks again. After that it does not start another
ball action until it has been asked to walk, so a request that is out of date is not carried out
again. A change of mind while lining up takes it back to walking.
-/
import Striker.Board

namespace Striker

/-- What scripted motion is at, with the frames left of it. -/
inductive Stage where
  | walking
  | liningUp (action : Action) (left : Nat)
  | performing (action : Action) (left : Nat)
  | finished
  deriving DecidableEq

/-- What a stage looks like from outside. -/
def Stage.report : Stage → Action
  | walking => .walk
  | liningUp _ _ => .lineUp
  | performing action _ => action
  | finished => .walk

/-- Scripted motion: how long it lines up and performs, its stage, and how many ball actions it has
carried through to the end. -/
structure Motion where
  lineup : Nat
  length : Nat
  stage : Stage
  performed : Nat
  deriving DecidableEq

namespace Motion

/-- Motion that walks. A ball action lasts at least one frame. -/
def start (lineup length : Nat) : Motion := ⟨lineup, Nat.max length 1, .walking, 0⟩

/-- The first stage of a ball action. -/
def begin (m : Motion) (action : Action) : Stage :=
  if 0 < m.lineup then .liningUp action m.lineup else .performing action m.length

/-- The stage of the next frame, when an action is requested. -/
def next (m : Motion) (requested : Action) : Stage :=
  match m.stage with
  | .walking => if requested.isBallAction then m.begin requested else .walking
  | .liningUp action left =>
    if requested ≠ action then .walking
    else if left ≤ 1 then .performing action m.length
    else .liningUp action (left - 1)
  | .performing action left => if left ≤ 1 then .finished else .performing action (left - 1)
  | .finished => if requested = .walk then .walking else .finished

/-- Whether the next frame carries a ball action through to the end. -/
def completes (m : Motion) : Bool :=
  match m.stage with
  | .performing _ left => left ≤ 1
  | _ => false

/-- One frame, when an action is requested. -/
def step (m : Motion) (requested : Action) : Motion :=
  { m with
    stage := m.next requested
    performed := m.performed + if m.completes then 1 else 0 }

/-- What motion reports of itself. -/
def report (m : Motion) : Action := m.stage.report

/-- Reads the request on the board, goes on by one frame, and reports to the board. -/
def update (m : Motion) (b : Board) : Motion × Board :=
  let m := m.step b.request.body.action
  (m, b.report m.report)

end Motion

end Striker
