/-
Runners: one activation of a task, connected to the board. A tick takes a snapshot of the board,
lets the task decide, and publishes its request.
-/
import Striker.Task.Basic
import Striker.Trace.Log

namespace Striker

/-- One activation of a task. -/
structure Runner (τ : Type) where
  task : τ
  /-- The ticks so far. -/
  frame : Nat
  /-- The action that the last tick asked for. -/
  last : Option Action
  summary : Summary

/-- What a tick of a runner leads to. -/
structure Ran (τ σ : Type) where
  runner : Runner τ
  board : Board
  entry : Entry σ
  events : List Event

namespace Runner

variable {τ σ : Type} [Behaviour τ σ]

/-- Activates a task. It is reset before its first tick. -/
def activate (t : τ) : Runner τ := ⟨Behaviour.init t, 0, none, .empty⟩

/-- What activation says. -/
def activation (t : τ) : Event := .activated (Behaviour.name t)

/-- One tick against a board. -/
def tick (r : Runner τ) (b : Board) : Ran τ σ :=
  let ticked := Behaviour.tick r.task (.ofSnapshot r.frame b.snapshot)
  { runner := ⟨ticked.task, r.frame + 1, some ticked.request.body.action,
      r.summary.record r.last ticked.request⟩
    board := b.publish ticked.request
    entry := ⟨r.frame, b.active, ticked.request, Behaviour.status ticked.task⟩
    events := ticked.events }

/-- What deactivation says. -/
def deactivation (r : Runner τ) : Event :=
  .deactivated (Behaviour.name r.task) r.frame r.summary.kicksCompleted
    r.summary.dribblesCompleted

end Runner

end Striker
