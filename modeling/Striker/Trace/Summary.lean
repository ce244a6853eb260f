/-
Summaries: counts over the requests of an activation. An attempt counts as completed when a walk
follows it.
-/
import Striker.Request

namespace Striker

/-- Counts over requests. -/
structure Summary where
  ticks : Nat
  walks : Nat
  kicks : Nat
  dribbles : Nat
  kicksCompleted : Nat
  dribblesCompleted : Nat
  hints : Nat
  deriving DecidableEq

namespace Summary

/-- Nothing counted. -/
def empty : Summary := ⟨0, 0, 0, 0, 0, 0, 0⟩

/-- One if the condition holds. -/
def count (b : Bool) : Nat := if b then 1 else 0

/-- Counts a request; `previous` is the action asked for in the tick before. -/
def record (s : Summary) (previous : Option Action) (r : Request) : Summary :=
  let action := r.body.action
  { ticks := s.ticks + 1
    walks := s.walks + count (action = .walk)
    kicks := s.kicks + count (action = .kick)
    dribbles := s.dribbles + count (action = .dribble)
    kicksCompleted := s.kicksCompleted + count (action = .walk && previous = some .kick)
    dribblesCompleted :=
      s.dribblesCompleted + count (action = .walk && previous = some .dribble)
    hints := s.hints + count r.hint }

/-- A summary as data. -/
def datum (s : Summary) : Datum :=
  .record [("ticks", .natural s.ticks), ("walk_ticks", .natural s.walks),
    ("kick_ticks", .natural s.kicks), ("dribble_ticks", .natural s.dribbles),
    ("kicks_completed", .natural s.kicksCompleted),
    ("dribbles_completed", .natural s.dribblesCompleted),
    ("lineup_hint_ticks", .natural s.hints)]

/-- A summary for people to read. -/
def text (s : Summary) : String :=
  "ticks:              " ++ toString s.ticks
    ++ "\nwalk / kick / drib: " ++ toString s.walks ++ " / " ++ toString s.kicks
    ++ " / " ++ toString s.dribbles
    ++ "\nkicks completed:    " ++ toString s.kicksCompleted
    ++ "\ndribbles completed: " ++ toString s.dribblesCompleted
    ++ "\nline-up hint ticks: " ++ toString s.hints

end Summary

end Striker
