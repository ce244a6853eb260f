/-
Sessions: a board, scripted motion, and one activation of the task after another. The moves of a
session come in any order and at any rate: the runner ticks, motion updates, perception writes, and
the runner is replaced by a newly activated one. `Linked` is what holds after every move.
-/
import Striker.Proofs.Motion.Stages
import Striker.Proofs.Runner.Activation

namespace Striker

/-- Everything that takes part in a session, and two records of its past. -/
structure Session where
  board : Board
  motion : Motion
  runner : Runner Task
  /-- The attempts that were completed in earlier activations. -/
  earlier : Nat
  /-- The ball actions that motion has carried through, in order. -/
  carried : List Action

/-- A move of a session. -/
inductive Move where
  | tick
  | update
  | perceive (sighting : Sighting)
  | activate (settings : Settings.Valid)
  deriving DecidableEq

/-- Whether a move replaces the runner. -/
def Move.replaces : Move → Bool
  | activate _ => true
  | _ => false

namespace Session

/-- A fresh session: an empty board, motion that walks, and a first activation. -/
def start (settings : Settings.Valid) (lineup length : Nat) : Session :=
  ⟨.empty, .start lineup length, .activate (.ofValid settings), 0, []⟩

/-- The attempts that were completed in all activations so far. -/
def completed (s : Session) : Nat := s.earlier + s.runner.summary.completed

/-- The session after a move. -/
def step (s : Session) : Move → Session
  | .tick =>
    let ran := s.runner.tick s.board
    { s with board := ran.board, runner := ran.runner }
  | .update =>
    let (motion, board) := s.motion.update s.board
    { s with board, motion, carried := s.carried ++ s.motion.carries }
  | .perceive sighting => { s with board := { s.board with sighting } }
  | .activate settings =>
    { s with runner := .activate (.ofValid settings), earlier := s.completed }

/-- The session after a sequence of moves. -/
def run (s : Session) (moves : List Move) : Session := moves.foldl step s

/-- What holds before a session and is kept by each of its moves holds after them. -/
theorem run_invariant {P : Session → Prop} {moves : List Move}
    (hstep : ∀ s, ∀ m ∈ moves, P s → P (s.step m)) {s : Session} (h : P s) : P (s.run moves) := by
  induction moves generalizing s with
  | nil => exact h
  | cons m moves ih =>
    exact ih (fun s m' hm => hstep s m' (List.mem_cons_of_mem _ hm))
      (hstep s m (List.mem_cons_self ..) h)

theorem run_append (s : Session) (p q : List Move) : s.run (p ++ q) = (s.run p).run q :=
  List.foldl_append

theorem run_concat (s : Session) (l : List Move) (m : Move) : s.run (l ++ [m]) = (s.run l).step m :=
  run_append s l [m]

/-- Moves do not change how long motion lines up and performs. -/
theorem run_motion (s : Session) (l : List Move) :
    (s.run l).motion.lineup = s.motion.lineup ∧ (s.run l).motion.length = s.motion.length := by
  refine run_invariant (P := fun s' => s'.motion.lineup = s.motion.lineup ∧
    s'.motion.length = s.motion.length) (fun s' m _ h => ?_) ⟨rfl, rfl⟩
  cases m <;> exact h

/-! ## The parts of a session after a move -/

section

variable (s : Session)

theorem step_tick : s.step .tick = { s with
    board := (s.runner.tick s.board).board, runner := (s.runner.tick s.board).runner } := rfl

theorem step_update : s.step .update = { s with
    board := (s.motion.update s.board).2
    motion := s.motion.step s.board.request.body.action
    carried := s.carried ++ s.motion.carries } := rfl

theorem completed_update : (s.step .update).completed = s.completed := rfl

theorem performed_update :
    (s.step .update).motion.performed = s.motion.performed + s.motion.carries.length :=
  s.motion.step_performed _

end

/-! ## What holds after every move -/

/-- The parts of a session are sound, and the board shows what motion reports, or nothing yet. -/
structure Linked (s : Session) : Prop where
  runner : s.runner.Sound
  motion : s.motion.Sound
  report : s.board.active = s.motion.report ∨ s.board.active = .none ∧ s.motion.stage = .walking

theorem linked_start (settings : Settings.Valid) (lineup length : Nat) :
    (start settings lineup length).Linked :=
  ⟨Runner.sound_activate _, Motion.sound_start lineup length, .inr ⟨rfl, rfl⟩⟩

theorem Linked.step {s : Session} (h : s.Linked) (m : Move) : (s.step m).Linked := by
  cases m with
  | tick => exact ⟨h.runner.tick s.board, h.motion, h.report⟩
  | update => exact ⟨h.runner, h.motion.step _, .inl rfl⟩
  | perceive g => exact ⟨h.runner, h.motion, h.report⟩
  | activate settings => exact ⟨Runner.sound_activate _, h.motion, h.report⟩

theorem Linked.run {s : Session} (h : s.Linked) (moves : List Move) : (s.run moves).Linked :=
  run_invariant (P := Linked) (fun _ m _ hs => hs.step m) h

/-- The board shows a target only while motion performs it. -/
theorem Linked.performing {s : Session} (h : s.Linked) {t : Target} (ha : s.board.active = t.action) :
    ∃ left, s.motion.stage = .performing t.action left := by
  rcases h.report with hr | ⟨hn, -⟩
  · exact Motion.report_eq_target (hr.symm.trans ha)
  · rw [ha] at hn; exact absurd hn t.action_ne_none

/-- While motion performs a ball action, the board does not show that one has ended. -/
theorem Linked.not_ended {s : Session} (h : s.Linked) {a : Action} {left : Nat}
    (hs : s.motion.stage = .performing a left) :
    s.board.active = a ∧ s.board.active.endsBallAction = false := by
  rcases h.report with hr | ⟨-, hw⟩
  · obtain ⟨h1, h2⟩ := h.motion.report_performing hs
    rw [hr, h1]; exact ⟨rfl, h2⟩
  · rw [hw] at hs; cases hs

end Session

end Striker
