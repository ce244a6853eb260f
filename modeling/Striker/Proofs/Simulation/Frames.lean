/-
Frames of the closed loop, one after another. Vision changes nothing on the board but the sighting,
so the task ticks against what motion reported in the frame before, and motion reads what the task
has just published. The log of a simulation has one entry for each of its frames.
-/
import Striker.Proofs.Motion.Stages
import Striker.Proofs.Runner.Activation
import Striker.Simulation

namespace Striker

/-! ## The ball -/

namespace Ball

/-- Vision leaves the report of motion alone. -/
theorem write_active (b : Ball) (board : Board) : (b.write board).2.active = board.active := by
  simp only [write]
  split <;> rfl

theorem write_ball (b : Ball) (board : Board) :
    (b.write board).1 = { b with stream := (b.stream.chance b.dropout).2 } := rfl

theorem advance_keeps_dropout (b : Ball) (a : Action) : (b.advance a).dropout = b.dropout := rfl

end Ball

namespace World

/-! ## One frame -/

/-- What the task reads in the next frame. -/
def context (w : World) : Context := w.runner.context (w.ball.write w.board).2

/-- The tick of the next frame. -/
def ran (w : World) : Ran Task Status := w.runner.tick (w.ball.write w.board).2

section

variable (w : World)

theorem step_runner : w.step.1.runner = w.ran.runner := rfl

theorem step_motion : w.step.1.motion = w.motion.step w.ran.board.request.body.action := rfl

theorem step_active : w.step.1.board.active = w.step.1.motion.report := rfl

theorem step_entry : w.step.2.entry = w.ran.entry := rfl

theorem step_ball :
    w.step.1.ball = (w.ball.write w.board).1.advance w.step.1.motion.report := rfl

theorem step_dropout : w.step.1.ball.dropout = w.ball.dropout := by
  rw [step_ball, Ball.advance_keeps_dropout, Ball.write_ball]

theorem context_active : w.context.active = w.board.active := w.ball.write_active w.board

theorem ran_request : w.ran.board.request = (w.runner.task.tick w.context).request :=
  Runner.tick_request ..

theorem ran_task : w.ran.runner.task = (w.runner.task.tick w.context).task := rfl

theorem ran_frame : w.ran.runner.frame = w.runner.frame + 1 := rfl

theorem ran_summary : w.ran.runner.summary =
    w.runner.summary.record w.runner.last w.ran.board.request := Runner.tick_summary ..

/-- The entry of a frame shows what motion reported before it, the request it publishes, and the
task that it leaves behind. -/
theorem ran_entry : w.ran.entry = ⟨w.runner.frame, w.board.active, w.ran.board.request,
    ⟨w.ran.runner.task.phase, w.ran.runner.task.state⟩⟩ := by
  rw [← w.ball.write_active w.board]
  simp only [ran, Runner.tick_request]
  rfl

/-- The light that a frame asks for shows the phase that it leaves behind. -/
theorem ran_indicator : w.ran.board.request.indicator
    = some ⟨w.runner.task.settings.lamp, w.ran.runner.task.phase.colour⟩ := by
  simp only [ran, Runner.tick_request]
  rfl

end

/-! ## Several frames -/

/-- The world after so many frames. -/
def after (w : World) (n : Nat) : World := (fun w => w.step.1)^[n] w

@[simp] theorem after_zero (w : World) : w.after 0 = w := rfl

theorem after_succ (w : World) (n : Nat) : w.after (n + 1) = (w.after n).step.1 :=
  Function.iterate_succ_apply' ..

/-- No frame changes the chance of losing the ball. -/
theorem after_dropout (w : World) (n : Nat) : (w.after n).ball.dropout = w.ball.dropout := by
  induction n with
  | zero => rfl
  | succ n ih => rw [after_succ, step_dropout, ih]

theorem run_eq (n : Nat) (w : World) (before : List Frame) :
    run n w before = (w.after n, before.reverse ++ (List.range n).map fun i => (w.after i).step.2) := by
  induction n generalizing w before with
  | zero => simp [run]
  | succ n ih =>
    have hafter : ∀ i, w.step.1.after i = w.after (i + 1) := fun _ => rfl
    show run n w.step.1 (w.step.2 :: before) = _
    rw [ih, List.range_succ_eq_map]
    simp [hafter, Function.comp_def]

/-- Counting the entries of frames afterwards gives what the runner has counted in them. -/
theorem summarize_entries (w : World) (n : Nat) :
    Log.summarize ((List.range n).map fun i => (w.after i).step.2.entry) w.runner.last
      w.runner.summary = (w.after n).runner.summary := by
  induction n generalizing w with
  | zero => rfl
  | succ n ih =>
    have hlast : w.step.1.runner.last = some w.step.2.entry.request.body.action := rfl
    have hsummary : w.step.1.runner.summary =
        w.runner.summary.record w.runner.last w.step.2.entry.request := rfl
    have hafter : ∀ i, w.step.1.after i = w.after (i + 1) := fun _ => rfl
    have hrest := ih w.step.1
    simp only [hlast, hsummary, hafter] at hrest
    simp only [List.range_succ_eq_map, List.map_cons, List.map_map, Function.comp_def,
      Nat.succ_eq_add_one, Log.summarize, after_zero]
    exact hrest

end World

/-! ## Simulations -/

namespace Simulation

/-- A scenario that can be simulated has a chance between zero and one. -/
theorem chance_of_check {s : Scenario} (h : s.check = .ok ()) :
    Binary.atMost 0 s.dropout = true ∧ s.dropout.atMost 1 = true := by
  unfold Scenario.check at h
  split at h
  · cases h
  · rename_i hrange
    simpa using hrange

/-- A simulation is set up exactly if the scenario and the settings are valid. -/
theorem ofScenario_eq_ok {settings : Settings} {s : Scenario} {sim : Simulation} :
    ofScenario settings s = .ok sim ↔ s.check = .ok () ∧ settings.check = .ok () ∧
      sim = ⟨⟨.empty, .activate ⟨settings, .initial, .warmup, none⟩,
        .start s.lineupFrames.toNat s.actionFrames.toNat, .start s.seed s.distance s.dropout⟩,
        s.frames.toNat⟩ := by
  unfold ofScenario
  rcases hs : s.check with e | u
  · simp [bind, Except.bind]
  · rcases ht : Task.ofSettings settings with e | t
    · have hn : settings.check ≠ .ok () := by
        intro h
        rw [Task.ofSettings_eq_ok.2 ⟨h, rfl⟩] at ht
        cases ht
      simp [bind, Except.bind, hn]
    · obtain ⟨h, rfl⟩ := Task.ofSettings_eq_ok.1 ht
      simp only [bind, Except.bind, pure, Except.pure, Except.ok.injEq, h, true_and]
      exact eq_comm

theorem frames_of_ofScenario {settings : Settings} {s : Scenario} {sim : Simulation}
    (h : ofScenario settings s = .ok sim) : sim.frames = s.frames.toNat := by
  obtain ⟨-, -, rfl⟩ := ofScenario_eq_ok.1 h
  rfl

/-- The counts of a run are those of the world after its frames. -/
theorem run_counts (s : Simulation) :
    s.run.summary = (s.world.after s.frames).runner.summary ∧
      s.run.performed = (s.world.after s.frames).motion.performed := by
  simp only [run, World.run_eq, and_self]

/-- The log of a simulation has the entries of its frames, in order. -/
theorem run_entries (s : Simulation) :
    s.run.log.entries = (List.range s.frames).map fun i => (s.world.after i).step.2.entry := by
  simp only [run, World.run_eq, List.reverse_nil, List.nil_append, List.map_map]
  rfl

/-- The summary of the log is the one that the runner has kept. -/
theorem log_summary {settings : Settings} {s : Scenario} {sim : Simulation}
    (h : ofScenario settings s = .ok sim) : sim.run.log.summary = sim.run.summary := by
  rw [Log.summary, run_entries, (run_counts sim).1]
  obtain ⟨-, -, rfl⟩ := ofScenario_eq_ok.1 h
  exact World.summarize_entries _ _

theorem entry_getElem? (s : Simulation) {i : Nat} (hi : i < s.frames) :
    s.run.log.entries[i]? = some (s.world.after i).step.2.entry := by
  rw [run_entries, List.getElem?_map, List.getElem?_range hi]
  rfl

end Simulation

end Striker
