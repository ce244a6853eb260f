/-
The counters of a simulation and their widths. Completed attempts are counted by the task, and
performed actions by motion, one frame earlier, so either can be told from the number of frames: an
attempt is completed in the last frame of each cycle, and its action is performed in the last frame
but one. The counters that count frames are 64 bits wide, as the number of frames is, and never run
over. The counter of performed actions has 32 bits, and runs over exactly in simulations of so many
cycles.
-/
import Striker.Proofs.Runner.Accounts
import Striker.Proofs.Simulation.Schedule

namespace Striker

/-! ## One frame -/

namespace Timetable

variable {tt : Timetable} {settings : Settings} {q r : Nat} {w : World}

/-- An attempt is completed in the last frame of a cycle. -/
theorem Holds.step_completed (h : Holds tt settings q r w) (hr : r < tt.period) :
    w.step.1.runner.summary.completed =
      w.runner.summary.completed + if r + 1 = tt.period then 1 else 0 := by
  rw [w.step_runner]
  rcases h.tick_cases hr with
    ⟨hlt, -, -, -, hc⟩ | ⟨hlast, -, -, -, hc⟩ | ⟨-, hnext, -, -, -, hc⟩
  · rw [hc, if_neg (by unfold period; omega), Nat.add_zero]
  · rw [hc, if_pos hlast]
  · rw [hc, if_neg hnext.ne, Nat.add_zero]

/-- A ball action is performed in the frame before that. -/
theorem Holds.step_performed (h : Holds tt settings q r w) (hr : r < tt.period) :
    w.step.1.motion.performed = w.motion.performed + if r + 2 = tt.period then 1 else 0 := by
  have hperiod : tt.period = tt.warmup + tt.lineup + tt.length + 2 := rfl
  rw [w.step_motion, Motion.step_performed]
  congr 1
  -- by the parts of the cycle: only an action that is performed is carried through
  unfold Motion.carries
  rw [h.stage]
  rcases Nat.lt_or_ge (tt.warmup + tt.lineup) r with h2 | h2
  · rcases Nat.lt_or_ge (r + 1) tt.period with h3 | h3
    · rw [stage_length h2 (by omega)]
      by_cases hlast : r + 2 = tt.period
      · rw [if_pos hlast]
        simp only [if_pos (show tt.warmup + tt.lineup + tt.length + 1 - r ≤ 1 by omega)]
        rfl
      · rw [if_neg hlast]
        simp only [if_neg (show ¬ tt.warmup + tt.lineup + tt.length + 1 - r ≤ 1 by omega)]
        rfl
    · rw [stage_last (by omega), if_neg (by omega)]
      rfl
  · have hpos := tt.length_pos
    rw [if_neg (by omega)]
    rcases Nat.lt_or_ge tt.warmup r with h1 | h1
    · rw [stage_lineup h1 h2]
      rfl
    · rw [stage_warmup h1]
      rfl

/-! ## Several frames -/

theorem completed_after (h : Holds tt settings 0 0 w) (h0 : w.runner.summary.completed = 0) (i : Nat) :
    (w.after i).runner.summary.completed = i / tt.period := by
  induction i with
  | zero => rw [Nat.zero_div]; exact h0
  | succ i ih =>
    have hplace : i % tt.period < tt.period := Nat.mod_lt i (Nat.succ_pos _)
    rw [World.after_succ, (holds_after h i).step_completed hplace, ih]
    rcases next_place tt i with ⟨hlt, hq, -⟩ | ⟨hlast, hq, -⟩
    · rw [if_neg hlt.ne, hq, Nat.add_zero]
    · rw [if_pos hlast, hq]

theorem performed_after (h : Holds tt settings 0 0 w) (h0 : w.motion.performed = 0) (i : Nat) :
    (w.after i).motion.performed = (i + 1) / tt.period := by
  have hperiod : tt.period = tt.warmup + tt.lineup + tt.length + 2 := rfl
  induction i with
  | zero => rw [Nat.div_eq_of_lt (by omega)]; exact h0
  | succ i ih =>
    have hplace : i % tt.period < tt.period := Nat.mod_lt i (Nat.succ_pos _)
    rw [World.after_succ, (holds_after h i).step_performed hplace, ih]
    have hlength := tt.length_pos
    have hnext := next_place tt (i + 1)
    rcases next_place tt i with ⟨-, -, hr⟩ | ⟨hlast, -, hr⟩ <;> rw [hr] at hnext
    · rcases hnext with ⟨hlt, hq, -⟩ | ⟨hlast, hq, -⟩
      · rw [if_neg hlt.ne, hq, Nat.add_zero]
      · rw [if_pos hlast, hq]
    · -- the first frame of a cycle is not the last one too
      rcases hnext with ⟨-, hq, -⟩ | ⟨hlast', -, -⟩
      · rw [if_neg (by omega), hq, Nat.add_zero]
      · omega

theorem alternates_after (h : Holds tt settings 0 0 w) (h0 : w.runner.Alternates) (i : Nat) :
    (w.after i).runner.Alternates := by
  induction i with
  | zero => exact h0
  | succ i ih =>
    rw [World.after_succ, World.step_runner]
    exact ih.tick (holds_after h i).sound _

/-- A frame that is left of a line-up or of a ball action is one of its own. -/
theorem left_of_stage {a : Action} {left : Nat} :
    (tt.stage q r = .liningUp a left → 1 ≤ left ∧ left ≤ tt.lineup) ∧
      (tt.stage q r = .performing a left → 1 ≤ left ∧ left ≤ tt.length) := by
  unfold stage
  constructor
  · intro hs
    split at hs
    · cases hs
    split at hs
    · cases hs
      omega
    split at hs <;> cases hs
  · intro hs
    split at hs
    · cases hs
    split at hs
    · cases hs
    split at hs
    · cases hs
      omega
    · cases hs

end Timetable

namespace World

variable {w : World}

theorem step_uptime (w : World) : w.step.1.board.uptime = w.board.uptime + 1 := by
  have hwrite : (w.ball.write w.board).2.uptime = w.board.uptime := by
    simp only [Ball.write]
    split <;> rfl
  rw [← hwrite]
  rfl

theorem after_uptime (w : World) (n : Nat) : (w.after n).board.uptime = w.board.uptime + n := by
  induction n with
  | zero => rfl
  | succ n ih => rw [after_succ, step_uptime, ih, Nat.add_assoc]

theorem counts_after (h0 : ∀ k ∈ w.runner.summary.counts, k ≤ 0) (n : Nat) :
    ∀ k ∈ (w.after n).runner.summary.counts, k ≤ n := by
  induction n with
  | zero => exact h0
  | succ n ih =>
    rw [after_succ, step_runner, ran_summary]
    exact Summary.counts_record_le ih _ _

end World

/-! ## Widths -/

/-- The chance of losing the ball is between zero and one, whatever motion counts down has a frame
left, and the counters of a world fit into their widths, that of performed actions aside. -/
structure World.Fits (w : World) : Prop where
  chance : Binary.atMost 0 w.ball.dropout = true ∧ w.ball.dropout.atMost 1 = true
  lineup : ∀ a left, w.motion.stage = .liningUp a left → 1 ≤ left ∧ left < 2 ^ 32
  performing : ∀ a left, w.motion.stage = .performing a left → 1 ≤ left ∧ left < 2 ^ 32
  walkFrames : w.runner.task.state.walkFrames < 2 ^ 32
  frame : w.runner.frame < 2 ^ 64
  uptime : w.board.uptime < 2 ^ 64
  counts : ∀ k ∈ w.runner.summary.counts, k < 2 ^ 64

namespace Simulation

variable {settings : Settings} {s : Scenario} {sim : Simulation}

theorem fits_after (h : ofScenario settings s = .ok sim) {i : Nat} (hi : i ≤ s.frames.toNat) :
    (sim.world.after i).Fits := by
  have hholds := Timetable.holds_after (Timetable.holds_start h) i
  have hwide : i < 2 ^ 64 := Nat.lt_of_le_of_lt hi s.frames.toNat_lt
  have hlineup : (s.timetable settings).lineup < 2 ^ 32 := s.lineupFrames.toNat_lt
  have hlength : (s.timetable settings).length < 2 ^ 32 :=
    Nat.max_lt.2 ⟨s.actionFrames.toNat_lt, by decide⟩
  obtain ⟨hcheck, -, rfl⟩ := ofScenario_eq_ok.1 h
  refine ⟨?_, fun a left hs => ?_, fun a left hs => ?_, ?_, ?_, ?_, fun k hk => ?_⟩
  · rw [World.after_dropout]
    exact chance_of_check hcheck
  · rw [hholds.stage] at hs
    obtain ⟨hpos, hle⟩ := Timetable.left_of_stage.1 hs
    exact ⟨hpos, Nat.lt_of_le_of_lt hle hlineup⟩
  · rw [hholds.stage] at hs
    obtain ⟨hpos, hle⟩ := Timetable.left_of_stage.2 hs
    exact ⟨hpos, Nat.lt_of_le_of_lt hle hlength⟩
  · rw [hholds.state]
    exact Nat.lt_of_le_of_lt (Nat.min_le_right _ _) settings.walkFrames.toNat_lt
  · rw [hholds.frame, Nat.div_add_mod']
    exact hwide
  · rw [World.after_uptime]
    exact (Nat.zero_add i).symm ▸ hwide
  · refine Nat.lt_of_le_of_lt (World.counts_after ?_ i k hk) hwide
    show ∀ k ∈ Summary.empty.counts, k ≤ 0
    decide

/-- What the counters are before each frame. -/
theorem counts_at (h : ofScenario settings s = .ok sim) (i : Nat) :
    (sim.world.after i).motion.performed = (i + 1) / (s.timetable settings).period ∧
      (sim.world.after i).runner.summary.completed = i / (s.timetable settings).period ∧
      (sim.world.after i).runner.Alternates := by
  have hstart := Timetable.holds_start h
  obtain ⟨-, -, rfl⟩ := ofScenario_eq_ok.1 h
  exact ⟨Timetable.performed_after hstart rfl i, Timetable.completed_after hstart rfl i,
    Timetable.alternates_after hstart (Runner.alternates_activate _) i⟩

/-- Counters of a simulation that can be set up. In every frame the chance of losing the ball is
between zero and one, motion counts down no further than to zero, and the counters that are 64 bits
wide do not run over, nor does that of the warm-up. The counter of performed actions, with its 32
bits, runs over exactly if so many cycles get as far as their last frame but one. If it does not, the
number of frames gives the completed kicks and dribbles and the performed actions, and there is one
action more than completed attempts exactly if the run ends right before the last frame of a cycle. -/
theorem counters_of_frames (h : ofScenario settings s = .ok sim) :
    let frames := s.frames.toNat
    let period := settings.walkFrames.toNat + s.lineupFrames.toNat
      + Nat.max s.actionFrames.toNat 1 + 2
    (∀ i ≤ frames, (sim.world.after i).Fits) ∧
    ((∃ i ≤ frames, 2 ^ 32 ≤ (sim.world.after i).motion.performed) ↔
      2 ^ 32 ≤ (frames + 1) / period) ∧
    ((frames + 1) / period < 2 ^ 32 →
      let completed := sim.run.summary.kicksCompleted + sim.run.summary.dribblesCompleted
      sim.run.summary.kicksCompleted = (frames / period + 1) / 2 ∧
      sim.run.summary.dribblesCompleted = frames / period / 2 ∧
      sim.run.performed = (frames + 1) / period ∧
      completed ≤ sim.run.performed ∧ sim.run.performed ≤ completed + 1 ∧
      (sim.run.performed ≠ completed ↔ period ∣ frames + 1)) := by
  intro frames period
  refine ⟨fun i hi => fits_after h hi, ⟨?_, fun hover => ?_⟩, fun _ => ?_⟩
  · rintro ⟨i, hi, hover⟩
    rw [(counts_at h i).1] at hover
    exact Nat.le_trans hover (Nat.div_le_div_right (Nat.succ_le_succ hi))
  · exact ⟨frames, Nat.le_refl _, by rwa [(counts_at h frames).1]⟩
  · intro completed
    obtain ⟨hsummary, hmotion⟩ := sim.run_counts
    obtain ⟨hperformed, hcompleted, halternates⟩ := counts_at h sim.frames
    have hkicks := halternates.kicks
    have hdribbles := halternates.dribbles
    rw [hcompleted, ← hsummary, frames_of_ofScenario h] at hkicks hdribbles
    rw [← hmotion, frames_of_ofScenario h] at hperformed
    rw [← hsummary, frames_of_ofScenario h] at hcompleted
    have hsum : completed = frames / period := hcompleted
    have hnext : (frames + 1) / period = frames / period + if period ∣ frames + 1 then 1 else 0 :=
      Nat.succ_div ..
    refine ⟨hkicks, hdribbles, hperformed, ?_⟩
    rw [hsum, show sim.run.performed = (frames + 1) / period from hperformed, hnext]
    by_cases hdvd : period ∣ frames + 1
    · simp [hdvd]
    · simp [hdvd]

/-- A standard scenario of 36 frames ends right before the last frame of its first cycle. -/
theorem counters_of_standard_scenario :
    ∃ sim, ofScenario .quick { Scenario.standard with frames := 36 } = .ok sim ∧
      sim.run.summary.kicksCompleted = 0 ∧ sim.run.performed = 1 ∧
      ∀ i ≤ 36, (sim.world.after i).motion.performed < 2 ^ 32 := by
  have h : ofScenario .quick { Scenario.standard with frames := 36 } = .ok _ :=
    ofScenario_eq_ok.2 ⟨by decide +kernel, by decide +kernel, rfl⟩
  obtain ⟨-, hover, hcounts⟩ := counters_of_frames h
  obtain ⟨hkicks, -, hperformed, -⟩ := hcounts (by decide)
  refine ⟨_, h, hkicks, hperformed, fun i hi => Nat.lt_of_not_le fun hle => ?_⟩
  exact absurd (hover.1 ⟨i, hi, hle⟩) (by decide)

end Simulation

end Striker
