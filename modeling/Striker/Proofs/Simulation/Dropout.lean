/-
Loss of vision in the closed loop. What vision sees changes neither the course of the task nor that
of motion, so runs of one scenario with different chances of losing the ball go side by side: the
task asks for the same actions, motion reports the same, and the ball is moved by the same draws. In
every frame the run with the higher chance sees what the other sees, or nothing. A chance of one
draws nothing, and then the ball is never seen, wherever it is.
-/
import Striker.Proofs.Number.Order
import Striker.Proofs.Simulation.Frames
import Striker.Proofs.Task.Interference

namespace Striker

/-! ## Chances -/

/-- Two chances, the second of which is no lower. -/
structure Chances (p q : Double) : Prop where
  zero : Binary.atMost 0 p = true
  le : p.atMost q = true
  one : q.atMost 1 = true

/-- Below one the higher of two chances says yes whenever the lower one does, and both draw the same
number. -/
theorem Random.Stream.chance_mono {p q : Double} (h : Chances p q) (hne : q ≠ 1)
    (s : Random.Stream) :
    (s.chance q).2 = (s.chance p).2 ∧ ((s.chance p).1 = true → (s.chance q).1 = true) := by
  have hne' : p ≠ 1 := by
    rintro rfl
    exact hne (Binary.eq_one_of_atMost h.le h.one)
  unfold chance
  rw [if_neg hne, if_neg hne']
  refine ⟨rfl, fun hlost => ?_⟩
  have hunits : p.units ≤ q.units := Binary.units_le_of_atMost h.zero h.le
  simp only [decide_eq_true_eq] at hlost ⊢
  exact Nat.lt_of_lt_of_le hlost (Nat.div_le_div_right (Nat.mul_le_mul_right _ hunits))

/-! ## The ball -/

namespace Ball

/-- What vision sees of the ball in the next frame. -/
def shown (b : Ball) : Sighting :=
  if (b.stream.chance b.dropout).1 then .lost else .ofPosition b.position

theorem write_sighting (b : Ball) (board : Board) : (b.write board).2.sighting = b.shown := by
  simp only [write, shown]
  split <;> rfl

/-- The chance of losing the ball does not move it. -/
theorem advance_dropout (b : Ball) (q : Double) (a : Action) :
    { b with dropout := q }.advance a = { b.advance a with dropout := q } := rfl

theorem shown_of_one {b : Ball} (h : b.dropout = 1) : b.shown = .lost := by
  unfold shown Random.Stream.chance
  rw [if_pos h]
  rfl

end Ball

namespace World

variable {w v : World}

/-! ## Worlds that differ in the ball -/

/-- Two worlds that differ at most in the ball, in what vision has seen of it, and in what was made of
that. -/
structure Alike (w v : World) : Prop where
  settings : w.runner.task.settings = v.runner.task.settings
  task : w.runner.task.Alike v.runner.task
  frame : w.runner.frame = v.runner.frame
  motion : w.motion = v.motion
  active : w.board.active = v.board.active

theorem context_sighting (w : World) : w.context.sighting = w.ball.shown :=
  w.ball.write_sighting w.board

theorem Alike.agree (h : w.Alike v) : w.context.Agree v.context := by
  refine ⟨h.frame, ?_⟩
  rw [context_active, context_active, h.active]

/-- Worlds that are alike stay alike, whatever vision sees in them. -/
theorem Alike.step (h : w.Alike v) : w.step.1.Alike v.step.1 := by
  -- motion reads nothing but the action that is asked for
  have hmotion : w.step.1.motion = v.step.1.motion := by
    have haction := (h.task.decide h.agree).2.1
    rw [w.step_motion, v.step_motion, ran_request, ran_request, h.motion]
    exact congrArg v.motion.step haction
  refine ⟨h.settings, h.task.tick h.agree, ?_, hmotion, ?_⟩
  · rw [w.step_runner, v.step_runner, w.ran_frame, v.ran_frame, h.frame]
  · rw [w.step_active, v.step_active, hmotion]

theorem Alike.after (h : w.Alike v) (n : Nat) : (w.after n).Alike (v.after n) := by
  induction n with
  | zero => exact h
  | succ n ih =>
    rw [after_succ, after_succ]
    exact ih.step

/-- Where vision sees the same, the frames of worlds that are alike are the same. -/
theorem Alike.entry (h : w.Alike v) (hs : w.ball.shown = v.ball.shown) :
    w.step.2.entry = v.step.2.entry := by
  have hrequest := (h.task.quiet h.agree h.settings (by rw [context_sighting, context_sighting, hs])).1
  have hstatus := (h.task.tick h.agree).status
  rw [w.step_entry, v.step_entry, w.ran_entry, v.ran_entry, ran_request, ran_request, hrequest,
    h.frame, h.active]
  exact congrArg (Entry.mk _ _ _) hstatus

theorem entry_turn (w : World) : w.step.2.entry.request.body.turn = w.ball.shown.turn := by
  rw [← w.context_sighting, ← w.runner.task.decide_turn, w.step_entry, w.ran_entry, ran_request]
  rfl

theorem entry_hint (w : World) : w.step.2.entry.request.hint
    = w.ball.shown.isNear w.runner.task.settings.threshold := by
  rw [← w.context_sighting, w.step_entry, w.ran_entry, ran_request]
  rfl

/-- Without the ball there is neither a turn nor a hint. -/
theorem entry_of_lost (h : w.ball.shown = .lost) :
    w.step.2.entry.request.hint = false ∧ w.step.2.entry.request.body.turn = 0 := by
  rw [entry_hint, entry_turn, h]
  exact ⟨rfl, rfl⟩

/-- A world that sees the same as another, or nothing, hints only where the other does, and turns as
the other does or goes straight on. -/
theorem Alike.entry_of_shown (h : w.Alike v)
    (hs : v.ball.shown = .lost ∨ v.ball.shown = w.ball.shown) :
    (v.step.2.entry.request.hint = true → w.step.2.entry.request.hint = true) ∧
      (v.step.2.entry.request.body.turn = w.step.2.entry.request.body.turn ∨
        v.step.2.entry.request.body.turn = 0) := by
  rcases hs with hlost | hsame
  · obtain ⟨hhint, hturn⟩ := entry_of_lost hlost
    exact ⟨fun hv => absurd (hhint.symm.trans hv) Bool.false_ne_true, .inr hturn⟩
  · rw [h.entry hsame.symm]
    exact ⟨id, .inl rfl⟩

/-! ## Worlds that differ in the chance -/

/-- Two worlds that are alike, with the same ball, which the first loses with the chance `p`, and the
second with the chance `q`. -/
structure Coupled (p q : Double) (w v : World) : Prop where
  alike : w.Alike v
  chance : w.ball.dropout = p
  ball : v.ball = { w.ball with dropout := q }

section

variable {p q : Double}

/-- With a higher chance vision loses the ball or sees it in the same place. -/
theorem Coupled.shown (h : Coupled p q w v) (hc : Chances p q) (hne : q ≠ 1) :
    v.ball.shown = .lost ∨ v.ball.shown = w.ball.shown := by
  obtain ⟨-, himp⟩ := Random.Stream.chance_mono hc hne w.ball.stream
  rw [h.ball]
  unfold Ball.shown
  rw [h.chance]
  dsimp only
  cases hlost : (w.ball.stream.chance p).1 with
  | true =>
    rw [if_pos (himp hlost)]
    exact .inl rfl
  | false =>
    split
    · exact .inl rfl
    · exact .inr rfl

theorem Coupled.step (h : Coupled p q w v) (hc : Chances p q) (hne : q ≠ 1) :
    Coupled p q w.step.1 v.step.1 := by
  obtain ⟨hstream, -⟩ := Random.Stream.chance_mono hc hne w.ball.stream
  refine ⟨h.alike.step, by rw [step_dropout, h.chance], ?_⟩
  -- both worlds draw one number to look, so the ball is moved by the same draws
  have hwritten : (v.ball.write v.board).1 = { (w.ball.write w.board).1 with dropout := q } := by
    rw [Ball.write_ball, Ball.write_ball, h.ball, h.chance]
    dsimp only
    rw [hstream]
  rw [w.step_ball, v.step_ball, hwritten, Ball.advance_dropout, h.alike.step.motion]

theorem Coupled.after (h : Coupled p q w v) (hc : Chances p q) (hne : q ≠ 1) (n : Nat) :
    Coupled p q (w.after n) (v.after n) := by
  induction n with
  | zero => exact h
  | succ n ih =>
    rw [after_succ, after_succ]
    exact ih.step hc hne

/-- Where the second chance is the higher one, the second world sees in every frame what the first
one sees, or nothing. -/
theorem Coupled.shown_after (h : Coupled p q w v) (hc : Chances p q) (n : Nat) :
    (v.after n).ball.shown = .lost ∨ (v.after n).ball.shown = (w.after n).ball.shown := by
  by_cases hone : q = 1
  · -- looking draws nothing now, so the balls part, but the second is not seen anyway
    refine .inl (Ball.shown_of_one ?_)
    rw [after_dropout, h.ball]
    exact hone
  · exact (h.after hc hone n).shown hc hone

end

/-! ## Hints -/

theorem step_hints (w : World) : w.step.1.runner.summary.hints =
    w.runner.summary.hints + Summary.count w.step.2.entry.request.hint := by
  rw [w.step_runner, w.ran_summary, w.step_entry, w.ran_entry]
  rfl

/-- A summary counts the frames with a hint. -/
theorem after_hints (w : World) (n : Nat) : (w.after n).runner.summary.hints =
    w.runner.summary.hints +
      (List.range n).countP fun i => (w.after i).step.2.entry.request.hint := by
  induction n with
  | zero => rfl
  | succ n ih =>
    rw [List.range_succ, List.countP_append, ← Nat.add_assoc, ← ih, after_succ, step_hints,
      List.countP_singleton]
    rfl

end World

/-! ## Simulations -/

namespace Simulation

variable {settings : Settings} {s s' : Scenario} {sim sim' : Simulation}

/-- Simulations in which motion takes equally long start alike. -/
theorem alike_start (h : ofScenario settings s = .ok sim) (h' : ofScenario settings s' = .ok sim')
    (hlineup : s.lineupFrames = s'.lineupFrames) (haction : s.actionFrames = s'.actionFrames) :
    sim.world.Alike sim'.world := by
  obtain ⟨-, -, rfl⟩ := ofScenario_eq_ok.1 h
  obtain ⟨-, -, rfl⟩ := ofScenario_eq_ok.1 h'
  refine ⟨rfl, Task.alike_init rfl, rfl, ?_, rfl⟩
  show Motion.start _ _ = Motion.start _ _
  rw [hlineup, haction]

/-- With a chance of one the ball is never seen. -/
theorem shown_of_one (h : ofScenario settings s = .ok sim) (hone : s.dropout = 1) (i : Nat) :
    (sim.world.after i).ball.shown = .lost := by
  obtain ⟨-, -, rfl⟩ := ofScenario_eq_ok.1 h
  refine Ball.shown_of_one ?_
  rw [World.after_dropout]
  exact hone

/-- With the higher chance the ball is seen as with the lower one, or not at all. -/
theorem shown_after {p q : Double} (hpq : p.atMost q = true)
    (h : ofScenario settings { s with dropout := p } = .ok sim)
    (h' : ofScenario settings { s with dropout := q } = .ok sim') (i : Nat) :
    (sim'.world.after i).ball.shown = .lost ∨
      (sim'.world.after i).ball.shown = (sim.world.after i).ball.shown := by
  have halike : sim.world.Alike sim'.world := alike_start h h' rfl rfl
  obtain ⟨hcheck, -, rfl⟩ := ofScenario_eq_ok.1 h
  obtain ⟨hcheck', -, rfl⟩ := ofScenario_eq_ok.1 h'
  exact World.Coupled.shown_after ⟨halike, rfl, rfl⟩
    ⟨(chance_of_check hcheck).1, hpq, (chance_of_check hcheck').2⟩ i

theorem run_hints (h : ofScenario settings s = .ok sim) : sim.run.summary.hints =
    (List.range s.frames.toNat).countP fun i => (sim.world.after i).step.2.entry.request.hint := by
  rw [sim.run_counts.1, frames_of_ofScenario h, World.after_hints]
  obtain ⟨-, -, rfl⟩ := ofScenario_eq_ok.1 h
  exact Nat.zero_add _

/-- A higher chance of losing the ball takes hints and turns away and never adds one: a frame with a
hint has one under the lower chance too, and it turns as under the lower chance or goes straight on.
With a chance of one there are no hints and no turns, and the log does not depend on the seed or on
where the ball is. -/
theorem dropout_monotone (settings : Settings) (s : Scenario) :
    (∀ (p q : Double) (sim sim' : Simulation), p.atMost q = true →
      ofScenario settings { s with dropout := p } = .ok sim →
      ofScenario settings { s with dropout := q } = .ok sim' →
      (∀ i < s.frames.toNat, ∃ e e', sim.run.log.entries[i]? = some e ∧
        sim'.run.log.entries[i]? = some e' ∧ (e'.request.hint = true → e.request.hint = true) ∧
        (e'.request.body.turn = e.request.body.turn ∨ e'.request.body.turn = 0)) ∧
      sim'.run.summary.hints ≤ sim.run.summary.hints) ∧
    (∀ (seed seed' : UInt64) (distance distance' : Single) (sim sim' : Simulation),
      ofScenario settings { s with dropout := 1, seed := seed, distance := distance } = .ok sim →
      ofScenario settings { s with dropout := 1, seed := seed', distance := distance' } = .ok sim' →
      (∀ e ∈ sim.run.log.entries, e.request.hint = false ∧ e.request.body.turn = 0) ∧
      sim.run.log.text Status.datum = sim'.run.log.text Status.datum) := by
  constructor
  · intro p q sim sim' hpq h h'
    have halike : sim.world.Alike sim'.world := alike_start h h' rfl rfl
    have hframes : sim.frames = s.frames.toNat := by rw [frames_of_ofScenario h]
    have hframes' : sim'.frames = s.frames.toNat := by rw [frames_of_ofScenario h']
    have hentry := fun i => (halike.after i).entry_of_shown (shown_after hpq h h' i)
    refine ⟨fun i hi => ⟨_, _, sim.entry_getElem? (hframes ▸ hi), sim'.entry_getElem? (hframes' ▸ hi),
      hentry i⟩, ?_⟩
    rw [run_hints h, run_hints h']
    exact List.countP_mono_left fun i _ => (hentry i).1
  · intro seed seed' distance distance' sim sim' h h'
    have halike : sim.world.Alike sim'.world := alike_start h h' rfl rfl
    have hlost := fun i => shown_of_one h rfl i
    have hlost' := fun i => shown_of_one h' rfl i
    constructor
    · intro e he
      rw [run_entries] at he
      obtain ⟨i, -, rfl⟩ := List.mem_map.1 he
      exact World.entry_of_lost (hlost i)
    · have hsame : ∀ i, (sim.world.after i).step.2.entry = (sim'.world.after i).step.2.entry :=
        fun i => (halike.after i).entry ((hlost i).trans (hlost' i).symm)
      have hframes : sim.frames = sim'.frames :=
        (frames_of_ofScenario h).trans (frames_of_ofScenario h').symm
      unfold Log.text
      simp only [run_entries, hsame, hframes]

/-- The standard scenario with chances of a twentieth and of one half, and without a view of the ball
with two seeds and two distances. -/
theorem dropout_of_standard_scenario :
    (∃ sim sim', ofScenario .quick { Scenario.standard with dropout := 0.05 } = .ok sim ∧
      ofScenario .quick { Scenario.standard with dropout := 0.5 } = .ok sim' ∧
      sim'.run.summary.hints ≤ sim.run.summary.hints) ∧
    ∃ sim sim',
      ofScenario .quick { Scenario.standard with dropout := 1, seed := 1, distance := 600 } = .ok sim ∧
      ofScenario .quick { Scenario.standard with dropout := 1, seed := 2, distance := 90 } = .ok sim' ∧
      sim.run.log.text Status.datum = sim'.run.log.text Status.datum := by
  have hok : ∀ s : Scenario, s.check = .ok () → ∃ sim, ofScenario .quick s = .ok sim := fun s hs =>
    ⟨_, ofScenario_eq_ok.2 ⟨hs, by decide +kernel, rfl⟩⟩
  obtain ⟨hcoupled, hblind⟩ := dropout_monotone .quick .standard
  constructor
  · obtain ⟨sim, h⟩ := hok { Scenario.standard with dropout := 0.05 } (by decide +kernel)
    obtain ⟨sim', h'⟩ := hok { Scenario.standard with dropout := 0.5 } (by decide +kernel)
    exact ⟨sim, sim', h, h', (hcoupled _ _ sim sim' (by decide +kernel) h h').2⟩
  · obtain ⟨sim, h⟩ := hok { Scenario.standard with dropout := 1, seed := 1, distance := 600 }
      (by decide +kernel)
    obtain ⟨sim', h'⟩ := hok { Scenario.standard with dropout := 1, seed := 2, distance := 90 }
      (by decide +kernel)
    exact ⟨sim, sim', h, h', (hblind _ _ _ _ sim sim' h h').2⟩

end Simulation

end Striker
