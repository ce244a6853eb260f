/-
The schedule of the closed loop. Undisturbed, the task and motion repeat one cycle for ever: the
frames of the warm-up, a frame in which motion still walks while the target is asked for, the frames
of the line-up, those of the ball action, and one in which motion has finished and the task walks
again. So the entry of a frame can be told from its number: the cycle it is in gives the target,
and its place in the cycle the rest.
-/
import Striker.Proofs.Simulation.Frames

namespace Striker

/-- The lengths of the parts of a cycle. -/
structure Timetable where
  /-- The frames of a warm-up. -/
  warmup : Nat
  /-- The frames of a line-up. -/
  lineup : Nat
  /-- The frames of a ball action. -/
  length : Nat
  length_pos : 1 ≤ length

namespace Timetable

/-- The frames of a cycle. -/
def period (tt : Timetable) : Nat := tt.warmup + tt.lineup + tt.length + 2

/-- The stage of motion before the frame at place `r` of cycle `q`. -/
def stage (tt : Timetable) (q r : Nat) : Stage :=
  if r ≤ tt.warmup then .walking
  else if r ≤ tt.warmup + tt.lineup then
    .liningUp (Target.nth q).action (tt.warmup + tt.lineup + 1 - r)
  else if r ≤ tt.warmup + tt.lineup + tt.length then
    .performing (Target.nth q).action (tt.warmup + tt.lineup + tt.length + 1 - r)
  else .finished

/-- The state of the task before that frame. -/
def state (tt : Timetable) (q r : Nat) : State :=
  ⟨min r tt.warmup, .nth q, if tt.warmup + tt.lineup + 1 < r then .triggered else .notTriggered⟩

/-- The state of the task after that frame. The last frame of a cycle leads to the next cycle. -/
def stateAfter (tt : Timetable) (q r : Nat) : State :=
  if r + 1 = tt.period then tt.state (q + 1) 0 else tt.state q (r + 1)

/-- What motion has reported before that frame; nothing before the first. -/
def seen (tt : Timetable) (q r : Nat) : Action :=
  if q = 0 ∧ r = 0 then .none
  else if r ≤ tt.warmup ∨ r + 1 = tt.period then .walk
  else if r ≤ tt.warmup + tt.lineup then .lineUp
  else (Target.nth q).action

/-- The action that is asked for in that frame. -/
def asked (tt : Timetable) (q r : Nat) : Action :=
  if r < tt.warmup ∨ r + 1 = tt.period then .walk else (Target.nth q).action

/-- The phase of that frame. -/
def phase (tt : Timetable) (q r : Nat) : Phase :=
  if r < tt.warmup ∨ r + 1 = tt.period then .warmup else (Target.nth q).phase

variable {tt : Timetable} {q r : Nat}

theorem stage_warmup (h : r ≤ tt.warmup) : tt.stage q r = .walking := if_pos h

theorem stage_lineup (h : tt.warmup < r) (h' : r ≤ tt.warmup + tt.lineup) :
    tt.stage q r = .liningUp (Target.nth q).action (tt.warmup + tt.lineup + 1 - r) := by
  unfold stage
  rw [if_neg (by omega), if_pos h']

theorem stage_length (h : tt.warmup + tt.lineup < r)
    (h' : r ≤ tt.warmup + tt.lineup + tt.length) :
    tt.stage q r = .performing (Target.nth q).action (tt.warmup + tt.lineup + tt.length + 1 - r) := by
  unfold stage
  rw [if_neg (by omega), if_neg (by omega), if_pos h']

theorem stage_last (h : r + 1 = tt.period) : tt.stage q r = .finished := by
  unfold period at h
  unfold stage
  rw [if_neg (by omega), if_neg (by omega), if_neg (by omega)]

theorem asked_walk (h : r < tt.warmup ∨ r + 1 = tt.period) : tt.asked q r = .walk := if_pos h

theorem asked_target (h : tt.warmup ≤ r) (h' : r + 1 < tt.period) :
    tt.asked q r = (Target.nth q).action := if_neg (by omega)

/-! ### The state after a frame -/

theorem stateAfter_walkFrames : (tt.stateAfter q r).walkFrames =
    if r < tt.warmup then r + 1 else if r + 1 = tt.period then 0 else tt.warmup := by
  unfold stateAfter
  by_cases hlast : r + 1 = tt.period
  · have hge : ¬ r < tt.warmup := by unfold period at hlast; omega
    rw [if_pos hlast, if_neg hge, if_pos hlast]
    exact Nat.zero_min _
  · rw [if_neg hlast, if_neg hlast]
    show min (r + 1) tt.warmup = _
    split <;> omega

theorem stateAfter_target : (tt.stateAfter q r).target =
    if r + 1 = tt.period then (Target.nth q).other else .nth q := by
  unfold stateAfter
  split
  · exact Target.nth_succ q
  · rfl

theorem stateAfter_handshake (hr : r < tt.period) : (tt.stateAfter q r).handshake =
    if tt.warmup + tt.lineup < r ∧ r ≤ tt.warmup + tt.lineup + tt.length then .triggered
      else .notTriggered := by
  unfold stateAfter
  have hperiod : tt.period = tt.warmup + tt.lineup + tt.length + 2 := rfl
  by_cases hlast : r + 1 = tt.period
  · rw [if_pos hlast, if_neg (by omega)]
    rfl
  · rw [if_neg hlast]
    refine if_congr ?_ rfl rfl
    omega

theorem colour_phase (tt : Timetable) (q r : Nat) : (tt.phase q r).colour =
    if r < tt.warmup ∨ r + 1 = tt.period then .red
      else if Target.nth q = .kick then .blue else .green := by
  unfold phase
  split
  · rfl
  · cases Target.nth q <;> rfl

/-! ### What motion reports -/

/-- Motion reports what the timetable says. -/
theorem report_stage (hr : r < tt.period) (h0 : ¬ (q = 0 ∧ r = 0)) :
    (tt.stage q r).report = tt.seen q r := by
  unfold seen
  rw [if_neg h0]
  rcases Nat.lt_or_ge tt.warmup r with h1 | h1
  · rcases Nat.lt_or_ge (tt.warmup + tt.lineup) r with h2 | h2
    · rcases Nat.lt_or_ge (r + 1) tt.period with h3 | h3
      · rw [stage_length h2 (by unfold period at h3; omega), if_neg (by omega), if_neg (by omega)]
        rfl
      · rw [stage_last (by omega), if_pos (by omega)]; rfl
    · rw [stage_lineup h1 h2, if_neg (by unfold period; omega), if_pos h2]; rfl
  · rw [stage_warmup h1, if_pos (.inl h1)]; rfl

/-- The target is seen exactly while it is performed. -/
theorem seen_eq_target_iff (hr : r < tt.period) : tt.seen q r = (Target.nth q).action ↔
    tt.warmup + tt.lineup < r ∧ r + 1 < tt.period := by
  have hw : Action.walk ≠ (Target.nth q).action := (Target.action_ne_walk _).symm
  have hl : Action.lineUp ≠ (Target.nth q).action := (Target.action_ne_lineUp _).symm
  have hn : Action.none ≠ (Target.nth q).action := (Target.action_ne_none _).symm
  unfold seen
  split
  · exact iff_of_false hn (by omega)
  split
  · exact iff_of_false hw (by omega)
  split
  · exact iff_of_false hl (by omega)
  · exact iff_of_true rfl (by omega)

/-- An attempt is completed in the last frame of a cycle, and in no other. -/
theorem completes_iff (hr : r < tt.period) :
    (tt.state q r).handshake = .triggered ∧ (tt.seen q r).endsBallAction = true ↔
      r + 1 = tt.period := by
  have hperiod : tt.period = tt.warmup + tt.lineup + tt.length + 2 := rfl
  have hpos := tt.length_pos
  constructor
  · rintro ⟨hlatch, hend⟩
    have hlate : tt.warmup + tt.lineup + 1 < r := by
      by_contra hn
      simp only [state, if_neg hn] at hlatch
      cases hlatch
    -- a target that is still performed is seen, and does not end itself
    by_contra hn
    rw [(seen_eq_target_iff hr).2 ⟨by omega, by omega⟩, Target.not_endsBallAction] at hend
    cases hend
  · intro hlast
    have hseen : tt.seen q r = .walk := by
      unfold seen
      rw [if_neg (by omega), if_pos (.inr hlast)]
    exact ⟨if_pos (by omega), by rw [hseen]; rfl⟩

/-- An attempt that goes on is triggered by the first frame in which its target is performed. -/
theorem observe_seen (hr : r + 1 < tt.period) :
    (tt.state q r).handshake.observe (tt.seen q r) (Target.nth q).action =
      (tt.state q (r + 1)).handshake := by
  simp only [state]
  have hiff : tt.seen q r = (Target.nth q).action ↔ _ := seen_eq_target_iff (Nat.lt_of_succ_lt hr)
  by_cases hseen : tt.warmup + tt.lineup < r
  · rw [if_pos (show _ < r + 1 by omega)]
    refine (Handshake.observe_eq_triggered ?_).2 (.inr (hiff.2 ⟨hseen, hr⟩))
    split <;> nofun
  · rw [Handshake.observe_of_ne fun he => hseen (hiff.1 he).1, if_neg (by omega), if_neg (by omega)]

/-! ## One frame -/

/-- The stage of motion after a frame within a cycle. -/
theorem next_stage {m : Motion} (hlineup : m.lineup = tt.lineup) (hlength : m.length = tt.length)
    (hr : r + 1 < tt.period) (hs : m.stage = tt.stage q r) :
    (m.step (tt.asked q r)).stage = tt.stage q (r + 1) := by
  have hperiod : tt.period = tt.warmup + tt.lineup + tt.length + 2 := rfl
  have hpos := tt.length_pos
  -- the parts of a cycle in turn; in the last frame of each, motion goes on to the stage of the next
  rcases Nat.lt_or_ge r tt.warmup with h0 | h0
  · rw [asked_walk (.inl h0), stage_warmup (by omega), Motion.step_stage]
    rw [stage_warmup (by omega)] at hs
    simp [Motion.next, hs, Action.isBallAction]
  rw [asked_target h0 hr]
  rcases Nat.lt_or_ge tt.warmup r with h1 | h1
  · rcases Nat.lt_or_ge (tt.warmup + tt.lineup) r with h2 | h2
    · rw [stage_length h2 (by omega)] at hs
      rw [Motion.performing_step hs]
      rcases Nat.lt_or_ge (r + 2) tt.period with h3 | h3
      · rw [if_neg (by omega), stage_length (by omega) (by omega)]
        congr 1
      · rw [if_pos (by omega), stage_last (by omega)]
    · rw [stage_lineup h1 h2] at hs
      rw [Motion.liningUp_step hs, hlength]
      rcases Nat.lt_or_ge (r + 1) (tt.warmup + tt.lineup + 1) with h3 | h3
      · rw [if_neg (by omega), stage_lineup (by omega) (by omega)]
        congr 1
      · rw [if_pos (by omega), stage_length (by omega) (by omega)]
        congr 1
        omega
  · rw [stage_warmup h1] at hs
    rw [Motion.walking_step hs, Motion.begin, hlineup, hlength]
    split
    · rw [stage_lineup (by omega) (by omega)]
      congr 1
      omega
    · rw [stage_length (by omega) (by omega)]
      congr 1
      omega

/-- After the last frame of a cycle motion walks. -/
theorem last_stage {m : Motion} (hr : r + 1 = tt.period) (hs : m.stage = tt.stage q r) :
    (m.step (tt.asked q r)).stage = tt.stage (q + 1) 0 := by
  rw [stage_last hr] at hs
  rw [asked_walk (.inr hr), stage_warmup (Nat.zero_le _), Motion.step_stage]
  simp [Motion.next, hs]

/-- The world before the frame at place `r` of cycle `q` is as the timetable says. -/
structure Holds (tt : Timetable) (settings : Settings) (q r : Nat) (w : World) : Prop where
  sound : w.runner.Sound
  activated : w.runner.task.settings = settings
  warmup : settings.walkFrames.toNat = tt.warmup
  lineup : w.motion.lineup = tt.lineup
  length : w.motion.length = tt.length
  frame : w.runner.frame = q * tt.period + r
  state : w.runner.task.state = tt.state q r
  stage : w.motion.stage = tt.stage q r
  active : w.board.active = tt.seen q r

variable {settings : Settings} {w : World}

/-- Read off the timetable, the three kinds of tick are places in the cycle. -/
theorem Holds.tick_cases (h : Holds tt settings q r w) (hr : r < tt.period) :
    (r < tt.warmup ∧
      w.ran.runner.task.state = ⟨(tt.state q r).walkFrames + 1, .nth q, .notTriggered⟩ ∧
      w.ran.runner.task.phase = .warmup ∧ w.ran.board.request.body.action = .walk ∧
      w.ran.runner.summary.completed = w.runner.summary.completed) ∨
    (r + 1 = tt.period ∧ w.ran.runner.task.state = ⟨0, (Target.nth q).other, .notTriggered⟩ ∧
      w.ran.runner.task.phase = .warmup ∧ w.ran.board.request.body.action = .walk ∧
      w.ran.runner.summary.completed = w.runner.summary.completed + 1) ∨
    (tt.warmup ≤ r ∧ r + 1 < tt.period ∧
      w.ran.runner.task.state = ⟨(tt.state q r).walkFrames, .nth q,
        (tt.state q r).handshake.observe (tt.seen q r) (Target.nth q).action⟩ ∧
      w.ran.runner.task.phase = (Target.nth q).phase ∧
      w.ran.board.request.body.action = (Target.nth q).action ∧
      w.ran.runner.summary.completed = w.runner.summary.completed) := by
  have hwarmup : w.runner.task.warmup = tt.warmup := by
    rw [← h.warmup, ← h.activated]; rfl
  have hactive : (w.ball.write w.board).2.active = tt.seen q r := by
    rw [w.ball.write_active, h.active]
  have hcounted : (tt.state q r).walkFrames = min r tt.warmup := rfl
  have hcases := h.sound.tick_cases (w.ball.write w.board).2
  rw [h.state, hwarmup, hactive] at hcases
  rcases hcases with ⟨hw, hran⟩ | ⟨-, hlatch, hend, hran⟩ | ⟨hw, hn, hran⟩
  · exact .inl ⟨by omega, hran⟩
  · exact .inr (.inl ⟨(completes_iff hr).1 ⟨hlatch, hend⟩, hran⟩)
  · have hnext : r + 1 < tt.period := lt_of_le_of_ne hr fun hlast => hn ((completes_iff hr).2 hlast)
    exact .inr (.inr ⟨by omega, hnext, hran⟩)

/-- What a tick of the timetable asks for, the phase it belongs to, and the state it leaves. -/
theorem Holds.ran (h : Holds tt settings q r w) (hr : r < tt.period) :
    w.ran.board.request.body.action = tt.asked q r ∧ w.ran.runner.task.phase = tt.phase q r ∧
      w.ran.runner.task.state = tt.stateAfter q r := by
  have hperiod : tt.period = tt.warmup + tt.lineup + tt.length + 2 := rfl
  have hcounted : (tt.state q r).walkFrames = min r tt.warmup := rfl
  unfold stateAfter
  rcases h.tick_cases hr with
    ⟨hlt, ht, hp, ha, -⟩ | ⟨hlast, ht, hp, ha, -⟩ | ⟨hge, hnext, ht, hp, ha, -⟩
  · refine ⟨ha.trans (asked_walk (.inl hlt)).symm, hp.trans (if_pos (.inl hlt)).symm, ht.trans ?_⟩
    rw [if_neg (by omega), hcounted]
    simp only [Timetable.state]
    rw [if_neg (by omega), Nat.min_eq_left hlt.le, Nat.min_eq_left hlt]
  · refine ⟨ha.trans (asked_walk (.inr hlast)).symm, hp.trans (if_pos (.inr hlast)).symm, ht.trans ?_⟩
    rw [if_pos hlast]
    simp [Timetable.state]
  · refine ⟨ha.trans (asked_target hge hnext).symm, hp.trans (if_neg (by omega)).symm, ht.trans ?_⟩
    have hsame : (tt.state q r).walkFrames = (tt.state q (r + 1)).walkFrames := by
      show min r tt.warmup = min (r + 1) tt.warmup
      omega
    rw [if_neg hnext.ne, hsame]
    exact congrArg (State.mk _ _) (observe_seen hnext)

theorem Holds.step_within (h : Holds tt settings q r w)
    (hr : r + 1 < tt.period) : Holds tt settings q (r + 1) w.step.1 := by
  obtain ⟨ha, -, ht⟩ := h.ran (Nat.lt_of_succ_lt hr)
  rw [stateAfter, if_neg (Nat.ne_of_lt hr)] at ht
  have hstage : w.step.1.motion.stage = tt.stage q (r + 1) := by
    rw [w.step_motion, ha]
    exact next_stage h.lineup h.length hr h.stage
  refine ⟨h.sound.tick _, h.activated, h.warmup, h.lineup, h.length, ?_, ht, hstage, ?_⟩
  · rw [w.step_runner, w.ran_frame, h.frame, Nat.add_assoc]
  · rw [w.step_active, Motion.report, hstage]
    exact report_stage hr (by omega)

theorem Holds.step_last (h : Holds tt settings q r w)
    (hr : r + 1 = tt.period) : Holds tt settings (q + 1) 0 w.step.1 := by
  obtain ⟨ha, -, ht⟩ := h.ran (by omega)
  rw [stateAfter, if_pos hr] at ht
  have hstage : w.step.1.motion.stage = tt.stage (q + 1) 0 := by
    rw [w.step_motion, ha]
    exact last_stage hr h.stage
  refine ⟨h.sound.tick _, h.activated, h.warmup, h.lineup, h.length, ?_, ht, hstage, ?_⟩
  · rw [w.step_runner, w.ran_frame, h.frame, Nat.succ_mul]
    omega
  · rw [w.step_active, Motion.report, hstage]
    exact report_stage (by omega) (by omega)

/-! ## The whole run -/

/-- The cycle and the place of the frame after frame `i`. -/
theorem next_place (tt : Timetable) (i : Nat) :
    (i % tt.period + 1 < tt.period ∧
      (i + 1) / tt.period = i / tt.period ∧ (i + 1) % tt.period = i % tt.period + 1) ∨
    (i % tt.period + 1 = tt.period ∧
      (i + 1) / tt.period = i / tt.period + 1 ∧ (i + 1) % tt.period = 0) := by
  have hpos : 0 < tt.period := Nat.succ_pos _
  have hi : i % tt.period + tt.period * (i / tt.period) = i := Nat.mod_add_div i tt.period
  have hr : i % tt.period < tt.period := Nat.mod_lt i hpos
  rcases Nat.lt_or_ge (i % tt.period + 1) tt.period with h | h
  · exact .inl ⟨h, (Nat.div_mod_unique hpos).2 ⟨by omega, h⟩⟩
  · refine .inr ⟨by omega, (Nat.div_mod_unique hpos).2 ⟨?_, hpos⟩⟩
    rw [Nat.mul_succ]
    omega

theorem holds_after (h : Holds tt settings 0 0 w) (i : Nat) :
    Holds tt settings (i / tt.period) (i % tt.period) (w.after i) := by
  induction i with
  | zero => rwa [Nat.zero_div, Nat.zero_mod]
  | succ i ih =>
    rw [World.after_succ]
    rcases next_place tt i with ⟨hlt, hq, hr⟩ | ⟨hlast, hq, hr⟩ <;> rw [hq, hr]
    · exact ih.step_within hlt
    · exact ih.step_last hlast

end Timetable

/-- The timetable of settings and a scenario. -/
def Scenario.timetable (s : Scenario) (settings : Settings) : Timetable :=
  ⟨settings.walkFrames.toNat, s.lineupFrames.toNat, Nat.max s.actionFrames.toNat 1,
    Nat.le_max_right _ 1⟩

/-- A simulation starts as its timetable does. -/
theorem Timetable.holds_start {settings : Settings} {s : Scenario} {sim : Simulation}
    (h : Simulation.ofScenario settings s = .ok sim) :
    Holds (s.timetable settings) settings 0 0 sim.world := by
  obtain ⟨-, -, rfl⟩ := Simulation.ofScenario_eq_ok.1 h
  refine ⟨Runner.sound_activate _, rfl, rfl, rfl, rfl, ?_, ?_, ?_, rfl⟩
  · exact (Nat.zero_mul _).symm
  · simp [state, Runner.activate, Behaviour.init, Task.init, State.initial]
  · exact (stage_warmup (Nat.zero_le _)).symm

/-! ## The log -/

/-- The entry of a frame of the timetable. -/
theorem Timetable.Holds.entry {tt : Timetable} {settings : Settings} {q r : Nat} {w : World}
    (h : Holds tt settings q r w) (hr : r < tt.period) :
    w.step.2.entry.frame = q * tt.period + r ∧ w.step.2.entry.active = tt.seen q r ∧
      w.step.2.entry.request.body.action = tt.asked q r ∧
      w.step.2.entry.request.indicator = some ⟨settings.lamp, (tt.phase q r).colour⟩ ∧
      w.step.2.entry.status.phase = tt.phase q r ∧
      w.step.2.entry.status.state = tt.stateAfter q r := by
  obtain ⟨ha, hp, ht⟩ := h.ran hr
  rw [w.step_entry, w.ran_entry]
  refine ⟨h.frame, h.active, ha, ?_, hp, ht⟩
  rw [w.ran_indicator, h.activated, hp]

/-- The log of every simulation that can be set up has an entry for each frame, and the number of
the frame tells what is in it: which target is attempted by the cycle it is in, and the request, the
report of motion, the status and the light by its place in the cycle. Nothing limits the number of
cycles. -/
theorem Simulation.log_follows_schedule {settings : Settings} {scenario : Scenario}
    {sim : Simulation} (h : ofScenario settings scenario = .ok sim) :
    let warmup := settings.walkFrames.toNat
    let lineup := scenario.lineupFrames.toNat
    let length := Nat.max scenario.actionFrames.toNat 1
    let period := warmup + lineup + length + 2
    sim.run.log.size = scenario.frames.toNat ∧
    ∀ i < scenario.frames.toNat, ∃ e, sim.run.log.entries[i]? = some e ∧
      let place := i % period
      let target : Target := if (i / period) % 2 = 0 then .kick else .dribble
      let walks := place < warmup ∨ place + 1 = period
      e.frame = i ∧
      e.request.body.action = (if walks then .walk else target.action) ∧
      e.active = (if i = 0 then .none
        else if place ≤ warmup ∨ place + 1 = period then .walk
        else if place ≤ warmup + lineup then .lineUp
        else target.action) ∧
      e.status.state.walkFrames =
        (if place < warmup then place + 1 else if place + 1 = period then 0 else warmup) ∧
      e.status.state.target = (if place + 1 = period then target.other else target) ∧
      e.status.state.handshake =
        (if warmup + lineup < place ∧ place ≤ warmup + lineup + length then .triggered
          else .notTriggered) ∧
      e.status.phase = (if walks then .warmup else target.phase) ∧
      e.request.indicator = some ⟨settings.lamp,
        if walks then .red else if target = .kick then .blue else .green⟩ := by
  intro warmup lineup length period
  have hstart := Timetable.holds_start h
  have hframes : sim.frames = scenario.frames.toNat := by
    obtain ⟨-, -, rfl⟩ := ofScenario_eq_ok.1 h; rfl
  refine ⟨by simp [Log.size, run_entries, hframes], fun i hi => ⟨(sim.world.after i).step.2.entry, ?_, ?_⟩⟩
  · rw [run_entries, List.getElem?_map, List.getElem?_range (hframes ▸ hi)]; rfl
  intro place target walks
  have hplace : place < period := Nat.mod_lt i (Nat.succ_pos _)
  obtain ⟨hframe, hactive, haction, hlight, hphase, hstate⟩ :=
    (Timetable.holds_after hstart i).entry hplace
  have hzero : i / period = 0 ∧ place = 0 ↔ i = 0 := by
    constructor
    · rintro ⟨hq, hr⟩
      rw [← Nat.div_add_mod i period, hq, Nat.mul_zero, Nat.zero_add]
      exact hr
    · rintro rfl
      exact ⟨Nat.zero_div _, Nat.zero_mod _⟩
  refine ⟨hframe.trans (Nat.div_add_mod' i period), haction,
    hactive.trans (if_congr hzero rfl rfl), ?_, ?_, ?_, hphase, ?_⟩
  · rw [hstate]; exact Timetable.stateAfter_walkFrames
  · rw [hstate]; exact Timetable.stateAfter_target
  · rw [hstate]; exact Timetable.stateAfter_handshake hplace
  · rw [hlight, Timetable.colour_phase]; rfl

/-- With the quick settings a cycle of the standard scenario has 37 frames, so frame 59 is in the
second, and motion performs the dribble. -/
theorem Simulation.log_of_standard_scenario : ∃ sim, ofScenario .quick .standard = .ok sim ∧
    ∃ e, sim.run.log.entries[59]? = some e ∧ e.frame = 59 ∧ e.request.body.action = .dribble ∧
      e.active = .dribble ∧ e.status.state.handshake = .triggered := by
  have h : ofScenario .quick .standard = .ok _ :=
    ofScenario_eq_ok.2 ⟨by decide +kernel, by decide +kernel, rfl⟩
  obtain ⟨e, he, hframe, haction, hactive, -, -, hhandshake, -⟩ :=
    (log_follows_schedule h).2 59 (by decide)
  exact ⟨_, h, e, he, hframe, haction, hactive, hhandshake⟩

end Striker
