/-
What a simulation reports. Two frames of each cycle report something: the first of the attempt, in which
the task turns to its target, and the last, in which it finds the action finished and turns back to the
warm-up. Nothing is reported as unexpected, since all that motion does while a target is asked for leads
to it. So the reports can be told from the lengths of the parts of a cycle and the number of frames, and
nothing else that a simulation is set up with makes a difference.
-/
import Striker.Proofs.Runner.Events
import Striker.Proofs.Simulation.Counters
import Striker.Proofs.Task.Warnings

namespace Striker

/-- Where nothing warns, what is more than a detail is information. -/
theorem Event.filter_of_quiet {events : List Event} (h : ∀ e ∈ events, e.level ≠ .warn) :
    events.filter (·.level ≠ .debug) = events.filter (·.level = .info) := by
  refine List.filter_congr fun e he => ?_
  have hwarn := h e he
  cases hl : e.level with
  | debug => rfl
  | info => rfl
  | warn => exact absurd hl hwarn

namespace Timetable

/-- The phase before the frame at place `r` of cycle `q`. -/
def phaseBefore (tt : Timetable) (q r : Nat) : Phase :=
  if r ≤ tt.warmup then .warmup else (Target.nth q).phase

/-- What that frame reports. -/
def reports (tt : Timetable) (q r : Nat) : List Event :=
  if r = tt.warmup then [.phaseChanged (q * tt.period + r) .warmup (Target.nth q).phase]
  else if r + 1 = tt.period then
    [.finished (q * tt.period + r) (Target.nth q).action .walk,
      .phaseChanged (q * tt.period + r) (Target.nth q).phase .warmup]
  else []

/-- What cycle `q` reports in a run of so many frames. -/
def cycle (tt : Timetable) (frames q : Nat) : List Event :=
  let first := q * tt.period + tt.warmup
  let last := q * tt.period + tt.period - 1
  (if first < frames then [.phaseChanged first .warmup (Target.nth q).phase] else []) ++
    if last < frames then
      [.finished last (Target.nth q).action .walk, .phaseChanged last (Target.nth q).phase .warmup]
    else []

variable {tt : Timetable} {settings : Settings} {q r : Nat} {w : World}

theorem period_pos (tt : Timetable) : 0 < tt.period := Nat.succ_pos _

theorem reports_first (tt : Timetable) (q : Nat) : tt.reports q tt.warmup =
    [.phaseChanged (q * tt.period + tt.warmup) .warmup (Target.nth q).phase] := if_pos rfl

theorem reports_last (h : r + 1 = tt.period) : tt.reports q r =
    [.finished (q * tt.period + r) (Target.nth q).action .walk,
      .phaseChanged (q * tt.period + r) (Target.nth q).phase .warmup] := by
  have hne : r ≠ tt.warmup := by unfold period at h; omega
  exact (if_neg hne).trans (if_pos h)

theorem reports_within (h : r ≠ tt.warmup) (h' : r + 1 ≠ tt.period) : tt.reports q r = [] :=
  (if_neg h).trans (if_neg h')

theorem phase_walk (h : r < tt.warmup ∨ r + 1 = tt.period) : tt.phase q r = .warmup := if_pos h

theorem phase_target (h : tt.warmup ≤ r) (h' : r + 1 ≠ tt.period) :
    tt.phase q r = (Target.nth q).phase := if_neg (by omega)

theorem phaseBefore_warmup (h : r ≤ tt.warmup) : tt.phaseBefore q r = .warmup := if_pos h

theorem phaseBefore_target (h : tt.warmup < r) : tt.phaseBefore q r = (Target.nth q).phase :=
  if_neg (Nat.not_le.2 h)

/-- All that is seen during an attempt leads to its target. -/
theorem seen_of_attempt (hpos : 0 < tt.warmup) (h : tt.warmup ≤ r) :
    tt.seen q r = .walk ∨ tt.seen q r = .lineUp ∨ tt.seen q r = (Target.nth q).action := by
  unfold seen
  rw [if_neg (by omega)]
  split
  · exact .inl rfl
  split
  · exact .inr (.inl rfl)
  · exact .inr (.inr rfl)

/-! ## One frame -/

theorem Holds.target (h : Holds tt settings q r w) : w.runner.task.state.target = .nth q := by
  rw [h.state]
  rfl

theorem Holds.not_astray (h : Holds tt settings q r w) (hr : r < tt.period) (hpos : 0 < tt.warmup) :
    ¬ Task.Astray w.runner.task w.context := by
  intro hastray
  have hasks : tt.asked q r = (Target.nth q).action := by
    rw [← (h.ran hr).1, w.ran_request, hastray.asks, h.target]
  obtain ⟨hwalk, hlineUp, hother⟩ := hastray.strange
  rw [w.context_active, h.active] at hwalk hlineUp hother
  by_cases hwalks : r < tt.warmup ∨ r + 1 = tt.period
  · rw [asked_walk hwalks] at hasks
    exact (Target.nth q).action_ne_walk hasks.symm
  · have hattempt : tt.warmup ≤ r := by omega
    rw [h.target] at hother
    rcases seen_of_attempt hpos hattempt with hs | hs | hs
    · exact hwalk hs
    · exact hlineUp hs
    · exact hother hs

theorem Holds.quiet (h : Holds tt settings q r w) (hr : r < tt.period) (hpos : 0 < tt.warmup) :
    ∀ e ∈ w.step.2.events, e.level ≠ .warn := by
  have hwarnings := h.sound.task.warnings_tick w.context
  rw [if_neg fun hwarns => h.not_astray hr hpos hwarns.1] at hwarnings
  intro e he hwarn
  exact List.filter_eq_nil_iff.1 hwarnings e he (decide_eq_true hwarn)

theorem Holds.reports (h : Holds tt settings q r w) (hr : r < tt.period) (hpos : 0 < tt.warmup)
    (hp : w.runner.task.phase = tt.phaseBefore q r) :
    w.step.2.events.filter (·.level ≠ .debug) = tt.reports q r := by
  have hperiod : tt.period = tt.warmup + tt.lineup + tt.length + 2 := rfl
  have hreports := h.sound.task.reports_eq w.context
  have hframe : w.context.frame = q * tt.period + r := h.frame
  rw [← w.ran_task, (h.ran hr).2.1, hp, h.target, hframe, w.context_active, h.active] at hreports
  refine (Event.filter_of_quiet (h.quiet hr hpos)).trans (hreports.trans ?_)
  have hattempt : (Target.nth q).phase ≠ .warmup := Target.phase_ne_warmup _
  -- the phase changes right after the warm-up and in the last frame of the cycle
  by_cases hlast : r + 1 = tt.period
  · have hseen : tt.seen q r = .walk := by
      unfold seen
      rw [if_neg (by omega), if_pos (.inr hlast)]
    rw [phase_walk (.inr hlast), phaseBefore_target (by omega), if_neg hattempt.symm, if_pos rfl,
      hseen, reports_last hlast]
    rfl
  rcases Nat.lt_trichotomy r tt.warmup with hlt | rfl | hgt
  · rw [phase_walk (.inl hlt), phaseBefore_warmup hlt.le, if_pos rfl, reports_within hlt.ne hlast]
  · rw [phase_target (Nat.le_refl _) hlast, phaseBefore_warmup (Nat.le_refl _), if_neg hattempt,
      if_neg hattempt, reports_first]
    rfl
  · rw [phase_target hgt.le hlast, phaseBefore_target hgt, if_pos rfl, reports_within hgt.ne' hlast]

/-! ## Several frames -/

theorem phase_after (h : Holds tt settings 0 0 w) (h0 : w.runner.task.phase = .warmup) (i : Nat) :
    (w.after i).runner.task.phase = tt.phaseBefore (i / tt.period) (i % tt.period) := by
  cases i with
  | zero =>
    rw [Nat.zero_mod, phaseBefore_warmup (Nat.zero_le _)]
    exact h0
  | succ i =>
    have hphase := ((holds_after h i).ran (Nat.mod_lt i tt.period_pos)).2.1
    rw [World.after_succ, World.step_runner, hphase]
    rcases next_place tt i with ⟨hlt, hq, hr⟩ | ⟨hlast, hq, hr⟩ <;> rw [hq, hr]
    · refine if_congr ?_ rfl rfl
      omega
    · rw [phase_walk (.inr hlast), phaseBefore_warmup (Nat.zero_le _)]

/-- A run of whole cycles, cycle by cycle. -/
theorem flatMap_range_mul {α : Type} (f : Nat → List α) (m n : Nat) :
    (List.range (m * n)).flatMap f =
      (List.range m).flatMap fun q => (List.range n).flatMap fun r => f (q * n + r) := by
  induction m with
  | zero => simp
  | succ m ih =>
    rw [Nat.succ_mul, List.range_add, List.flatMap_append, ih, List.range_succ, List.flatMap_append,
      List.flatMap_map, List.flatMap_singleton]

/-- A run that ends early is a longer one that reports nothing more. -/
theorem flatMap_range_of_le {α : Type} (f : Nat → List α) {m n : Nat} (h : m ≤ n) :
    (List.range m).flatMap f = (List.range n).flatMap fun i => if i < m then f i else [] := by
  obtain ⟨k, rfl⟩ := Nat.exists_eq_add_of_le h
  have hrest : ((List.range k).map (m + ·)).flatMap (fun i => if i < m then f i else []) = [] := by
    simp
  rw [List.range_add, List.flatMap_append, hrest, List.append_nil]
  refine List.flatMap_congr fun i hi => ?_
  rw [if_pos (List.mem_range.1 hi)]

/-- Of the places of a cycle, two report something. -/
theorem flatMap_reports (tt : Timetable) (frames q : Nat) :
    ((List.range tt.period).flatMap fun r =>
      if q * tt.period + r < frames then tt.reports q r else []) = tt.cycle frames q := by
  have hperiod : tt.period = tt.warmup + 1 + (tt.lineup + tt.length) + 1 := by
    unfold period
    omega
  have hlast : tt.warmup + 1 + (tt.lineup + tt.length) + 1 = tt.period := hperiod.symm
  have hbefore : ∀ r ∈ List.range tt.warmup,
      (if q * tt.period + r < frames then tt.reports q r else []) = [] := by
    intro r hr
    have hlt := List.mem_range.1 hr
    rw [reports_within hlt.ne (by omega), ite_self]
  have hwithin : ∀ r ∈ List.range (tt.lineup + tt.length),
      (if q * tt.period + (tt.warmup + 1 + r) < frames
        then tt.reports q (tt.warmup + 1 + r) else []) = [] := by
    intro r hr
    have hlt := List.mem_range.1 hr
    rw [reports_within (by omega) (by omega), ite_self]
  rw [hperiod, List.range_succ, List.range_add, List.range_succ, ← hperiod]
  simp only [List.flatMap_append, List.flatMap_map, List.flatMap_singleton,
    List.flatMap_eq_nil_iff.2 hbefore, List.flatMap_eq_nil_iff.2 hwithin, List.nil_append,
    List.append_nil, reports_first, reports_last hlast]
  have hplace : q * tt.period + tt.period - 1 =
      q * tt.period + (tt.warmup + 1 + (tt.lineup + tt.length)) := by omega
  rw [cycle, hplace]

/-- The frames of a run, taken cycle by cycle. -/
theorem reports_after (h : Holds tt settings 0 0 w) (h0 : w.runner.task.phase = .warmup)
    (hpos : 0 < tt.warmup) {frames n : Nat} (hn : frames ≤ n * tt.period) :
    ((List.range frames).flatMap fun i => (w.after i).step.2.events).filter (·.level ≠ .debug) =
      (List.range n).flatMap (tt.cycle frames) := by
  have hframe : ∀ i, ((w.after i).step.2.events).filter (·.level ≠ .debug) =
      tt.reports (i / tt.period) (i % tt.period) := fun i =>
    (holds_after h i).reports (Nat.mod_lt i tt.period_pos) hpos (phase_after h h0 i)
  rw [List.filter_flatMap]
  simp only [hframe]
  rw [flatMap_range_of_le _ hn, flatMap_range_mul]
  refine List.flatMap_congr fun q _ => ?_
  rw [← flatMap_reports]
  refine List.flatMap_congr fun r hr => ?_
  have hplace : (q * tt.period + r) / tt.period = q ∧ (q * tt.period + r) % tt.period = r := by
    rw [Nat.div_mod_unique tt.period_pos, Nat.mul_comm, Nat.add_comm]
    exact ⟨rfl, List.mem_range.1 hr⟩
  rw [hplace.1, hplace.2]

end Timetable

/-! ## Simulations -/

namespace Simulation

variable {settings : Settings} {s : Scenario} {sim : Simulation}

theorem run_events (sim : Simulation) : sim.run.events =
    Runner.activation sim.world.runner.task :: .simulationStarted sim.frames ::
      (List.range sim.frames).flatMap (fun i => (sim.world.after i).step.2.events) ++
        [(sim.world.after sim.frames).runner.deactivation] := by
  simp only [run, World.run_eq, List.reverse_nil, List.nil_append, List.flatMap_map]

theorem deactivation_of_frames (h : ofScenario settings s = .ok sim) :
    (sim.world.after sim.frames).runner.deactivation = .deactivated Task.name s.frames.toNat
      sim.run.summary.kicksCompleted sim.run.summary.dribblesCompleted := by
  have hframe := (Timetable.holds_after (Timetable.holds_start h) sim.frames).frame
  rw [Nat.div_add_mod', frames_of_ofScenario h] at hframe
  rw [(run_counts sim).1, ← hframe, frames_of_ofScenario h]
  rfl

/-- The kicks and dribbles that a simulation counts can be told from its frames. -/
theorem completed_of_frames (h : ofScenario settings s = .ok sim) :
    sim.run.summary.kicksCompleted = (s.frames.toNat / (s.timetable settings).period + 1) / 2 ∧
      sim.run.summary.dribblesCompleted = s.frames.toNat / (s.timetable settings).period / 2 := by
  obtain ⟨-, hcompleted, halternates⟩ := counts_at h sim.frames
  rw [(run_counts sim).1, halternates.kicks, halternates.dribbles, hcompleted, frames_of_ofScenario h]
  exact ⟨rfl, rfl⟩

theorem warmup_pos (h : ofScenario settings s = .ok sim) : 0 < (s.timetable settings).warmup :=
  settings.walkFrames_pos (ofScenario_eq_ok.1 h).2.1

theorem quiet_run (h : ofScenario settings s = .ok sim) : ∀ e ∈ sim.run.events, e.level ≠ .warn := by
  intro e he
  rw [run_events, List.mem_append, List.mem_cons, List.mem_cons, List.mem_singleton] at he
  rcases he with (rfl | rfl | he) | rfl
  · nofun
  · nofun
  · obtain ⟨i, -, hi⟩ := List.mem_flatMap.1 he
    have hholds := Timetable.holds_after (Timetable.holds_start h) i
    exact hholds.quiet (Nat.mod_lt i (Timetable.period_pos _)) (warmup_pos h) e hi
  · nofun

/-- What a simulation reports, in as many cycles as its frames fill. -/
theorem reports_of_frames (h : ofScenario settings s = .ok sim) {n : Nat}
    (hn : s.frames.toNat ≤ n * (s.timetable settings).period) :
    sim.run.events.filter (·.level ≠ .debug) =
      .activated Task.name :: .simulationStarted s.frames.toNat ::
        (List.range n).flatMap ((s.timetable settings).cycle s.frames.toNat) ++
          [.deactivated Task.name s.frames.toNat sim.run.summary.kicksCompleted
            sim.run.summary.dribblesCompleted] := by
  have hwarmup : sim.world.runner.task.phase = .warmup := by
    obtain ⟨-, -, rfl⟩ := ofScenario_eq_ok.1 h
    rfl
  have hreports := Timetable.reports_after (Timetable.holds_start h) hwarmup (warmup_pos h) hn
  rw [run_events, deactivation_of_frames h, frames_of_ofScenario h, List.filter_append,
    List.filter_cons_of_pos rfl, List.filter_cons_of_pos rfl, hreports]
  rfl

/-- The reports of every simulation that can be set up, details aside: the activation, the start, those
of each cycle in turn, and the deactivation with the counts of the summary. A cycle reports the change
to the phase of its target in the first frame after the warm-up, and in its last frame the end of the
ball action, with motion walking, and right after it the change back; what lies beyond the frames of the
run is left out, so it does not matter how many further cycles are looked at. Nothing warns. Two
simulations with the same numbers of frames for the run, the warm-up, the line-up and the ball action
report the same, whatever else they are set up with. -/
theorem reports_follow_schedule (h : ofScenario settings s = .ok sim) :
    let warmup := settings.walkFrames.toNat
    let period := warmup + s.lineupFrames.toNat + Nat.max s.actionFrames.toNat 1 + 2
    let frames := s.frames.toNat
    let cycle (q : Nat) : List Event :=
      let target : Target := if q % 2 = 0 then .kick else .dribble
      let first := q * period + warmup
      let last := q * period + period - 1
      (if first < frames then [.phaseChanged first .warmup target.phase] else []) ++
        if last < frames then
          [.finished last target.action .walk, .phaseChanged last target.phase .warmup]
        else []
    (∀ n, frames ≤ n * period → sim.run.events.filter (·.level ≠ .debug) =
      .activated Task.name :: .simulationStarted frames :: (List.range n).flatMap cycle ++
        [.deactivated Task.name frames sim.run.summary.kicksCompleted
          sim.run.summary.dribblesCompleted]) ∧
    (∀ e ∈ sim.run.events, e.level ≠ .warn) ∧
    ∀ settings' s' sim', ofScenario settings' s' = .ok sim' →
      settings'.walkFrames = settings.walkFrames → s'.frames = s.frames →
      s'.lineupFrames = s.lineupFrames → s'.actionFrames = s.actionFrames →
      sim'.run.events.filter (·.level ≠ .debug) = sim.run.events.filter (·.level ≠ .debug) := by
  intro warmup period frames cycle
  refine ⟨fun n hn => reports_of_frames h hn, quiet_run h, ?_⟩
  intro settings' s' sim' h' hwalk hframes hlineup haction
  have htimetable : s'.timetable settings' = s.timetable settings := by
    simp only [Scenario.timetable, hwalk, hlineup, haction]
  have henough : frames ≤ frames * (s.timetable settings).period :=
    Nat.le_mul_of_pos_right _ (Timetable.period_pos _)
  obtain ⟨hkicks, hdribbles⟩ := completed_of_frames h
  obtain ⟨hkicks', hdribbles'⟩ := completed_of_frames h'
  rw [htimetable, hframes] at hkicks' hdribbles'
  rw [reports_of_frames h henough, reports_of_frames h' (n := frames) (by rwa [htimetable, hframes]),
    htimetable, hframes, hkicks, hkicks', hdribbles, hdribbles']

/-- With the quick settings, 50 frames of the standard scenario hold a whole attempt at a kick, and the
start of one at a dribble. Another seed reports the same. -/
theorem reports_of_standard_scenario :
    ∃ sim sim', ofScenario .quick { Scenario.standard with frames := 50 } = .ok sim ∧
      ofScenario .quick { Scenario.standard with frames := 50, seed := 7 } = .ok sim' ∧
      sim.run.events.filter (·.level ≠ .debug) =
        [.activated Task.name, .simulationStarted 50, .phaseChanged 5 .warmup .kickAttempt,
          .finished 36 .kick .walk, .phaseChanged 36 .kickAttempt .warmup,
          .phaseChanged 42 .warmup .dribbleAttempt, .deactivated Task.name 50 1 0] ∧
      sim'.run.events.filter (·.level ≠ .debug) = sim.run.events.filter (·.level ≠ .debug) := by
  have h : ofScenario .quick { Scenario.standard with frames := 50 } = .ok _ :=
    ofScenario_eq_ok.2 ⟨by decide +kernel, by decide +kernel, rfl⟩
  have h' : ofScenario .quick { Scenario.standard with frames := 50, seed := 7 } = .ok _ :=
    ofScenario_eq_ok.2 ⟨by decide +kernel, by decide +kernel, rfl⟩
  obtain ⟨hreports, -, hsame⟩ := reports_follow_schedule h
  obtain ⟨hkicks, hdribbles⟩ := completed_of_frames h
  refine ⟨_, _, h, h', ?_, hsame _ _ _ h' rfl rfl rfl rfl⟩
  rw [hreports 2 (by decide), hkicks, hdribbles]
  decide

end Simulation

end Striker
