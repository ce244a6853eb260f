/-
Activations of the task. A runner that was activated with valid settings is sound at every tick: it
remembers the action it asked for last, which tells whether an attempt is going on. So the summary
counts a completed attempt exactly at the ticks that complete one.
-/
import Striker.Proofs.Task.Tick
import Striker.Runner

namespace Striker

/-! ## Valid settings -/

/-- Settings that a task accepts. -/
abbrev Settings.Valid := { s : Settings // s.check = .ok () }

namespace Settings

/-- Valid settings have no zero for a number, and a threshold that is finite and not negative. -/
theorem check_eq_ok {s : Settings} : s.check = .ok () ↔ s.walkFrames ≠ 0 ∧ s.frameRate ≠ 0 ∧
    s.threshold.isFinite = true ∧ s.threshold.less 0 = false := by
  unfold check
  by_cases hwalk : s.walkFrames = 0
  · simp [hwalk]
  · by_cases hrate : s.frameRate = 0
    · simp [hwalk, hrate]
    · cases hfinite : s.threshold.isFinite <;> cases hless : s.threshold.less 0 <;> simp [hwalk, hrate]

theorem walkFrames_pos {s : Settings} (h : s.check = .ok ()) : 0 < s.walkFrames.toNat := by
  obtain ⟨hwalk, -⟩ := check_eq_ok.1 h
  exact Nat.pos_of_ne_zero fun hzero => hwalk (UInt32.toNat_inj.1 hzero)

end Settings

namespace Task

/-- The task with valid settings. -/
def ofValid (s : Settings.Valid) : Task := ⟨s.1, .initial, .warmup, none⟩

/-- A task is made of settings exactly if they are valid, and it is at the start of its warm-up. -/
theorem ofSettings_eq_ok {s : Settings} {t : Task} :
    ofSettings s = .ok t ↔ s.check = .ok () ∧ t = ⟨s, .initial, .warmup, none⟩ := by
  unfold ofSettings
  rcases hs : s.check with e | u
  · simp
  · simp only [Except.ok.injEq, true_and]
    exact eq_comm

/-- The task with valid settings is the one that is made of them. -/
theorem ofSettings_valid (s : Settings.Valid) : ofSettings s.1 = .ok (ofValid s) :=
  ofSettings_eq_ok.2 ⟨s.2, rfl⟩

end Task

/-! ## Completed attempts -/

namespace Summary

/-- The attempts that a summary counts as completed. -/
def completed (s : Summary) : Nat := s.kicksCompleted + s.dribblesCompleted

/-- A walk after a ball action completes an attempt. -/
theorem completed_record_walk (s : Summary) (t : Target) {r : Request} (h : r.body.action = .walk) :
    (s.record (some t.action) r).completed = s.completed + 1 := by
  cases t <;> simp [completed, record, count, h, Target.action] <;> omega

/-- Nothing else does. -/
theorem completed_record (s : Summary) {last : Option Action} {r : Request}
    (h : r.body.action ≠ .walk ∨ ∀ t : Target, last ≠ some t.action) :
    (s.record last r).completed = s.completed := by
  rcases h with h | h
  · simp [completed, record, count, h]
  · have hk : last ≠ some .kick := h .kick
    have hd : last ≠ some .dribble := h .dribble
    simp [completed, record, count, hk, hd]

end Summary

/-! ## Boards -/

@[simp] theorem Board.request_publish (b : Board) (r : Request) : (b.publish r).request = r := by
  simp only [publish, request, Buffer.front, Buffer.publish]
  split <;> simp

/-! ## Ticks of a runner -/

namespace Runner

variable {r : Runner Task}

/-- What the task reads in the next tick. -/
def context (r : Runner Task) (b : Board) : Context := .ofSnapshot r.frame b.snapshot

theorem tick_task (r : Runner Task) (b : Board) :
    (r.tick b).runner.task = (r.task.tick (r.context b)).task := rfl

theorem tick_board (r : Runner Task) (b : Board) :
    (r.tick b).board = b.publish (r.task.tick (r.context b)).request := rfl

@[simp] theorem tick_warmup (r : Runner Task) (b : Board) :
    (r.tick b).runner.task.warmup = r.task.warmup := rfl

theorem tick_request (r : Runner Task) (b : Board) :
    (r.tick b).board.request = (r.task.tick (r.context b)).request := by
  rw [tick_board, Board.request_publish]

theorem tick_last (r : Runner Task) (b : Board) :
    (r.tick b).runner.last = some (r.tick b).board.request.body.action := by
  rw [tick_request]; rfl

theorem tick_summary (r : Runner Task) (b : Board) :
    (r.tick b).runner.summary = r.summary.record r.last (r.tick b).board.request := by
  rw [tick_request]; rfl

/-- What holds of an activation between any two ticks: its task is sound, and the last action asked
for is the target during an attempt, and a walk, if anything, during a warm-up. -/
structure Sound (r : Runner Task) : Prop where
  task : r.task.Sound
  walked : r.task.phase = .warmup → r.last = none ∨ r.last = some .walk
  asked : r.task.phase ≠ .warmup → r.last = some r.task.state.target.action

theorem sound_activate (t : Task) : (activate t).Sound :=
  ⟨Task.sound_init t, fun _ => .inl rfl, fun h => absurd rfl h⟩

/-- The three kinds of tick, with the action published and the completed attempts counted. -/
theorem Sound.tick_cases (h : r.Sound) (b : Board) :
    (r.task.state.walkFrames < r.task.warmup ∧
      (r.tick b).runner.task.state = ⟨r.task.state.walkFrames + 1, r.task.state.target, .notTriggered⟩ ∧
      (r.tick b).runner.task.phase = .warmup ∧
      (r.tick b).board.request.body.action = .walk ∧
      (r.tick b).runner.summary.completed = r.summary.completed) ∨
    (r.task.state.walkFrames = r.task.warmup ∧ r.task.state.handshake = .triggered ∧
      b.active.endsBallAction = true ∧
      (r.tick b).runner.task.state = ⟨0, r.task.state.target.other, .notTriggered⟩ ∧
      (r.tick b).runner.task.phase = .warmup ∧
      (r.tick b).board.request.body.action = .walk ∧
      (r.tick b).runner.summary.completed = r.summary.completed + 1) ∨
    (r.task.state.walkFrames = r.task.warmup ∧
      ¬ (r.task.state.handshake = .triggered ∧ b.active.endsBallAction = true) ∧
      (r.tick b).runner.task.state = ⟨r.task.state.walkFrames, r.task.state.target,
        r.task.state.handshake.observe b.active r.task.state.target.action⟩ ∧
      (r.tick b).runner.task.phase = r.task.state.target.phase ∧
      (r.tick b).board.request.body.action = r.task.state.target.action ∧
      (r.tick b).runner.summary.completed = r.summary.completed) := by
  have hreq := tick_request r b
  have hsum := tick_summary r b
  rcases h.task.tick_cases (r.context b) with
    ⟨hw, ht, ha⟩ | ⟨hw, hl, he, ht, ha⟩ | ⟨hw, hn, ht, ha⟩
  · -- no attempt is going on, since one would have counted the whole warm-up
    have hp : r.task.phase = .warmup := by
      by_contra hp
      have := (h.task.attempting hp).1
      omega
    refine .inl ⟨hw, by rw [tick_task, ht], by rw [tick_task, ht], by rw [hreq, ha], ?_⟩
    rw [hsum]
    refine Summary.completed_record _ (.inr fun t hl => ?_)
    rcases h.walked hp with h0 | h0 <;> rw [h0] at hl
    · cases hl
    · exact absurd (Option.some.inj hl).symm t.action_ne_walk
  · refine .inr (.inl ⟨hw, hl, he, by rw [tick_task, ht], by rw [tick_task, ht], by rw [hreq, ha], ?_⟩)
    rw [hsum, h.asked (h.task.latched hl)]
    exact Summary.completed_record_walk _ _ (by rw [hreq, ha])
  · refine .inr (.inr ⟨hw, hn, by rw [tick_task, ht]; rfl, by rw [tick_task, ht], by rw [hreq, ha], ?_⟩)
    rw [hsum]
    refine Summary.completed_record _ (.inl ?_)
    rw [hreq, ha]
    exact r.task.state.target.action_ne_walk

theorem Sound.tick (h : r.Sound) (b : Board) : (r.tick b).runner.Sound := by
  have hs : (r.tick b).runner.task.Sound := h.task.tick (r.context b)
  rcases h.tick_cases b with ⟨-, -, hp, ha, -⟩ | ⟨-, -, -, -, hp, ha, -⟩ | ⟨-, -, ht, hp, ha, -⟩
  · exact ⟨hs, fun _ => .inr (by rw [tick_last, ha]), fun hn => absurd hp hn⟩
  · exact ⟨hs, fun _ => .inr (by rw [tick_last, ha]), fun hn => absurd hp hn⟩
  · refine ⟨hs, fun hw => ?_, fun _ => by rw [tick_last, ha, ht]⟩
    rw [hp] at hw
    exact absurd hw r.task.state.target.phase_ne_warmup

/-! ## Several ticks -/

/-- The runner after a tick against each of these boards. -/
def after {τ σ : Type} [Behaviour τ σ] (r : Runner τ) (boards : List Board) : Runner τ :=
  boards.foldl (fun r b => (r.tick b).runner) r

/-- What holds of a runner before its ticks and is kept by each of them holds after them. -/
theorem after_invariant {τ σ : Type} [Behaviour τ σ] {P : Runner τ → Prop}
    (hstep : ∀ r b, P r → P (r.tick b).runner) {r : Runner τ} (h : P r) (boards : List Board) :
    P (r.after boards) := by
  induction boards generalizing r with
  | nil => exact h
  | cons b boards ih => exact ih (hstep r b h)

theorem frame_after {τ σ : Type} [Behaviour τ σ] (r : Runner τ) (boards : List Board) :
    (r.after boards).frame = r.frame + boards.length := by
  induction boards generalizing r with
  | nil => rfl
  | cons b boards ih =>
    rw [List.length_cons, ← Nat.add_assoc, Nat.add_right_comm]
    exact ih (r.tick b).runner

end Runner

end Striker
