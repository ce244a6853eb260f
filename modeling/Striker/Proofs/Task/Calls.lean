/-
A task between any two calls. It may be reset and ticked in any order, and a tick may read anything,
numbers that are none among it. Whatever was called before, the counter, the target, the latch, the
phase and the memory of warnings fit together, and what a tick asks for fits to the phase that it
leaves behind.
-/
import Striker.Proofs.Runner.Activation
import Striker.Proofs.Task.Interference

namespace Striker

/-! ## Sightings -/

namespace Sighting

/-- No sighting turns the robot by what is no number. -/
theorem turn_isFinite (s : Sighting) : s.turn.isFinite = true := by
  have hzero : (0 : Single).isFinite = true := by decide +kernel
  rw [turn_eq]
  cases s.heading with
  | none => exact hzero
  | some h =>
    by_cases hf : h.isFinite = true
    · simp [hf]
    · simp [hf, hzero]

theorem isNear_iff {threshold : Single} {s : Sighting} : s.isNear threshold = true ↔
    ∃ p, s.position = some p ∧ p.x.isFinite = true ∧ p.y.isFinite = true ∧
      p.x.less threshold = true := by
  rw [isNear_eq]
  cases s.position with
  | none => simp
  | some p => simp [Position.isFinite, and_assoc]

end Sighting

namespace Task

/-! ## Calls -/

/-- What may be done with a task: it is reset, or it is ticked. -/
inductive Call where
  | init
  | tick (c : Context)

/-- The task after a call. -/
def call (t : Task) : Call → Task
  | .init => t.init
  | .tick c => (t.tick c).task

/-- The task after these calls. -/
def afterCalls (t : Task) (calls : List Call) : Task := calls.foldl call t

theorem afterCalls_concat (t : Task) (calls : List Call) (k : Call) :
    t.afterCalls (calls ++ [k]) = (t.afterCalls calls).call k := by
  unfold afterCalls
  rw [List.foldl_append]
  rfl

theorem afterCalls_take_succ (t : Task) {calls : List Call} {i : Nat} {k : Call}
    (h : calls[i]? = some k) :
    t.afterCalls (calls.take (i + 1)) = (t.afterCalls (calls.take i)).call k := by
  rw [List.take_add_one, h]
  exact afterCalls_concat t (calls.take i) k

@[simp] theorem call_settings (t : Task) (k : Call) : (t.call k).settings = t.settings := by
  cases k <;> rfl

theorem afterCalls_settings (t : Task) (calls : List Call) :
    (t.afterCalls calls).settings = t.settings := by
  induction calls generalizing t with
  | nil => rfl
  | cons k calls ih => exact (ih (t.call k)).trans (t.call_settings k)

/-- A new task is as it is after a reset. -/
theorem sound_ofValid (s : Settings.Valid) : (ofValid s).Sound := sound_init (ofValid s)

/-- A call keeps a task sound. -/
theorem Sound.call {t : Task} (h : t.Sound) (k : Call) : (t.call k).Sound := by
  cases k with
  | init => exact sound_init t
  | tick c => exact h.tick c

theorem Sound.afterCalls {t : Task} (h : t.Sound) (calls : List Call) : (t.afterCalls calls).Sound := by
  induction calls generalizing t with
  | nil => exact h
  | cons k calls ih => exact ih (h.call k)

/-! ## Requests -/

/-- A tick either walks, in a warm-up that has no latch, or asks for the target, in its phase. -/
theorem Sound.request_cases {t : Task} (h : t.Sound) (c : Context) :
    ((t.tick c).request.body.action = .walk ∧ (t.tick c).task.phase = .warmup ∧
      (t.tick c).task.state.handshake = .notTriggered) ∨
    ((t.tick c).request.body.action = (t.tick c).task.state.target.action ∧
      (t.tick c).task.phase = (t.tick c).task.state.target.phase) := by
  rcases h.tick_cases c with ⟨-, ht, ha⟩ | ⟨-, -, -, ht, ha⟩ | ⟨-, -, ht, ha⟩
  · exact .inl ⟨ha, by rw [ht], by rw [ht]⟩
  · exact .inl ⟨ha, by rw [ht], by rw [ht]⟩
  · exact .inr ⟨by rw [ht, ha], by rw [ht]⟩

/-- A task walks exactly in the ticks of its warm-up. -/
theorem Sound.isWalk_iff {t : Task} (h : t.Sound) (c : Context) :
    (t.tick c).request.body.isWalk = true ↔ (t.tick c).task.phase = .warmup := by
  rw [Command.isWalk_eq, decide_eq_true_eq]
  rcases h.request_cases c with ⟨ha, hp, -⟩ | ⟨ha, hp⟩
  · simp [ha, hp]
  · simp [ha, hp]

/-- During an attempt the frames of the warm-up are counted, and the phase is that of the target. -/
theorem Sound.phase_eq {t : Task} (h : t.Sound)
    (hp : t.state.handshake = .triggered ∨ t.phase ≠ .warmup) :
    t.state.walkFrames = t.settings.walkFrames.toNat ∧ t.phase = t.state.target.phase :=
  h.attempting (hp.elim h.latched id)

/-- After any calls to a task with valid settings its parts fit together. No more frames are counted
than a warm-up has. A confirmation is never left over. While the task is latched, is in another phase
than the warm-up, or remembers a warning, it is attempting its target with the whole warm-up counted,
and the warning was of an action that has no place in the attempt. What the next tick asks for fits
to what the task is after it: it walks exactly in a warm-up, and then is not latched, and otherwise
asks for the target. The lamp has the colour of the phase, the turn is a number, and the hint is
given exactly for a ball at a known place that is nearer ahead than the threshold. -/
theorem calls_keep_consistent (s : Settings.Valid) (calls : List Call) :
    let t := (ofValid s).afterCalls calls
    (t.state.walkFrames ≤ s.1.walkFrames.toNat ∧
      t.state.handshake ≠ .confirmed ∧
      (t.state.handshake = .triggered →
        t.state.walkFrames = s.1.walkFrames.toNat ∧ t.phase = t.state.target.phase) ∧
      (t.phase ≠ .warmup →
        t.state.walkFrames = s.1.walkFrames.toNat ∧ t.phase = t.state.target.phase) ∧
      ∀ a, t.unexpected = some a → t.phase = t.state.target.phase ∧
        a ≠ .walk ∧ a ≠ .lineUp ∧ a ≠ t.state.target.action) ∧
    ∀ c : Context,
      let u := (t.tick c).task
      let r := (t.tick c).request
      (r.body.isWalk = true ↔ u.phase = .warmup) ∧
      (r.body.isWalk = false →
        r.body.action = u.state.target.action ∧ u.phase = u.state.target.phase) ∧
      (r.body.isWalk = true → u.state.handshake = .notTriggered) ∧
      r.indicator = some ⟨s.1.lamp, u.phase.colour⟩ ∧
      r.body.turn.isFinite = true ∧
      (r.hint = true ↔ ∃ p, c.sighting.position = some p ∧ p.x.isFinite = true ∧
        p.y.isFinite = true ∧ p.x.less s.1.threshold = true) := by
  intro t
  have hs : t.Sound := (sound_ofValid s).afterCalls calls
  have hset : t.settings = s.1 := afterCalls_settings (ofValid s) calls
  have hwarmup : t.warmup = s.1.walkFrames.toNat := congrArg (·.walkFrames.toNat) hset
  have hphase := fun hp => hs.phase_eq hp
  rw [hset] at hphase
  refine ⟨⟨hwarmup ▸ hs.counted, hs.unconfirmed, fun hl => hphase (.inl hl),
    fun hp => hphase (.inr hp), fun a ha => ?_⟩, fun c => ?_⟩
  · obtain ⟨hp, hend, hne⟩ := hs.warned a ha
    have hnot : ¬ (a = .walk ∨ a = .lineUp) := fun h => by
      rw [Action.endsBallAction_iff.2 h] at hend
      cases hend
    exact ⟨(hphase (.inr hp)).2, fun h => hnot (.inl h), fun h => hnot (.inr h), hne⟩
  · intro u r
    have hwalk : r.body.isWalk = true ↔ u.phase = .warmup := hs.isWalk_iff c
    have hindicator : r.indicator = some ⟨t.settings.lamp, u.phase.colour⟩ := rfl
    have hturn : r.body.turn = c.sighting.turn := decide_turn t c
    have hhint : r.hint = c.sighting.isNear t.settings.threshold := rfl
    rw [hset] at hindicator hhint
    refine ⟨hwalk, fun hb => ?_, fun hb => ?_, hindicator, ?_, ?_⟩
    · rcases hs.request_cases c with ⟨-, hp, -⟩ | hasked
      · rw [hwalk.2 hp] at hb
        cases hb
      · exact hasked
    · rcases hs.request_cases c with ⟨-, -, hlatch⟩ | ⟨-, hp⟩
      · exact hlatch
      · exact absurd (hp.symm.trans (hwalk.1 hb)) (Target.phase_ne_warmup _)
    · rw [hturn]
      exact c.sighting.turn_isFinite
    · rw [hhint]
      exact Sighting.isNear_iff

end Task

end Striker
