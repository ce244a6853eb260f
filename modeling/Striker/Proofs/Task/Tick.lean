/-
One tick of the task. A tick does one of three things: it counts a frame of the warm-up, it
completes an attempt, or it asks for the target once more. `tick_cases` says which of them happens,
and what the task is afterwards; everything about longer runs is derived from it. `Sound` is what
holds of a task between any two ticks.
-/
import Striker.Task.Alternate
import Mathlib.Tactic

namespace Striker

/-! ## Targets -/

namespace Target

/-- The target of the attempt that follows `n` completed ones: kick, dribble, kick, and so on. -/
def nth (n : Nat) : Target := if n % 2 = 0 then kick else dribble

@[simp] theorem nth_zero : nth 0 = kick := rfl

@[simp] theorem nth_succ (n : Nat) : nth (n + 1) = (nth n).other := by
  unfold nth
  rcases Nat.mod_two_eq_zero_or_one n with h | h
  · have h' : (n + 1) % 2 = 1 := by omega
    simp [h, h', other]
  · have h' : (n + 1) % 2 = 0 := by omega
    simp [h, h', other]

@[simp] theorem action_ne_walk (t : Target) : t.action ≠ .walk := by cases t <;> decide

@[simp] theorem action_ne_lineUp (t : Target) : t.action ≠ .lineUp := by cases t <;> decide

@[simp] theorem action_ne_none (t : Target) : t.action ≠ .none := by cases t <;> decide

@[simp] theorem isBallAction_action (t : Target) : t.action.isBallAction = true := by
  cases t <;> decide

@[simp] theorem action_inj {t u : Target} : t.action = u.action ↔ t = u := by
  cases t <;> cases u <;> decide

@[simp] theorem phase_ne_warmup (t : Target) : t.phase ≠ .warmup := by cases t <;> decide

@[simp] theorem command_action (t : Target) (x : Single) : (t.command x).action = t.action := by
  cases t <;> rfl

@[simp] theorem command_isWalk (t : Target) (x : Single) : (t.command x).isWalk = false := by
  cases t <;> rfl

end Target

/-- The ball actions are the actions of the two targets. -/
theorem Action.isBallAction_iff {a : Action} : a.isBallAction = true ↔ ∃ t : Target, a = t.action := by
  constructor
  · intro h
    simp only [isBallAction, Bool.or_eq_true, decide_eq_true_eq] at h
    rcases h with rfl | rfl
    exacts [⟨.kick, rfl⟩, ⟨.dribble, rfl⟩]
  · rintro ⟨t, rfl⟩; exact t.isBallAction_action

theorem Action.endsBallAction_iff {a : Action} :
    a.endsBallAction = true ↔ a = .walk ∨ a = .lineUp := by
  unfold endsBallAction; simp

@[simp] theorem Target.not_endsBallAction (t : Target) : t.action.endsBallAction = false := by
  cases t <;> decide

/-! ## Handshakes -/

/-- Only a triggered handshake becomes confirmed, and motion has to walk or line up for it. -/
theorem Handshake.check_eq_confirmed {h : Handshake} {a : Action} {t : Target} :
    h.check a t.action = .confirmed ↔
      h = .confirmed ∨ h = .triggered ∧ a.endsBallAction = true := by
  unfold check
  split
  · rename_i hc
    exact ⟨fun _ => .inr ⟨hc.1, hc.2.2⟩, fun _ => rfl⟩
  · rename_i hc
    refine ⟨.inl, fun hd => hd.resolve_right ?_⟩
    rintro ⟨h1, h2⟩
    refine hc ⟨h1, ?_, h2⟩
    rintro rfl
    simp at h2

/-- An observation triggers a handshake exactly when motion performs the target. -/
theorem Handshake.observe_eq_triggered {h : Handshake} {a : Action} {t : Target}
    (hc : h ≠ .confirmed) :
    h.observe a t.action = .triggered ↔ h = .triggered ∨ a = t.action := by
  unfold observe
  cases h <;> simp at hc ⊢

theorem Handshake.observe_of_ne {h : Handshake} {a t : Action} (ha : a ≠ t) : h.observe a t = h := by
  unfold observe
  exact if_neg fun hc => ha hc.2

theorem Handshake.observe_ne_confirmed {h : Handshake} {a t : Action} (hc : h ≠ .confirmed) :
    h.observe a t ≠ .confirmed := by
  unfold observe
  split
  · decide
  · exact hc

/-! ## The three kinds of tick -/

namespace Task

variable {t : Task} {c : Context}

/-- The length of the warm-up of a task. -/
def warmup (t : Task) : Nat := t.settings.walkFrames.toNat

@[simp] theorem tick_warmup (t : Task) (c : Context) : (t.tick c).task.warmup = t.warmup := rfl

/-- A tick of a warm-up. -/
theorem tick_warmUp (h : t.state.walkFrames < t.warmup) (c : Context) :
    (t.tick c).task =
        ⟨t.settings, ⟨t.state.walkFrames + 1, t.state.target, .notTriggered⟩, .warmup,
          t.unexpected⟩ ∧
      (t.tick c).request.body.action = .walk := by
  have hd : t.decide c = t.warmUp c := if_pos h
  simp only [tick, hd]
  exact ⟨rfl, rfl⟩

/-- The tick that completes an attempt. -/
theorem tick_complete (h : t.warmup ≤ t.state.walkFrames) (hs : t.state.handshake = .triggered)
    (ha : c.active.endsBallAction = true) :
    (t.tick c).task =
        ⟨t.settings, ⟨0, t.state.target.other, .notTriggered⟩, .warmup, none⟩ ∧
      (t.tick c).request.body.action = .walk := by
  have hd : t.decide c = t.complete c := by
    unfold decide
    rw [if_neg (by unfold warmup at h; omega), if_pos (Handshake.check_eq_confirmed.2 (.inr ⟨hs, ha⟩))]
  simp only [tick, hd]
  exact ⟨rfl, rfl⟩

/-- A tick of an attempt that goes on. -/
theorem tick_attempt (h : t.warmup ≤ t.state.walkFrames) (hu : t.state.handshake ≠ .confirmed)
    (hn : ¬ (t.state.handshake = .triggered ∧ c.active.endsBallAction = true)) :
    (t.tick c).task =
        ⟨t.settings,
          ⟨t.state.walkFrames, t.state.target,
            t.state.handshake.observe c.active t.state.target.action⟩,
          t.state.target.phase,
          if isUnexpected t.state.target.action c then some c.active else none⟩ ∧
      (t.tick c).request.body.action = t.state.target.action := by
  have hd : t.decide c = t.attempt c := by
    unfold decide
    rw [if_neg (by unfold warmup at h; omega), if_neg]
    rw [Handshake.check_eq_confirmed]
    rintro (hc | hc)
    exacts [hu hc, hn hc]
  simp only [tick, hd]
  refine ⟨?_, by simp [attempt]⟩
  simp [attempt, phaseOf]

/-! ## What holds between ticks -/

/-- What holds of a task between any two ticks: the warm-up is counted no further than its length,
no confirmation is left over, and the task is latched, or has warned, only during an attempt. -/
structure Sound (t : Task) : Prop where
  counted : t.state.walkFrames ≤ t.warmup
  unconfirmed : t.state.handshake ≠ .confirmed
  latched : t.state.handshake = .triggered → t.phase ≠ .warmup
  attempting : t.phase ≠ .warmup → t.state.walkFrames = t.warmup ∧ t.phase = t.state.target.phase
  warned : ∀ a, t.unexpected = some a →
    t.phase ≠ .warmup ∧ a.endsBallAction = false ∧ a ≠ t.state.target.action

theorem sound_init (t : Task) : t.init.Sound :=
  ⟨Nat.zero_le _, by simp [init, State.initial], by simp [init, State.initial], by simp [init], by simp [init]⟩

/-- The three kinds of tick: a frame of the warm-up, the completion of an attempt, and an attempt
that goes on. -/
theorem Sound.tick_cases (h : t.Sound) (c : Context) :
    (t.state.walkFrames < t.warmup ∧
      (t.tick c).task =
        ⟨t.settings, ⟨t.state.walkFrames + 1, t.state.target, .notTriggered⟩, .warmup,
          t.unexpected⟩ ∧
      (t.tick c).request.body.action = .walk) ∨
    (t.state.walkFrames = t.warmup ∧ t.state.handshake = .triggered ∧
      c.active.endsBallAction = true ∧
      (t.tick c).task =
        ⟨t.settings, ⟨0, t.state.target.other, .notTriggered⟩, .warmup, none⟩ ∧
      (t.tick c).request.body.action = .walk) ∨
    (t.state.walkFrames = t.warmup ∧
      ¬ (t.state.handshake = .triggered ∧ c.active.endsBallAction = true) ∧
      (t.tick c).task =
        ⟨t.settings,
          ⟨t.state.walkFrames, t.state.target,
            t.state.handshake.observe c.active t.state.target.action⟩,
          t.state.target.phase,
          if isUnexpected t.state.target.action c then some c.active else none⟩ ∧
      (t.tick c).request.body.action = t.state.target.action) := by
  rcases Nat.lt_or_ge t.state.walkFrames t.warmup with hw | hw
  · exact .inl ⟨hw, tick_warmUp hw c⟩
  · have heq : t.state.walkFrames = t.warmup := Nat.le_antisymm h.counted hw
    by_cases hc : t.state.handshake = .triggered ∧ c.active.endsBallAction = true
    · exact .inr (.inl ⟨heq, hc.1, hc.2, tick_complete hw hc.1 hc.2⟩)
    · exact .inr (.inr ⟨heq, hc, tick_attempt hw h.unconfirmed hc⟩)

/-- What a sound task decides in each of them. -/
theorem Sound.decide_cases (h : t.Sound) (c : Context) :
    (t.state.walkFrames < t.warmup ∧ t.decide c = t.warmUp c) ∨
    (t.state.walkFrames = t.warmup ∧ t.state.handshake = .triggered ∧
      c.active.endsBallAction = true ∧ t.decide c = t.complete c) ∨
    (t.state.walkFrames = t.warmup ∧
      ¬ (t.state.handshake = .triggered ∧ c.active.endsBallAction = true) ∧
      t.decide c = t.attempt c) := by
  rcases Nat.lt_or_ge t.state.walkFrames t.warmup with hw | hw
  · exact .inl ⟨hw, if_pos hw⟩
  · have heq : t.state.walkFrames = t.warmup := Nat.le_antisymm h.counted hw
    have hcheck : t.state.handshake.check c.active t.state.target.action = .confirmed ↔
        t.state.handshake = .triggered ∧ c.active.endsBallAction = true := by
      rw [Handshake.check_eq_confirmed, or_iff_right h.unconfirmed]
    have hd : t.decide c = if t.state.handshake.check c.active t.state.target.action = .confirmed
        then t.complete c else t.attempt c := if_neg (Nat.not_lt.2 hw)
    by_cases hc : t.state.handshake = .triggered ∧ c.active.endsBallAction = true
    · exact .inr (.inl ⟨heq, hc.1, hc.2, hd.trans (if_pos (hcheck.2 hc))⟩)
    · exact .inr (.inr ⟨heq, hc, hd.trans (if_neg (mt hcheck.1 hc))⟩)

/-- A tick keeps a task sound, whatever it reads. -/
theorem Sound.tick (h : t.Sound) (c : Context) : (t.tick c).task.Sound := by
  rcases h.tick_cases c with ⟨hw, ht, -⟩ | ⟨hw, -, -, ht, -⟩ | ⟨hw, -, ht, -⟩
  · -- a warning is left from an attempt only, and the attempt had counted the whole warm-up
    have hn : t.unexpected = none := by
      cases hu : t.unexpected with
      | none => rfl
      | some a => have := (h.attempting (h.warned a hu).1).1; omega
    rw [ht]
    refine ⟨hw, by simp, by simp, by simp, ?_⟩
    intro a ha
    simp [hn] at ha
  · rw [ht]
    exact ⟨Nat.zero_le _, by simp, by simp, by simp, by simp⟩
  · rw [ht]
    refine ⟨h.counted, Handshake.observe_ne_confirmed h.unconfirmed, by simp, fun _ => ⟨hw, rfl⟩, ?_⟩
    rintro a ha
    obtain ⟨hc, rfl⟩ : isUnexpected t.state.target.action c = true ∧ c.active = a := by
      simpa using ha
    simp only [isUnexpected, Bool.and_eq_true, Bool.not_eq_true', decide_eq_true_eq] at hc
    exact ⟨by simp, hc.1.1, hc.1.2⟩

end Task

end Striker
