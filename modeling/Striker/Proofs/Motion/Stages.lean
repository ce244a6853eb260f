/-
The stages of scripted motion. A ball action is performed for at least one frame, nothing but ball
actions is pursued, and the last frame of one is what raises the number of performed actions.
-/
import Striker.Motion
import Striker.Proofs.Task.Tick

namespace Striker

/-- The ball action that a stage lines up for or performs. -/
def Stage.pursued : Stage → Option Action
  | walking => none
  | liningUp action _ => some action
  | performing action _ => some action
  | finished => none

/-- The frames left of the ball action that is performed. -/
def Stage.left : Stage → Nat
  | performing _ left => left
  | _ => 0

/-- The updates that motion needs from a stage to the end of the ball action that it is asked for. -/
def Stage.work (lineup length : Nat) : Stage → Nat
  | walking => lineup + length + 1
  | liningUp _ left => max left 1 + length
  | performing _ left => max left 1
  | finished => 0

theorem Stage.finished_of_work {lineup length : Nat} {stage : Stage}
    (h : stage.work lineup length = 0) : stage = .finished := by
  cases stage with
  | finished => rfl
  | _ => simp only [work] at h; omega

namespace Motion

variable {m : Motion}

/-- The ball action, if any, that the next frame carries through to the end. -/
def carries (m : Motion) : List Action :=
  match m.stage with
  | .performing action left => if left ≤ 1 then [action] else []
  | _ => []

theorem carries_eq_cons {a : Action} {rest : List Action} (h : m.carries = a :: rest) :
    ∃ left, m.stage = .performing a left ∧ left ≤ 1 ∧ rest = [] := by
  unfold carries at h
  cases hs : m.stage with
  | performing b left =>
    simp only [hs] at h
    split at h <;> cases h
    exact ⟨left, rfl, ‹_›, rfl⟩
  | _ => simp only [hs] at h; cases h

theorem step_performed (m : Motion) (a : Action) :
    (m.step a).performed = m.performed + m.carries.length := by
  unfold step completes carries
  cases m.stage with
  | performing action left => by_cases h : left ≤ 1 <;> simp [h]
  | _ => simp

/-! ## The stage after an update -/

theorem step_stage (m : Motion) (a : Action) : (m.step a).stage = m.next a := rfl

/-- A ball action that is performed goes on whatever is requested. -/
theorem performing_step {b : Action} {left : Nat} (hs : m.stage = .performing b left) (a : Action) :
    (m.step a).stage = if left ≤ 1 then .finished else .performing b (left - 1) := by
  simp only [step_stage, next, hs]

theorem performing_step_left {b : Action} {left : Nat} (hs : m.stage = .performing b left)
    (a : Action) : (m.step a).stage.left = left - 1 := by
  rw [performing_step hs]
  split
  · exact (Nat.sub_eq_zero_of_le ‹_›).symm
  · rfl

theorem walking_step (hs : m.stage = .walking) (t : Target) :
    (m.step t.action).stage = m.begin t.action := by
  simp [step_stage, next, hs]

theorem liningUp_step {a : Action} {left : Nat} (hs : m.stage = .liningUp a left) :
    (m.step a).stage = if left ≤ 1 then .performing a m.length else .liningUp a (left - 1) := by
  simp [step_stage, next, hs]

theorem finished_step (hs : m.stage = .finished) (t : Target) :
    (m.step t.action).stage = .finished := by
  simp [step_stage, next, hs]

theorem begin_cases (m : Motion) (a : Action) :
    (∃ left, m.begin a = .liningUp a left) ∨ m.begin a = .performing a m.length := by
  unfold begin
  split
  · exact .inl ⟨_, rfl⟩
  · exact .inr rfl

theorem pursued_begin (m : Motion) (a : Action) : (m.begin a).pursued = some a := by
  rcases m.begin_cases a with ⟨left, h⟩ | h <;> rw [h] <;> rfl

/-- Motion takes up a ball action only when it walks and the action is requested. -/
theorem pursued_step {a b : Action} (h : (m.step a).stage.pursued = some b) :
    m.stage.pursued = some b ∨ m.stage = .walking ∧ a.isBallAction = true ∧ b = a := by
  rw [step_stage] at h
  unfold next at h
  cases hs : m.stage with
  | walking =>
    simp only [hs] at h
    split at h
    · rename_i ha
      rw [pursued_begin] at h
      exact .inr ⟨rfl, ha, (Option.some.inj h).symm⟩
    · cases h
  | liningUp c left =>
    simp only [hs] at h
    split at h
    · cases h
    · split at h <;> exact .inl h
  | performing c left =>
    simp only [hs] at h
    split at h
    · cases h
    · exact .inl h
  | finished =>
    simp only [hs] at h
    split at h <;> cases h

/-- An action that is performed after an update has all its frames left, or had one more before. -/
theorem performing_of_step {a b : Action} {left : Nat} (h : (m.step a).stage = .performing b left) :
    left = m.length ∨ 1 ≤ left ∧ m.stage = .performing b (left + 1) := by
  rw [step_stage] at h
  unfold next at h
  cases hs : m.stage with
  | walking =>
    simp only [hs] at h
    split at h
    · rcases m.begin_cases a with ⟨l, hb⟩ | hb <;> rw [hb] at h <;> cases h
      exact .inl rfl
    · cases h
  | liningUp c l =>
    simp only [hs] at h
    split at h
    · cases h
    · split at h <;> cases h
      exact .inl rfl
  | performing c l =>
    simp only [hs] at h
    split at h
    · cases h
    · cases h
      exact .inr ⟨by omega, by congr 1; omega⟩
  | finished =>
    simp only [hs] at h
    split at h <;> cases h

/-! ## What holds between updates -/

/-- What holds of motion between any two frames: only ball actions are pursued, and there is at
least one frame left of an action that is performed. -/
structure Sound (m : Motion) : Prop where
  length_pos : 1 ≤ m.length
  pursued : ∀ a, m.stage.pursued = some a → ∃ t : Target, a = t.action
  left_pos : ∀ a left, m.stage = .performing a left → 1 ≤ left

theorem sound_start (lineup length : Nat) : (start lineup length).Sound :=
  ⟨Nat.le_max_right length 1, by simp [start, Stage.pursued], by simp [start]⟩

theorem Sound.step (h : m.Sound) (a : Action) : (m.step a).Sound := by
  refine ⟨h.length_pos, fun b hb => ?_, fun b left hl => ?_⟩
  · rcases pursued_step hb with hp | ⟨-, ha, rfl⟩
    · exact h.pursued b hp
    · exact Action.isBallAction_iff.1 ha
  · rcases performing_of_step hl with rfl | ⟨hleft, -⟩
    · exact h.length_pos
    · exact hleft

/-- Motion walks when it is asked to, unless it performs a ball action. -/
theorem Sound.step_walk (h : m.Sound) (hp : ∀ a left, m.stage ≠ .performing a left) :
    (m.step .walk).stage = .walking := by
  rw [step_stage]
  unfold next
  cases hs : m.stage with
  | walking => exact if_neg (by decide)
  | liningUp a left =>
    obtain ⟨t, rfl⟩ := h.pursued a (by rw [hs]; rfl)
    exact if_pos t.action_ne_walk.symm
  | performing a left => exact absurd hs (hp a left)
  | finished => exact if_pos rfl

/-- Motion reports a target exactly while it performs it. -/
theorem report_eq_target {t : Target} (h : m.report = t.action) :
    ∃ left, m.stage = .performing t.action left := by
  unfold report at h
  cases hs : m.stage with
  | walking => rw [hs] at h; exact absurd h.symm t.action_ne_walk
  | liningUp a left => rw [hs] at h; exact absurd h.symm t.action_ne_lineUp
  | performing a left => rw [hs] at h; exact ⟨left, by rw [← h]; rfl⟩
  | finished => rw [hs] at h; exact absurd h.symm t.action_ne_walk

/-- While motion performs a ball action it does not report that one has ended. -/
theorem Sound.report_performing (h : m.Sound) {a : Action} {left : Nat}
    (hs : m.stage = .performing a left) : m.report = a ∧ a.endsBallAction = false := by
  obtain ⟨t, rfl⟩ := h.pursued a (by rw [hs]; rfl)
  refine ⟨by unfold report; rw [hs]; rfl, t.not_endsBallAction⟩

/-! ## The work that is left -/

/-- Every update does some of the work, as long as motion is asked for what it pursues. -/
theorem Sound.work_step (h : m.Sound) {t : Target}
    (ht : ∀ a, m.stage.pursued = some a → a = t.action) :
    (m.step t.action).stage.work m.lineup m.length = m.stage.work m.lineup m.length - 1 := by
  have hlength := h.length_pos
  cases hs : m.stage with
  | walking =>
    rw [walking_step hs]
    unfold begin
    split <;> simp only [Stage.work] <;> omega
  | liningUp a left =>
    obtain rfl := ht a (by rw [hs]; rfl)
    rw [liningUp_step hs]
    split <;> simp only [Stage.work] <;> omega
  | performing a left =>
    rw [performing_step hs]
    split <;> simp only [Stage.work] <;> omega
  | finished =>
    rw [finished_step hs]
    rfl

end Motion

end Striker
