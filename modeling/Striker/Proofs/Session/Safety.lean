/-
Safety of the handshake between the task and motion, for every order and rate of the moves of a
session. Over all activations, attempts are never completed more often than motion has carried a
ball action through: a latched attempt stands for an action that is still performed, or for one that
was carried through and is credited to nobody yet. In the first activation the two go in lockstep:
motion carries through kicks and dribbles in turn, at most one of them is not completed yet, and a
ball action is pursued only while it is the one asked for.
-/
import Striker.Proofs.Session.Basic

namespace Striker.Session

/-! ## Completions are covered by actions -/

/-- No more attempts are completed than actions carried through, and a latched attempt has an action
of its own: one that is still performed, or one that is carried through and not yet credited. -/
structure Credited (s : Session) : Prop where
  covered : s.completed ≤ s.motion.performed
  latched : s.runner.task.state.handshake = .triggered →
    s.completed < s.motion.performed ∨
      ∃ left, s.motion.stage = .performing s.runner.task.state.target.action left

theorem Credited.tick {s : Session} (h : s.Credited) (hl : s.Linked) : (s.step .tick).Credited := by
  rw [step_tick]
  rcases hl.runner.tick_cases s.board with
    ⟨-, ht, -, -, hc⟩ | ⟨-, hlatch, hend, ht, -, -, hc⟩ | ⟨-, -, ht, -, -, hc⟩
  · exact ⟨by simpa only [completed, hc] using h.covered, by simp [ht]⟩
  · -- the action of the latched attempt is over, since motion shows that it has ended
    refine ⟨?_, by simp [ht]⟩
    rcases h.latched hlatch with hlt | ⟨left, hs⟩
    · simp only [completed, hc] at hlt ⊢; omega
    · rw [(hl.not_ended hs).2] at hend; cases hend
  · refine ⟨by simpa only [completed, hc] using h.covered, ?_⟩
    simp only [ht, completed, hc]
    intro hobs
    rcases (Handshake.observe_eq_triggered hl.runner.task.unconfirmed).1 hobs with hlatch | ha
    · exact h.latched hlatch
    · exact .inr (hl.performing ha)

theorem Credited.update {s : Session} (h : s.Credited) : (s.step .update).Credited := by
  have hp := performed_update s
  refine ⟨by rw [completed_update, hp]; exact Nat.le_add_right_of_le h.covered, fun hlatch => ?_⟩
  rw [completed_update, hp]
  rcases h.latched hlatch with hlt | ⟨left, hs⟩
  · exact .inl (Nat.lt_add_right _ hlt)
  · by_cases hone : left ≤ 1
    · have hcarries : s.motion.carries = [s.runner.task.state.target.action] := by
        simp [Motion.carries, hs, hone]
      rw [hcarries]
      exact .inl (Nat.lt_succ_of_le h.covered)
    · refine .inr ⟨left - 1, ?_⟩
      rw [step_update]
      simp [Motion.step_stage, Motion.next, hs, hone]

theorem Credited.step {s : Session} (h : s.Credited) (hl : s.Linked) (m : Move) :
    (s.step m).Credited := by
  cases m with
  | tick => exact h.tick hl
  | update => exact h.update
  | perceive g => exact ⟨h.covered, h.latched⟩
  | activate settings => exact ⟨h.covered, by intro hlatch; cases hlatch⟩

theorem credited_start (settings : Settings.Valid) (lineup length : Nat) :
    (start settings lineup length).Credited :=
  ⟨Nat.le_refl 0, by intro hlatch; cases hlatch⟩

theorem credited_run (settings : Settings.Valid) (lineup length : Nat) (moves : List Move) :
    ((start settings lineup length).run moves).Credited := by
  have h : ((start settings lineup length).run moves).Linked ∧
      ((start settings lineup length).run moves).Credited :=
    run_invariant (P := fun s => s.Linked ∧ s.Credited)
      (fun _ m _ hs => ⟨hs.1.step m, hs.2.step hs.1 m⟩)
      ⟨linked_start settings lineup length, credited_start settings lineup length⟩
  exact h.2

/-! ## Lockstep of the first activation -/

/-- The first `n` ball actions: kick, dribble, kick, and so on. -/
def alternating (n : Nat) : List Action := (List.range n).map fun k => (Target.nth k).action

theorem alternating_succ (n : Nat) : alternating (n + 1) = alternating n ++ [(Target.nth n).action] := by
  simp [alternating, List.range_succ]

/-- The first activation in step with motion. Its target is the one that comes after the completed
attempts, the board holds its last request, and motion has carried through the targets in turn: as
many as are completed, or one more that waits, finished, for its completion. What motion pursues is
the target, in an attempt that is going on. -/
structure Lockstep (s : Session) : Prop where
  target : s.runner.task.state.target = .nth s.completed
  walking : s.runner.task.phase = .warmup → s.board.request.body.action = .walk
  asking : s.runner.task.phase ≠ .warmup →
    s.board.request.body.action = s.runner.task.state.target.action
  carried : s.carried = alternating s.motion.performed
  credit : s.motion.performed = s.completed ∨
    s.motion.performed = s.completed + 1 ∧ s.motion.stage = .finished ∧
      s.runner.task.phase ≠ .warmup
  pursued : ∀ a, s.motion.stage.pursued = some a →
    a = s.runner.task.state.target.action ∧ s.runner.task.phase ≠ .warmup

theorem lockstep_start (settings : Settings.Valid) (lineup length : Nat) :
    (start settings lineup length).Lockstep :=
  ⟨rfl, fun _ => rfl, fun h => absurd rfl h, rfl, .inl rfl, by nofun⟩

/-- During the warm-up of the first activation every action is completed, and none is pursued. -/
theorem Lockstep.idle {s : Session} (h : s.Lockstep) (hp : s.runner.task.phase = .warmup) :
    s.motion.performed = s.completed ∧ s.motion.stage.pursued = none := by
  constructor
  · exact h.credit.resolve_right fun hc => hc.2.2 hp
  · rw [Option.eq_none_iff_forall_ne_some]
    exact fun a ha => (h.pursued a ha).2 hp

/-- The attempt that a tick completes is the one whose action motion has finished. -/
theorem Lockstep.finished {s : Session} (h : s.Lockstep) (hc : s.Credited) (hl : s.Linked)
    (hlatch : s.runner.task.state.handshake = .triggered)
    (hend : s.board.active.endsBallAction = true) :
    s.motion.performed = s.completed + 1 ∧ s.motion.stage = .finished := by
  rcases hc.latched hlatch with hlt | ⟨left, hs⟩
  · rcases h.credit with heq | ⟨hp, hs, -⟩
    · omega
    · exact ⟨hp, hs⟩
  · rw [(hl.not_ended hs).2] at hend; cases hend

theorem Lockstep.tick {s : Session} (h : s.Lockstep) (hc : s.Credited) (hl : s.Linked) :
    (s.step .tick).Lockstep := by
  rcases hl.runner.tick_cases s.board with
    ⟨hw, ht, hp, ha, hsum⟩ | ⟨-, hlatch, hend, ht, hp, ha, hsum⟩ | ⟨-, -, ht, hp, ha, hsum⟩
  · -- an attempt that is going on would have counted the whole warm-up
    have hphase : s.runner.task.phase = .warmup := by
      by_contra hn
      have := (hl.runner.task.attempting hn).1
      omega
    obtain ⟨hperformed, hpursued⟩ := h.idle hphase
    have hcompleted : (s.step .tick).completed = s.completed := by
      rw [step_tick]; simp only [completed, hsum]
    refine ⟨?_, fun _ => ha, fun hn => absurd hp hn, h.carried, .inl ?_, fun a hs => ?_⟩
    · rw [hcompleted, ← h.target, step_tick, ht]
    · exact hperformed.trans hcompleted.symm
    · cases hpursued.symm.trans hs
  · -- the action that was waiting is completed now, and the next target is up
    obtain ⟨hperformed, hstage⟩ := h.finished hc hl hlatch hend
    have hcompleted : (s.step .tick).completed = s.completed + 1 := by
      rw [step_tick]; simp only [completed, hsum]; omega
    refine ⟨?_, fun _ => ha, fun hn => absurd hp hn, h.carried, .inl ?_, fun a hs => ?_⟩
    · rw [hcompleted, Target.nth_succ, ← h.target, step_tick, ht]
    · exact hperformed.trans hcompleted.symm
    · rw [show (s.step .tick).motion.stage = .finished from hstage] at hs
      cases hs
  · have hcompleted : (s.step .tick).completed = s.completed := by
      rw [step_tick]; simp only [completed, hsum]
    have htarget : (s.step .tick).runner.task.state.target = s.runner.task.state.target := by
      rw [step_tick, ht]
    have hphase : (s.step .tick).runner.task.phase ≠ .warmup := by
      rw [step_tick, hp]; exact Target.phase_ne_warmup _
    refine ⟨?_, fun hn => absurd hn hphase, fun _ => ?_, h.carried, ?_, fun a hs => ⟨?_, hphase⟩⟩
    · rw [hcompleted, htarget, h.target]
    · rw [htarget]; exact ha
    · rw [hcompleted]
      exact h.credit.imp id fun hc => ⟨hc.1, hc.2.1, hphase⟩
    · rw [htarget]; exact (h.pursued a hs).1

/-- While motion pursues a ball action, that is the next target in turn, and the one asked for. -/
theorem Lockstep.next_in_turn {s : Session} (h : s.Lockstep) {a : Action}
    (ha : s.motion.stage.pursued = some a) :
    a = (Target.nth s.motion.performed).action ∧ s.board.request.body.action = a := by
  obtain ⟨rfl, hphase⟩ := h.pursued a ha
  have hperformed : s.motion.performed = s.completed := by
    refine h.credit.resolve_right fun hc => ?_
    rw [hc.2.1] at ha
    cases ha
  rw [hperformed, ← h.target]
  exact ⟨rfl, h.asking hphase⟩

/-- What an update carries through is the next target in turn. -/
theorem Lockstep.carries {s : Session} (h : s.Lockstep) :
    s.carried ++ s.motion.carries = alternating (s.step .update).motion.performed := by
  rw [performed_update, h.carried]
  unfold Motion.carries
  cases hs : s.motion.stage with
  | performing a left =>
    by_cases hl : left ≤ 1
    · have ha := (h.next_in_turn (by rw [hs]; rfl)).1
      simp [hl, ha, alternating_succ]
    · simp [hl]
  | _ => simp

/-- Motion does not leave a line-up before it performs. -/
theorem Lockstep.line_up {s : Session} (h : s.Lockstep) {a : Action} {left : Nat}
    (hs : s.motion.stage = .liningUp a left) :
    (s.step .update).motion.stage = .liningUp a (left - 1) ∨
      (s.step .update).motion.stage = .performing a s.motion.length := by
  rw [step_update, (h.next_in_turn (by rw [hs]; rfl)).2, Motion.liningUp_step hs]
  split
  · exact .inr rfl
  · exact .inl rfl

/-- An update carries through an action of the attempt that is going on, or none. In the latter case
an action that waits for its completion still does, since the target is still asked for. -/
theorem Lockstep.credit_update {s : Session} (h : s.Lockstep) :
    (s.step .update).motion.performed = s.completed ∨
      (s.step .update).motion.performed = s.completed + 1 ∧
        (s.step .update).motion.stage = .finished ∧ s.runner.task.phase ≠ .warmup := by
  rw [performed_update]
  rcases h.credit with heq | ⟨heq, hstage, hphase⟩
  · rcases hc : s.motion.carries with _ | ⟨a, rest⟩
    · exact .inl heq
    · obtain ⟨left, hs, hleft, rfl⟩ := Motion.carries_eq_cons hc
      refine .inr ⟨by rw [heq]; rfl, ?_, (h.pursued a (by rw [hs]; rfl)).2⟩
      rw [step_update, Motion.performing_step hs, if_pos hleft]
  · have hc : s.motion.carries = [] := by simp [Motion.carries, hstage]
    refine .inr ⟨by rw [hc, heq]; rfl, ?_, hphase⟩
    rw [step_update, h.asking hphase]
    exact Motion.finished_step hstage _

/-- What motion takes up at an update is asked for in the attempt that is going on. -/
theorem Lockstep.pursued_update {s : Session} (h : s.Lockstep) {a : Action}
    (ha : (s.step .update).motion.stage.pursued = some a) :
    a = s.runner.task.state.target.action ∧ s.runner.task.phase ≠ .warmup := by
  rcases Motion.pursued_step ha with hs | ⟨-, hball, rfl⟩
  · exact h.pursued a hs
  · have hphase : s.runner.task.phase ≠ .warmup := by
      intro hp
      rw [h.walking hp] at hball
      cases hball
    exact ⟨h.asking hphase, hphase⟩

theorem Lockstep.step {s : Session} (h : s.Lockstep) (hc : s.Credited) (hl : s.Linked) {m : Move}
    (hm : m.replaces = false) : (s.step m).Lockstep := by
  cases m with
  | tick => exact h.tick hc hl
  | update =>
    exact ⟨h.target, h.walking, h.asking, h.carries, h.credit_update, fun _ => h.pursued_update⟩
  | perceive g => exact ⟨h.target, h.walking, h.asking, h.carried, h.credit, h.pursued⟩
  | activate settings => cases hm

theorem lockstep_run (settings : Settings.Valid) (lineup length : Nat) {moves : List Move}
    (hm : ∀ m ∈ moves, m.replaces = false) :
    ((start settings lineup length).run moves).Lockstep := by
  have h : ((start settings lineup length).run moves).Linked ∧
      ((start settings lineup length).run moves).Credited ∧
      ((start settings lineup length).run moves).Lockstep :=
    run_invariant (P := fun s => s.Linked ∧ s.Credited ∧ s.Lockstep)
      (fun _ m hmem ⟨hl, hc, h⟩ => ⟨hl.step m, hc.step hl m, h.step hc hl (hm m hmem)⟩)
      ⟨linked_start settings lineup length, credited_start settings lineup length,
        lockstep_start settings lineup length⟩
  exact h.2.2

/-- Motion has carried through at most one action that is not completed yet. -/
theorem Lockstep.performed_le {s : Session} (h : s.Lockstep) :
    s.motion.performed ≤ s.completed + 1 := by
  rcases h.credit with heq | ⟨heq, -⟩ <;> omega

/-! ## Safety -/

/-- After any moves, in any order, no more attempts are completed over all activations than motion
has carried ball actions through. As long as the first activation is not replaced, at most one
action is not completed yet, the actions are kicks and dribbles in turn, and whatever motion lines
up for or performs is the next of them and the action that is published, so that no line-up is
given up. -/
theorem handshake_safe (settings : Settings.Valid) (lineup length : Nat) (moves : List Move) :
    let s := (start settings lineup length).run moves
    s.completed ≤ s.motion.performed ∧
    ((∀ m ∈ moves, m.replaces = false) →
      s.motion.performed ≤ s.completed + 1 ∧
      s.carried = alternating s.motion.performed ∧
      (∀ a, s.motion.stage.pursued = some a →
        a = (Target.nth s.motion.performed).action ∧ s.board.request.body.action = a) ∧
      ∀ a left, s.motion.stage = .liningUp a left →
        (s.step .update).motion.stage = .liningUp a (left - 1) ∨
          (s.step .update).motion.stage = .performing a s.motion.length) := by
  refine ⟨(credited_run settings lineup length moves).covered, fun hm => ?_⟩
  have h := lockstep_run settings lineup length hm
  exact ⟨h.performed_le, h.carried, fun _ => h.next_in_turn, fun _ _ => h.line_up⟩

end Striker.Session
