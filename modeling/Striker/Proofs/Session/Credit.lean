/-
Credit for ball actions. An activation takes an action for its own when motion starts it during an
attempt. As long as nothing is left of an earlier activation, it completes no more attempts than
motion has started actions for it. But motion does not give up an action that it performs, and the
task cannot tell a kick that was asked for by the activation before from one of its own: a kick that
outlasts the new warm-up is taken over, and completed though no action was started for it.

The accounts are kept by one law: what an activation has completed, together with the action that it
still owes a completion to, grows exactly by the actions that motion starts.
-/
import Striker.Proofs.Session.Deadlock

namespace Striker.Session

/-! ## Actions that are taken up -/

/-- One if motion stops walking in a frame, to start a ball action. -/
def startsIn (s : Session) (g : Sighting) : Nat :=
  if s.motion.stage = .walking ∧ (s.frame g).motion.stage ≠ .walking then 1 else 0

/-- How often motion starts a ball action during frames with these sightings. -/
def starts (s : Session) : List Sighting → Nat
  | [] => 0
  | g :: gs => s.startsIn g + (s.frame g).starts gs

/-- Whether the activation has an action, started or taken over, that it has not completed yet. What
motion pursues is one unless the warm-up is still going to end it; a finished action is one if the
activation has seen it. -/
def owed (s : Session) : Nat :=
  match s.motion.stage with
  | .walking => 0
  | .liningUp _ _ => if s.remaining = 0 then 1 else 0
  | .performing _ left => if s.remaining < left then 1 else 0
  | .finished => if s.runner.task.state.handshake = .triggered then 1 else 0

section

variable {s : Session} {a : Action} {left : Nat}

theorem owed_walking (hs : s.motion.stage = .walking) : s.owed = 0 := by
  unfold owed
  rw [hs]

theorem owed_liningUp (hs : s.motion.stage = .liningUp a left) :
    s.owed = if s.remaining = 0 then 1 else 0 := by
  unfold owed
  rw [hs]

theorem owed_performing (hs : s.motion.stage = .performing a left) :
    s.owed = if s.remaining < left then 1 else 0 := by
  unfold owed
  rw [hs]

theorem owed_finished (hs : s.motion.stage = .finished) :
    s.owed = if s.runner.task.state.handshake = .triggered then 1 else 0 := by
  unfold owed
  rw [hs]

theorem owed_le_one (s : Session) : s.owed ≤ 1 := by
  unfold owed
  split
  · exact Nat.zero_le 1
  all_goals split <;> decide

end

/-- The attempts that the activation has completed, and the action that it owes a completion to. -/
def taken (s : Session) : Nat := s.runner.summary.completed + s.owed

theorem Linked.not_latched {s : Session} (h : s.Linked) (hpos : 0 < s.remaining) :
    s.runner.task.state.handshake ≠ .triggered := by
  intro hlatch
  have hfull := (h.runner.task.attempting (h.runner.task.latched hlatch)).1
  unfold remaining at hpos
  omega

/-- Asked to walk, motion walks on. -/
theorem Linked.step_walk_of_walking {s : Session} (h : s.Linked) (hs : s.motion.stage = .walking) :
    (s.motion.step .walk).stage = .walking := by
  refine h.motion.step_walk fun a left hp => ?_
  rw [hs] at hp
  cases hp

/-- Asked to walk when the board shows that the action has ended, motion walks. -/
theorem Linked.step_walk_of_ended {s : Session} (h : s.Linked)
    (hend : s.board.active.endsBallAction = true) : (s.motion.step .walk).stage = .walking := by
  refine h.motion.step_walk fun a left hp => ?_
  rw [(h.not_ended hp).2] at hend
  cases hend

/-- A frame completes an attempt exactly if the attempt is latched and motion has ended the action. -/
theorem Linked.completed_frame {s : Session} (h : s.Linked) (g : Sighting) :
    (s.frame g).runner.summary.completed = s.runner.summary.completed +
      if s.runner.task.state.handshake = .triggered ∧ s.board.active.endsBallAction = true
        then 1 else 0 := by
  rcases (h.step (.perceive g)).runner.tick_cases (s.step (.perceive g)).board with
    ⟨hw, -, -, -, (hc : (s.frame g).runner.summary.completed = _)⟩ |
    ⟨-, hlatch, hend, -, -, -, (hc : (s.frame g).runner.summary.completed = _)⟩ |
    ⟨-, (hn : ¬ (s.runner.task.state.handshake = .triggered ∧ s.board.active.endsBallAction = true)),
      -, -, -, (hc : (s.frame g).runner.summary.completed = _)⟩
  · have hopen := h.not_latched (Nat.sub_pos_of_lt hw)
    rw [hc, if_neg fun hl => hopen hl.1]
    rfl
  · rw [hc]
    exact congrArg _ (if_pos ⟨hlatch, hend⟩).symm
  · rw [hc, if_neg hn]
    rfl

/-! ## The law of an activation that goes on -/

/-- An activation that is not going to get stuck, and whose latch stands for an action. -/
structure Creditable (s : Session) : Prop where
  flowing : s.Flowing
  latched : s.runner.task.state.handshake = .triggered → s.owed = 1

/-- A frame of the warm-up leaves what is owed as it is: it ends a line-up, and takes one from an
action that is performed. -/
theorem Linked.owed_warm_up {s s' : Session} (h : s.Linked) (hpos : 0 < s.remaining)
    (hr : s'.remaining = s.remaining - 1) (hu : s'.runner.task.state.handshake = .notTriggered)
    (hm : s'.motion = s.motion.step .walk) : s'.owed = s.owed := by
  have hopen := h.not_latched hpos
  by_cases hp : ∃ a left, s.motion.stage = .performing a left
  · obtain ⟨a, left, hs⟩ := hp
    have hleft := h.motion.left_pos a left hs
    have hstage := Motion.performing_step hs .walk
    rw [← hm] at hstage
    rw [owed_performing hs]
    by_cases hlast : left ≤ 1
    · rw [if_pos hlast] at hstage
      rw [owed_finished hstage, hu, if_neg (by decide), if_neg (by omega)]
    · rw [if_neg hlast] at hstage
      rw [owed_performing hstage, hr]
      exact if_congr (by omega) rfl rfl
  · have hwalking : s'.motion.stage = .walking := by
      rw [hm]
      exact h.motion.step_walk fun a left hs => hp ⟨a, left, hs⟩
    rw [owed_walking hwalking]
    cases hs : s.motion.stage with
    | walking => exact (owed_walking hs).symm
    | liningUp a left => rw [owed_liningUp hs, if_neg hpos.ne']
    | performing a left => exact absurd ⟨a, left, hs⟩ hp
    | finished => rw [owed_finished hs, if_neg hopen]

/-- A frame of an attempt that goes on leaves one action owed: the one that was owed before, or the
one that motion starts in it. -/
theorem Creditable.owed_attempt {s s' : Session} (h : s.Creditable) (hl : s.Linked)
    (hzero : s.remaining = 0)
    (hn : ¬ (s.runner.task.state.handshake = .triggered ∧ s.board.active.endsBallAction = true))
    (hr : s'.remaining = 0)
    (hu : s'.runner.task.state.handshake = s.runner.task.state.handshake.observe s.board.active
      s.runner.task.state.target.action)
    (hm : s'.motion = s.motion.step s.runner.task.state.target.action) :
    s'.owed = 1 ∧ (s.motion.stage = .walking ∧ s'.motion.stage ≠ .walking ∨
      s.motion.stage ≠ .walking ∧ s.owed = 1) := by
  have hflows := h.flowing.flows
  cases hs : s.motion.stage with
  | walking =>
    have hstage := Motion.walking_step hs s.runner.task.state.target
    rw [← hm] at hstage
    rcases Motion.begin_cases s.motion s.runner.task.state.target.action with ⟨left, hb⟩ | hb
    · rw [hb] at hstage
      refine ⟨?_, .inl ⟨rfl, by rw [hstage]; nofun⟩⟩
      rw [owed_liningUp hstage, if_pos hr]
    · rw [hb] at hstage
      have hlength := hl.motion.length_pos
      refine ⟨?_, .inl ⟨rfl, by rw [hstage]; nofun⟩⟩
      rw [owed_performing hstage, if_pos (by omega)]
  | liningUp a left =>
    rw [hs] at hflows
    obtain rfl : a = s.runner.task.state.target.action := hflows hzero
    have hstage := Motion.liningUp_step hs
    rw [← hm] at hstage
    have hlength := hl.motion.length_pos
    refine ⟨?_, .inr ⟨nofun, by rw [owed_liningUp hs, if_pos hzero]⟩⟩
    by_cases hlast : left ≤ 1
    · rw [if_pos hlast] at hstage
      rw [owed_performing hstage, if_pos (by omega)]
    · rw [if_neg hlast] at hstage
      rw [owed_liningUp hstage, if_pos hr]
  | performing a left =>
    rw [hs] at hflows
    have hleft := hl.motion.left_pos a left hs
    obtain rfl : a = s.runner.task.state.target.action := by
      rcases hflows with hlt | ⟨ha, -⟩
      · omega
      · exact ha
    have hstage := Motion.performing_step hs s.runner.task.state.target.action
    rw [← hm] at hstage
    refine ⟨?_, .inr ⟨nofun, by rw [owed_performing hs, if_pos (by omega)]⟩⟩
    by_cases hlast : left ≤ 1
    · -- the board shows the target, so it is seen before it ends
      have hseen : s'.runner.task.state.handshake = .triggered := by
        rw [hu, Handshake.observe_eq_triggered hl.runner.task.unconfirmed]
        exact .inr (hl.not_ended hs).1
      rw [if_pos hlast] at hstage
      rw [owed_finished hstage, if_pos hseen]
    · rw [if_neg hlast] at hstage
      rw [owed_performing hstage, if_pos (by omega)]
  | finished =>
    rw [hs] at hflows
    rcases hflows with hlatch | hpos
    · exact absurd ⟨hlatch, hl.ended hs⟩ hn
    · omega

/-- What an activation has taken grows by the action that motion starts, if any. -/
theorem Creditable.taken_frame {s : Session} (h : s.Creditable) (hl : s.Linked) (g : Sighting) :
    (s.frame g).taken = s.taken + s.startsIn g ∧
      ((s.frame g).runner.task.state.handshake = .triggered → (s.frame g).owed = 1) := by
  have hcompleted := hl.completed_frame g
  unfold taken startsIn
  rcases hl.frame_cases g with
    ⟨hpos, hr, -, hu, -, hm⟩ | ⟨-, hlatch, hend, -, hu, -, hm⟩ | ⟨hzero, hn, hr, -, hu, -, hm⟩
  · have howed := hl.owed_warm_up hpos hr hu hm
    have hopen := hl.not_latched hpos
    rw [if_neg fun hc => hopen hc.1] at hcompleted
    have hnone : ¬ (s.motion.stage = .walking ∧ (s.frame g).motion.stage ≠ .walking) := by
      rintro ⟨hs, hne⟩
      refine hne ?_
      rw [hm]
      exact hl.step_walk_of_walking hs
    refine ⟨?_, by rw [hu]; nofun⟩
    rw [hcompleted, howed, if_neg hnone]
    rfl
  · -- the action that was owed is paid for, and motion walks
    have howed := h.latched hlatch
    have hwalking : (s.frame g).motion.stage = .walking := by
      rw [hm]
      exact hl.step_walk_of_ended hend
    rw [if_pos ⟨hlatch, hend⟩] at hcompleted
    refine ⟨?_, by rw [hu]; nofun⟩
    rw [hcompleted, howed, owed_walking hwalking, if_neg fun hc => hc.2 hwalking]
  · obtain ⟨howed, hstart⟩ := h.owed_attempt hl hzero hn hr hu hm
    rw [if_neg hn] at hcompleted
    refine ⟨?_, fun _ => howed⟩
    rw [hcompleted, howed]
    rcases hstart with ⟨hs, hs'⟩ | ⟨hs, hbefore⟩
    · rw [if_pos ⟨hs, hs'⟩, owed_walking hs]
    · rw [if_neg fun hc => hs hc.1, hbefore]

theorem Creditable.frame {s : Session} (h : s.Creditable) (hl : s.Linked) (g : Sighting) :
    (s.frame g).Creditable :=
  ⟨h.flowing.frame hl g, (h.taken_frame hl g).2⟩

theorem Creditable.taken_frames : ∀ {s : Session} (_ : s.Creditable) (_ : s.Linked)
    (gs : List Sighting), (s.frames gs).taken = s.taken + s.starts gs
  | _, _, _, [] => rfl
  | s, h, hl, g :: gs => by
    show ((s.frame g).frames gs).taken = _
    rw [taken_frames (h.frame hl g) (hl.frame g) gs, (h.taken_frame hl g).1, Nat.add_assoc]
    rfl

/-- Motion walks, or the activation owes a completion to what motion is doing. -/
def Engaged (s : Session) : Prop := s.motion.stage = .walking ∨ s.owed = 1

theorem Creditable.engaged_frame {s : Session} (h : s.Creditable) (hl : s.Linked) (he : s.Engaged)
    (g : Sighting) : (s.frame g).Engaged := by
  rcases hl.frame_cases g with
    ⟨hpos, hr, -, hu, -, hm⟩ | ⟨-, -, hend, -, -, -, hm⟩ | ⟨hzero, hn, hr, -, hu, -, hm⟩
  · rcases he with hs | howed
    · refine .inl ?_
      rw [hm]
      exact hl.step_walk_of_walking hs
    · exact .inr ((hl.owed_warm_up hpos hr hu hm).trans howed)
  · refine .inl ?_
    rw [hm]
    exact hl.step_walk_of_ended hend
  · exact .inr (h.owed_attempt hl hzero hn hr hu hm).1

theorem Creditable.engaged_frames : ∀ {s : Session} (_ : s.Creditable) (_ : s.Linked)
    (_ : s.Engaged) (gs : List Sighting), (s.frames gs).Engaged
  | _, _, _, he, [] => he
  | _, h, hl, he, g :: gs =>
    engaged_frames (h.frame hl g) (hl.frame g) (h.engaged_frame hl he g) gs

/-! ## Actions that are taken over -/

/-- While motion performs the target for longer than the warm-up lasts, a frame brings both closer to
their ends; when the action ends, the activation has seen it. -/
theorem Linked.frame_outlasted {s : Session} (h : s.Linked) {left : Nat}
    (hs : s.motion.stage = .performing s.runner.task.state.target.action left)
    (hr : s.remaining < left) (g : Sighting) :
    left = 1 ∧ (s.frame g).motion.stage = .finished ∧
        (s.frame g).runner.task.state.handshake = .triggered ∨
      (s.frame g).motion.stage =
          .performing (s.frame g).runner.task.state.target.action (left - 1) ∧
        (s.frame g).remaining < left - 1 := by
  have hleft := h.motion.left_pos _ left hs
  rcases h.frame_cases g with
    ⟨hpos, hr', ht, -, -, hm⟩ | ⟨-, -, hend, -⟩ | ⟨-, -, hr', ht, hu, -, hm⟩
  · refine .inr ⟨?_, by omega⟩
    rw [hm, Motion.performing_step hs, if_neg (by omega), ht]
  · rw [(h.not_ended hs).2] at hend
    cases hend
  · have hseen : (s.frame g).runner.task.state.handshake = .triggered := by
      rw [hu, Handshake.observe_eq_triggered h.runner.task.unconfirmed]
      exact .inr (h.not_ended hs).1
    by_cases hlast : left = 1
    · refine .inl ⟨hlast, ?_, hseen⟩
      rw [hm, Motion.performing_step hs, if_pos (by omega)]
    · refine .inr ⟨?_, by omega⟩
      rw [hm, Motion.performing_step hs, if_neg (by omega), ht]

/-- The frame after a finished action that the activation has seen completes the attempt. -/
theorem Linked.frame_finished {s : Session} (h : s.Linked) (hs : s.motion.stage = .finished)
    (hlatch : s.runner.task.state.handshake = .triggered) (g : Sighting) :
    (s.frame g).motion.stage = .walking := by
  rcases h.frame_cases g with ⟨hpos, -⟩ | ⟨-, -, -, -, -, -, hm⟩ | ⟨-, hn, -⟩
  · exact absurd hlatch (h.not_latched hpos)
  · rw [hm]
    exact h.step_walk_of_ended (h.ended hs)
  · exact absurd ⟨hlatch, h.ended hs⟩ hn

theorem Linked.frames_outlasted : ∀ {s : Session} {left : Nat} (_ : s.Linked)
    (_ : s.motion.stage = .performing s.runner.task.state.target.action left)
    (_ : s.remaining < left) (gs : List Sighting) (_ : gs.length = left + 1),
    (s.frames gs).motion.stage = .walking
  | s, left, h, hs, hr, g :: gs, hlength => by
    show ((s.frame g).frames gs).motion.stage = .walking
    rcases h.frame_outlasted hs hr g with ⟨rfl, hs', hlatch⟩ | ⟨hs', hr'⟩
    · obtain ⟨g', rfl⟩ := List.length_eq_one_iff.1 (Nat.succ.inj hlength)
      exact (h.frame g).frame_finished hs' hlatch g'
    · refine frames_outlasted (h.frame g) hs' hr' gs ?_
      rw [List.length_cons] at hlength
      omega

/-- An activation that gets stuck completes nothing. -/
theorem Doomed.frames_completed : ∀ {s : Session} (_ : s.Doomed) (_ : s.Linked) (gs : List Sighting),
    (s.frames gs).runner.summary.completed = s.runner.summary.completed
  | _, _, _, [] => rfl
  | s, h, hl, g :: gs => by
    show ((s.frame g).frames gs).runner.summary.completed = _
    rw [frames_completed (h.frame hl g).1 (hl.frame g) gs, hl.completed_frame, h.unseen]
    rfl

/-! ## Replacements -/

/-- At its start an activation owes nothing, unless motion performs a kick that outlasts the
warm-up. -/
theorem Flowing.owed_activate {s : Session} {settings : Settings.Valid}
    (h : (s.step (.activate settings)).Flowing) :
    (s.step (.activate settings)).owed = 1 ↔
      ∃ left, s.motion.stage = .performing .kick left ∧ settings.1.walkFrames.toNat < left := by
  have hremaining : (s.step (.activate settings)).remaining = settings.1.walkFrames.toNat := rfl
  have hpos : 0 < settings.1.walkFrames.toNat := h.warmup
  have hflows : (s.step (.activate settings)).Flows s.motion.stage := h.flows
  cases hs : s.motion.stage with
  | walking =>
    have howed : (s.step (.activate settings)).owed = 0 := owed_walking hs
    rw [howed]
    exact iff_of_false nofun (by rintro ⟨left, hl, -⟩; cases hl)
  | liningUp a left =>
    have howed := owed_liningUp (s := s.step (.activate settings)) hs
    rw [if_neg (by omega)] at howed
    rw [howed]
    exact iff_of_false nofun (by rintro ⟨left, hl, -⟩; cases hl)
  | performing a left =>
    have howed := owed_performing (s := s.step (.activate settings)) hs
    rw [hremaining] at howed
    rw [hs] at hflows
    constructor
    · intro hone
      rw [howed] at hone
      have hlt : settings.1.walkFrames.toNat < left := by
        by_contra hge
        rw [if_neg hge] at hone
        cases hone
      rcases hflows with hf | ⟨rfl, -⟩
      · omega
      · exact ⟨left, rfl, hlt⟩
    · rintro ⟨left', hl, hlt⟩
      cases hl
      rw [howed, if_pos hlt]
  | finished =>
    have howed : (s.step (.activate settings)).owed = 0 := owed_finished hs
    rw [howed]
    exact iff_of_false nofun (by rintro ⟨left, hl, -⟩; cases hl)

/-- At the start of an activation nothing is completed, and nothing is seen. -/
theorem Flowing.creditable {s : Session} (h : s.Flowing)
    (hu : s.runner.task.state.handshake = .notTriggered) : s.Creditable :=
  ⟨h, fun hlatch => by rw [hu] at hlatch; cases hlatch⟩

/-- When completions are credited to actions that were not started for them. In the first activation
no more attempts are completed than motion has started actions. After any moves, let the runner be
replaced and only frames follow. There is never more than one completion without an action of its own,
and there is one exactly if motion was performing a kick at the replacement that had more frames left
than the new warm-up has, and now walks. The frame after the last one of that kick makes it walk. -/
theorem completions_exceed_starts_iff (first : Settings.Valid) (lineup length : Nat)
    (moves : List Move) (settings : Settings.Valid) :
    let s := (start first lineup length).run moves
    let fresh := s.step (.activate settings)
    let outlasts := fun left =>
      s.motion.stage = .performing .kick left ∧ settings.1.walkFrames.toNat < left
    (∀ gs, ((start first lineup length).frames gs).runner.summary.completed
      ≤ (start first lineup length).starts gs) ∧
    (∀ gs, (fresh.frames gs).runner.summary.completed ≤ fresh.starts gs + 1 ∧
      (fresh.starts gs < (fresh.frames gs).runner.summary.completed ↔
        (∃ left, outlasts left) ∧ (fresh.frames gs).motion.stage = .walking)) ∧
    ∀ left, outlasts left → ∀ gs, gs.length = left + 1 →
      (fresh.frames gs).motion.stage = .walking := by
  intro s fresh outlasts
  have hl : s.Linked := (linked_start first lineup length).run moves
  have hfresh : fresh.Linked := hl.step _
  refine ⟨fun gs => ?_, fun gs => ?_, ?_⟩
  · have hflowing : (start first lineup length).Flowing :=
      ⟨Settings.walkFrames_pos first.2, trivial⟩
    have htaken : ((start first lineup length).frames gs).taken =
        (start first lineup length).taken + (start first lineup length).starts gs :=
      (hflowing.creditable rfl).taken_frames (linked_start first lineup length) gs
    have hnone : (start first lineup length).taken = 0 := rfl
    rw [hnone, Nat.zero_add] at htaken
    exact htaken ▸ Nat.le_add_right _ _
  · rcases hl.activate settings with ⟨hdoomed, a, left, hs, hle, hor⟩ | ⟨hflowing, -⟩
    · have hnone : (fresh.frames gs).runner.summary.completed = 0 :=
        hdoomed.frames_completed hfresh gs
      rw [hnone]
      refine ⟨Nat.zero_le _, iff_of_false (Nat.not_lt_zero _) ?_⟩
      rintro ⟨⟨left', hs', hlt⟩, -⟩
      rw [hs] at hs'
      cases hs'
      rcases hor with heq | hkick
      · omega
      · cases hkick
    · have hcreditable : fresh.Creditable := hflowing.creditable rfl
      have htaken : (fresh.frames gs).runner.summary.completed + (fresh.frames gs).owed =
          0 + fresh.owed + fresh.starts gs := hcreditable.taken_frames hfresh gs
      have hbefore := fresh.owed_le_one
      have hafter := (fresh.frames gs).owed_le_one
      refine ⟨by omega, ?_⟩
      show _ ↔ (∃ left, s.motion.stage = .performing .kick left ∧ _ < left) ∧ _
      rw [← hflowing.owed_activate]
      constructor
      · intro hexceeds
        have hone : fresh.owed = 1 := by omega
        refine ⟨hone, ?_⟩
        rcases hcreditable.engaged_frames hfresh (.inr hone) gs with hw | howed
        · exact hw
        · omega
      · rintro ⟨hone, hw⟩
        have hzero := owed_walking hw
        have hone : fresh.owed = 1 := hone
        omega
  · rintro left ⟨hs, hlt⟩ gs hlength
    exact hfresh.frames_outlasted hs hlt gs hlength

/-- A kick of three frames has begun when the runner is replaced, and the warm-up has one frame: the
new activation completes a kick although motion has started none for it. -/
theorem completed_without_start :
    let fresh := ((start shortest 0 3).frames [.lost, .lost]).step (.activate shortest)
    let gs := List.replicate 4 Sighting.lost
    fresh.starts gs = 0 ∧ (fresh.frames gs).runner.summary.kicksCompleted = 1 := by
  decide +kernel

end Striker.Session
