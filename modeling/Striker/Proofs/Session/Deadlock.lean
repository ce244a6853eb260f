/-
Deadlock after a replacement of the runner. The frames of a session are strict: the runner ticks,
then motion updates. A session is stuck when motion has finished and waits for a walk, while the
activation asks for a ball action and waits for motion to start it. The first activation never gets
stuck. A later one gets stuck exactly if motion is performing when it begins, and the rest of the
action does not end within the warm-up: motion then never hears the walks of the warm-up, unless the
activation can still take the action for its own.
-/
import Striker.Proofs.Session.Basic

namespace Striker.Session

/-! ## Frames -/

/-- One frame: perception may write first, then the runner ticks, then motion updates. -/
def frame (s : Session) (g : Sighting) : Session := ((s.step (.perceive g)).step .tick).step .update

/-- The session after frames with these sightings. -/
def frames (s : Session) (gs : List Sighting) : Session := gs.foldl frame s

/-- Motion waits for a walk, and the activation, which asks for a ball action, for motion. -/
def Stuck (s : Session) : Prop :=
  s.board.request.body.action.isBallAction = true ∧
    s.runner.task.state.handshake = .notTriggered ∧ s.motion.stage = .finished

instance (s : Session) : Decidable s.Stuck := inferInstanceAs (Decidable (_ ∧ _ ∧ _))

/-- The frames of the warm-up that are left. -/
def remaining (s : Session) : Nat := s.runner.task.warmup - s.runner.task.state.walkFrames

theorem Linked.frame {s : Session} (h : s.Linked) (g : Sighting) : (s.frame g).Linked :=
  ((h.step (.perceive g)).step .tick).step .update

/-- The three kinds of frames: one of the warm-up, one that completes an attempt, and one of an
attempt that goes on. Motion walks in the first two, and is asked for the target in the third. -/
theorem Linked.frame_cases {s : Session} (h : s.Linked) (g : Sighting) :
    (0 < s.remaining ∧ (s.frame g).remaining = s.remaining - 1 ∧
      (s.frame g).runner.task.state.target = s.runner.task.state.target ∧
      (s.frame g).runner.task.state.handshake = .notTriggered ∧
      (s.frame g).board.request.body.action = .walk ∧
      (s.frame g).motion = s.motion.step .walk) ∨
    (s.remaining = 0 ∧ s.runner.task.state.handshake = .triggered ∧
      s.board.active.endsBallAction = true ∧
      (s.frame g).remaining = s.runner.task.warmup ∧
      (s.frame g).runner.task.state.handshake = .notTriggered ∧
      (s.frame g).board.request.body.action = .walk ∧
      (s.frame g).motion = s.motion.step .walk) ∨
    (s.remaining = 0 ∧
      ¬ (s.runner.task.state.handshake = .triggered ∧ s.board.active.endsBallAction = true) ∧
      (s.frame g).remaining = 0 ∧
      (s.frame g).runner.task.state.target = s.runner.task.state.target ∧
      (s.frame g).runner.task.state.handshake = s.runner.task.state.handshake.observe s.board.active
        s.runner.task.state.target.action ∧
      (s.frame g).board.request.body.action = s.runner.task.state.target.action ∧
      (s.frame g).motion = s.motion.step s.runner.task.state.target.action) := by
  -- the update reads what the tick has published, and leaves the runner and the request alone
  have hmotion : (s.frame g).motion = s.motion.step (s.frame g).board.request.body.action := rfl
  have hremaining : (s.frame g).remaining
      = s.runner.task.warmup - (s.frame g).runner.task.state.walkFrames := rfl
  rcases (h.step (.perceive g)).runner.tick_cases (s.step (.perceive g)).board with
    ⟨hw, (ht : (s.frame g).runner.task.state = _), -, (ha : (s.frame g).board.request.body.action = _), -⟩ |
    ⟨hw, hlatch, hend, (ht : (s.frame g).runner.task.state = _), -,
      (ha : (s.frame g).board.request.body.action = _), -⟩ |
    ⟨hw, hn, (ht : (s.frame g).runner.task.state = _), -,
      (ha : (s.frame g).board.request.body.action = _), -⟩
  · have hpos : 0 < s.remaining := Nat.sub_pos_of_lt hw
    refine .inl ⟨hpos, ?_, by rw [ht]; rfl, by rw [ht], ha, by rw [hmotion, ha]⟩
    rw [hremaining, ht]
    exact Nat.sub_succ _ _
  · have hzero : s.remaining = 0 := Nat.sub_eq_zero_of_le (Nat.le_of_eq hw.symm)
    refine .inr (.inl ⟨hzero, hlatch, hend, ?_, by rw [ht], ha, by rw [hmotion, ha]⟩)
    rw [hremaining, ht]
    exact Nat.sub_zero _
  · have hzero : s.remaining = 0 := Nat.sub_eq_zero_of_le (Nat.le_of_eq hw.symm)
    refine .inr (.inr ⟨hzero, hn, ?_, by rw [ht]; rfl, by rw [ht]; rfl, ha, by rw [hmotion, ha]; rfl⟩)
    rw [hremaining, ht]
    exact hzero

/-- After a frame, an activation that asks for a ball action has no warm-up left. -/
theorem Linked.asked_frame {s : Session} (h : s.Linked) (g : Sighting)
    (ha : (s.frame g).board.request.body.action.isBallAction = true) : (s.frame g).remaining = 0 := by
  rcases h.frame_cases g with ⟨-, -, -, -, hw, -⟩ | ⟨-, -, -, -, -, hw, -⟩ | ⟨-, -, hr, -⟩
  · rw [hw] at ha; cases ha
  · rw [hw] at ha; cases ha
  · exact hr

/-! ## Activations that go on -/

/-- How motion may stand to an activation that is not going to get stuck. A line-up is for the
target, unless the warm-up is still going to end it. An action that is performed ends within the
warm-up, or it is the target and outlasts the warm-up, so that it is seen. When motion has finished,
the activation has seen the action, or the warm-up is still going to end the wait. -/
def Flows (s : Session) : Stage → Prop
  | .walking => True
  | .liningUp action _ => s.remaining = 0 → action = s.runner.task.state.target.action
  | .performing action left => left < s.remaining ∨
      action = s.runner.task.state.target.action ∧ s.remaining < left
  | .finished => s.runner.task.state.handshake = .triggered ∨ 0 < s.remaining

/-- An activation that is not going to get stuck. -/
structure Flowing (s : Session) : Prop where
  warmup : 0 < s.runner.task.warmup
  flows : s.Flows s.motion.stage

theorem Flowing.not_stuck {s : Session} (h : s.Linked) (g : Sighting) (hf : (s.frame g).Flowing) :
    ¬ (s.frame g).Stuck := by
  rintro ⟨hasked, hlatch, hstage⟩
  have hflows := hf.flows
  rw [hstage] at hflows
  rcases hflows with ht | hr
  · rw [hlatch] at ht; cases ht
  · rw [h.asked_frame g hasked] at hr; cases hr

/-- A frame in which motion is asked to walk, and does not perform, leaves it walking. -/
theorem Linked.flows_of_walk {s s' : Session} (h : s.Linked) (hm : s'.motion = s.motion.step .walk)
    (hp : ∀ a left, s.motion.stage ≠ .performing a left) : s'.Flows s'.motion.stage := by
  rw [hm, h.motion.step_walk hp]
  trivial

/-- When motion has finished, the board shows that the ball action has ended. -/
theorem Linked.ended {s : Session} (h : s.Linked) (hs : s.motion.stage = .finished) :
    s.board.active.endsBallAction = true := by
  rcases h.report with hr | ⟨-, hw⟩
  · rw [hr, Motion.report, hs]; rfl
  · rw [hw] at hs; cases hs

/-- A frame of the warm-up brings an action that is performed as much closer to its end. -/
theorem Flowing.warm_up {s s' : Session} (h : s.Flowing) (hl : s.Linked) (hpos : 0 < s.remaining)
    (hr : s'.remaining = s.remaining - 1)
    (ht : s'.runner.task.state.target = s.runner.task.state.target)
    (hm : s'.motion = s.motion.step .walk) : s'.Flows s'.motion.stage := by
  have hflows := h.flows
  cases hs : s.motion.stage with
  | performing a left =>
    rw [hs] at hflows
    have hleft := hl.motion.left_pos a left hs
    rw [hm, Motion.performing_step hs]
    split
    · refine .inr ?_
      rcases hflows with hf | ⟨-, hf⟩ <;> omega
    · rcases hflows with hf | ⟨ha, hf⟩
      · exact .inl (by omega)
      · exact .inr ⟨by rw [ht]; exact ha, by omega⟩
  | _ => exact hl.flows_of_walk hm (by rw [hs]; nofun)

/-- A frame of an attempt that goes on lets motion take up the target, or see it through. -/
theorem Flowing.attempt {s s' : Session} (h : s.Flowing) (hl : s.Linked) (hzero : s.remaining = 0)
    (hn : ¬ (s.runner.task.state.handshake = .triggered ∧ s.board.active.endsBallAction = true))
    (hr : s'.remaining = 0) (ht : s'.runner.task.state.target = s.runner.task.state.target)
    (hu : s'.runner.task.state.handshake = s.runner.task.state.handshake.observe s.board.active
      s.runner.task.state.target.action)
    (hm : s'.motion = s.motion.step s.runner.task.state.target.action) :
    s'.Flows s'.motion.stage := by
  have hflows := h.flows
  cases hs : s.motion.stage with
  | walking =>
    rw [hm, Motion.walking_step hs]
    rcases Motion.begin_cases s.motion s.runner.task.state.target.action with ⟨left, hb⟩ | hb <;>
      rw [hb]
    · exact fun _ => by rw [ht]
    · exact .inr ⟨by rw [ht], by rw [hr]; exact hl.motion.length_pos⟩
  | liningUp a left =>
    rw [hs] at hflows
    have ha : a = s.runner.task.state.target.action := hflows hzero
    rw [← ha] at hm
    rw [hm, Motion.liningUp_step hs]
    split
    · exact .inr ⟨by rw [ht]; exact ha, by rw [hr]; exact hl.motion.length_pos⟩
    · exact fun _ => by rw [ht]; exact ha
  | performing a left =>
    rw [hs] at hflows
    rcases hflows with hf | ⟨rfl, hf⟩
    · rw [hzero] at hf; cases hf
    · -- the board shows the target, so it is seen before it ends
      have hseen : s'.runner.task.state.handshake = .triggered := by
        rw [hu, Handshake.observe_eq_triggered hl.runner.task.unconfirmed]
        exact .inr (hl.not_ended hs).1
      rw [hm, Motion.performing_step hs]
      split
      · exact .inl hseen
      · exact .inr ⟨by rw [ht], by omega⟩
  | finished =>
    rw [hs] at hflows
    rcases hflows with hlatch | hf
    · exact absurd ⟨hlatch, hl.ended hs⟩ hn
    · rw [hzero] at hf; cases hf

theorem Flowing.frame {s : Session} (h : s.Flowing) (hl : s.Linked) (g : Sighting) :
    (s.frame g).Flowing := by
  refine ⟨h.warmup, ?_⟩
  rcases hl.frame_cases g with
    ⟨hpos, hr, ht, -, -, hm⟩ | ⟨-, -, hend, -, -, -, hm⟩ | ⟨hzero, hn, hr, ht, hu, -, hm⟩
  · exact h.warm_up hl hpos hr ht hm
  · -- the action of the completed attempt is over
    refine hl.flows_of_walk hm fun a left hs => ?_
    rw [(hl.not_ended hs).2] at hend
    cases hend
  · exact h.attempt hl hzero hn hr ht hu hm

theorem Flowing.frames_not_stuck : ∀ {s : Session} (_ : s.Flowing) (_ : s.Linked) (g : Sighting)
    (gs : List Sighting), ¬ (s.frames (g :: gs)).Stuck
  | _, h, hl, g, [] => Flowing.not_stuck hl g (h.frame hl g)
  | s, h, hl, g, g' :: gs => frames_not_stuck (s := s.frame g) (h.frame hl g) (hl.frame g) g' gs

/-! ## Activations that get stuck -/

/-- An activation that gets stuck, or is stuck: it has seen nothing of its target, and no walk comes
after the action that is performed. The action does not end within the warm-up, and it is not the
target or ends with the warm-up, so that it is not seen either. -/
structure Doomed (s : Session) : Prop where
  unseen : s.runner.task.state.handshake = .notTriggered
  outlasts : s.remaining ≤ s.motion.stage.left
  stage : s.motion.stage = .finished ∨ ∃ a left, s.motion.stage = .performing a left ∧
    (s.remaining = left ∨ a ≠ s.runner.task.state.target.action)

/-- In a doomed activation motion has finished when no frame of the action is left. -/
theorem Doomed.finished_iff {s : Session} (h : s.Doomed) (hl : s.Linked) :
    s.motion.stage = .finished ↔ s.motion.stage.left = 0 := by
  rcases h.stage with hs | ⟨a, left, hs, -⟩
  · simp [Stage.left, hs]
  · have := hl.motion.left_pos a left hs
    simp only [Stage.left, hs, reduceCtorEq, false_iff]
    omega

/-- With the warm-up over, a doomed activation does not see its target. -/
theorem Doomed.not_seen {s : Session} (h : s.Doomed) (hl : s.Linked) (hr : s.remaining = 0) :
    s.board.active ≠ s.runner.task.state.target.action := by
  intro hactive
  obtain ⟨left, hp⟩ := hl.performing hactive
  rcases h.stage with hs | ⟨a, left', hs, hout⟩
  · rw [hs] at hp; cases hp
  · rw [hs] at hp
    cases hp
    have := hl.motion.left_pos _ _ hs
    rcases hout with hleft | ha
    · omega
    · exact ha rfl

/-- In a doomed activation every frame takes one from the warm-up and one from the action, and asks
for the target when the warm-up is over. -/
theorem Doomed.frame {s : Session} (h : s.Doomed) (hl : s.Linked) (g : Sighting) :
    (s.frame g).Doomed ∧ (s.frame g).remaining = s.remaining - 1 ∧
      (s.frame g).motion.stage.left = s.motion.stage.left - 1 ∧
      ((s.frame g).board.request.body.action.isBallAction = true ↔ s.remaining = 0) := by
  have houtlasts := h.outlasts
  -- the latch is open, so no frame completes an attempt
  rcases hl.frame_cases g with
    ⟨hpos, hr, ht, hu, ha, hm⟩ | ⟨-, hlatch, -⟩ | ⟨hzero, -, hr, ht, hu, ha, hm⟩
  · have hasked : (s.frame g).board.request.body.action.isBallAction = true ↔ s.remaining = 0 := by
      rw [ha]; exact ⟨nofun, fun h0 => absurd h0 hpos.ne'⟩
    rcases h.stage with hs | ⟨a, left, hs, hout⟩
    · -- motion has not finished, for the warm-up is not over
      rw [(h.finished_iff hl).1 hs] at houtlasts; omega
    · have hleft : (s.frame g).motion.stage.left = s.motion.stage.left - 1 := by
        rw [hm, Motion.performing_step_left hs, hs]; rfl
      refine ⟨⟨hu, by omega, ?_⟩, hr, hleft, hasked⟩
      rw [hm, Motion.performing_step hs, ht, hr]
      split
      · exact .inl rfl
      · exact .inr ⟨a, left - 1, rfl, hout.imp (by omega) id⟩
  · rw [h.unseen] at hlatch; cases hlatch
  · have hasked : (s.frame g).board.request.body.action.isBallAction = true ↔ s.remaining = 0 := by
      rw [ha]; exact ⟨fun _ => hzero, fun _ => Target.isBallAction_action _⟩
    have hunseen : (s.frame g).runner.task.state.handshake = .notTriggered := by
      rw [hu, Handshake.observe_of_ne (h.not_seen hl hzero), h.unseen]
    rcases h.stage with hs | ⟨a, left, hs, hout⟩
    · have hstage : (s.frame g).motion.stage = .finished := by
        rw [hm]; exact Motion.finished_step hs _
      have hleft : (s.frame g).motion.stage.left = s.motion.stage.left - 1 := by
        rw [hstage, hs]; rfl
      exact ⟨⟨hunseen, by omega, .inl hstage⟩, by omega, hleft, hasked⟩
    · have hpos := hl.motion.left_pos a left hs
      have hleft : (s.frame g).motion.stage.left = s.motion.stage.left - 1 := by
        rw [hm, Motion.performing_step_left hs, hs]; rfl
      refine ⟨⟨hunseen, by omega, ?_⟩, by omega, hleft, hasked⟩
      rw [hm, Motion.performing_step hs, ht]
      split
      · exact .inl rfl
      · exact .inr ⟨a, left - 1, rfl, hout.imp (by omega) id⟩

/-- A doomed activation is stuck from the frame on after which neither the warm-up nor the action is
going on. -/
theorem Doomed.frames_stuck_iff : ∀ {s : Session} (_ : s.Doomed) (_ : s.Linked) (g : Sighting)
    (gs : List Sighting), (s.frames (g :: gs)).Stuck ↔
      s.remaining ≤ gs.length ∧ s.motion.stage.left ≤ gs.length + 1
  | s, h, hl, g, [] => by
    obtain ⟨hd, -, hleft, hasked⟩ := h.frame hl g
    have hfinished := hd.finished_iff (hl.frame g)
    show (s.frame g).Stuck ↔ _
    unfold Stuck
    rw [hasked, hfinished, hleft, List.length_nil]
    exact ⟨fun hs => ⟨by omega, by omega⟩, fun hs => ⟨by omega, hd.unseen, by omega⟩⟩
  | s, h, hl, g, g' :: gs => by
    obtain ⟨hd, hr, hleft, -⟩ := h.frame hl g
    -- both counts have come one closer to zero, and there is one frame less to come
    show ((s.frame g).frames (g' :: gs)).Stuck ↔ _
    rw [frames_stuck_iff hd (hl.frame g) g' gs, hr, hleft, List.length_cons]
    omega

/-! ## Replacements -/

/-- At its start an activation is doomed if motion performs an action that does not end within the
warm-up, unless it is a kick that outlasts it; otherwise it flows. -/
theorem Linked.activate {s : Session} (h : s.Linked) (settings : Settings.Valid) :
    ((s.step (.activate settings)).Doomed ∧ ∃ a left, s.motion.stage = .performing a left ∧
      settings.1.walkFrames.toNat ≤ left ∧ (left = settings.1.walkFrames.toNat ∨ a = .dribble)) ∨
    ((s.step (.activate settings)).Flowing ∧ ¬ ∃ a left, s.motion.stage = .performing a left ∧
      settings.1.walkFrames.toNat ≤ left ∧ (left = settings.1.walkFrames.toNat ∨ a = .dribble)) := by
  have hpos : 0 < settings.1.walkFrames.toNat := Settings.walkFrames_pos settings.2
  have hremaining : (s.step (.activate settings)).remaining = settings.1.walkFrames.toNat := rfl
  cases hs : s.motion.stage with
  | walking =>
    refine .inr ⟨⟨hpos, ?_⟩, by rintro ⟨b, l, hb, -⟩; cases hb⟩
    show Flows _ s.motion.stage
    rw [hs]
    trivial
  | liningUp a left =>
    refine .inr ⟨⟨hpos, ?_⟩, by rintro ⟨b, l, hb, -⟩; cases hb⟩
    show Flows _ s.motion.stage
    rw [hs]
    exact fun h0 => by omega
  | finished =>
    refine .inr ⟨⟨hpos, ?_⟩, by rintro ⟨b, l, hb, -⟩; cases hb⟩
    show Flows _ s.motion.stage
    rw [hs]
    exact .inr (by omega)
  | performing a left =>
    by_cases hc : settings.1.walkFrames.toNat ≤ left ∧
        (left = settings.1.walkFrames.toNat ∨ a = .dribble)
    · refine .inl ⟨⟨rfl, ?_, .inr ⟨a, left, hs, ?_⟩⟩, a, left, rfl, hc⟩
      · show _ ≤ s.motion.stage.left
        rw [hs]
        exact hc.1
      · -- the target of a new activation is the kick
        rcases hc.2 with hl | rfl
        · exact .inl hl.symm
        · exact .inr (show Action.dribble ≠ .kick by decide)
    · refine .inr ⟨⟨hpos, ?_⟩, by rintro ⟨b, l, hb, hbl⟩; cases hb; exact hc hbl⟩
      show Flows _ s.motion.stage
      rw [hs]
      rcases Nat.lt_or_ge left settings.1.walkFrames.toNat with hlt | hge
      · exact .inl hlt
      · have hne : ¬ (left = settings.1.walkFrames.toNat ∨ a = .dribble) := fun hd => hc ⟨hge, hd⟩
        obtain ⟨t, rfl⟩ := h.motion.pursued a (by rw [hs]; rfl)
        have ht : t = .kick := by
          cases t with
          | kick => rfl
          | dribble => exact absurd (.inr rfl) hne
        exact .inr ⟨congrArg Target.action ht, by show _ < left; omega⟩

/-- The first activation of a session never gets stuck. -/
theorem first_activation_flows (first : Settings.Valid) (lineup length : Nat) (g : Sighting)
    (gs : List Sighting) : ¬ ((start first lineup length).frames (g :: gs)).Stuck := by
  have hf : (start first lineup length).Flowing := ⟨Settings.walkFrames_pos first.2, trivial⟩
  exact hf.frames_not_stuck (linked_start first lineup length) g gs

/-- When an activation gets stuck. After any moves, let the runner be replaced and only frames
follow. The frame numbered `gs.length` of the new activation ends stuck exactly if motion was
performing an action at the replacement, of which as many frames as the warm-up has were left, or
more of a dribble, and the frame is neither one of the warm-up nor one of the action. -/
theorem activation_stuck_iff (first : Settings.Valid) (lineup length : Nat) (moves : List Move)
    (settings : Settings.Valid) (g : Sighting) (gs : List Sighting) :
    let s := (start first lineup length).run moves
    ((s.step (.activate settings)).frames (g :: gs)).Stuck ↔
      ∃ a left, s.motion.stage = .performing a left ∧ settings.1.walkFrames.toNat ≤ left ∧
        (left = settings.1.walkFrames.toNat ∨ a = .dribble) ∧
        max settings.1.walkFrames.toNat (left - 1) ≤ gs.length := by
  intro s
  have hl : s.Linked := (linked_start first lineup length).run moves
  rcases hl.activate settings with ⟨hd, a, left, hs, hc⟩ | ⟨hf, hn⟩
  · rw [hd.frames_stuck_iff (hl.step _) g gs]
    show settings.1.walkFrames.toNat ≤ gs.length ∧ s.motion.stage.left ≤ gs.length + 1 ↔ _
    rw [hs]
    constructor
    · rintro ⟨h1, h2⟩
      exact ⟨a, left, rfl, hc.1, hc.2, max_le h1 (Nat.sub_le_of_le_add h2)⟩
    · rintro ⟨b, l, hb, -, -, hmax⟩
      cases hb
      exact ⟨(max_le_iff.1 hmax).1, Nat.le_add_of_sub_le (max_le_iff.1 hmax).2⟩
  · refine iff_of_false (hf.frames_not_stuck (hl.step _) g gs) ?_
    rintro ⟨a, left, hs, hle, hor, -⟩
    exact hn ⟨a, left, hs, hle, hor⟩

/-- Settings with a warm-up of one frame. -/
def shortest : Settings.Valid := ⟨{ Settings.standard with walkFrames := 1 }, by decide +kernel⟩

/-- A kick of one frame has begun when the runner is replaced, and the warm-up has one frame too. -/
theorem stuck_after_activation :
    ((((start shortest 0 1).frames [.lost, .lost]).step (.activate shortest)).frames [.lost, .lost]).Stuck := by
  decide +kernel

end Striker.Session
