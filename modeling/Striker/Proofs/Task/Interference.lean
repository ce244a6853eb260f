/-
What a task listens to. Its state, its phase, the action it asks for, the colour of its light and
what it reports are decided by the actions that motion shows, and by the length of the warm-up.
Sightings, the published requests and all other settings stay outside: a sighting turns the body and
gives the hint in its own tick only, and a published request decides about warnings, nothing else.

Two runs are compared. `Alike` leaves out of a task what the published requests have changed, the
memory of the last warning, so it is kept by ticks that hear different requests.
-/
import Striker.Proofs.Number.Order
import Striker.Proofs.Task.History

namespace Striker

/-! ## Sightings -/

namespace Sighting

theorem turn_eq (s : Sighting) : s.turn =
    match s.heading with
    | some h => if h.isFinite then h else 0
    | none => 0 := by
  unfold turn
  cases s.heading with
  | none => rfl
  | some h => by_cases hf : h.isFinite = true <;> simp [Option.filter, hf]

theorem isNear_eq (threshold : Single) (s : Sighting) : s.isNear threshold =
    match s.position with
    | some p => p.isFinite && p.x.less threshold
    | none => false := by
  unfold isNear ball
  cases s.position with
  | none => rfl
  | some p => by_cases hf : p.isFinite = true <;> simp [Option.filter, hf]

/-- A ball that is near stays near when the threshold is raised. -/
theorem isNear_mono {low high : Single} (h : low.atMost high = true) {s : Sighting}
    (hs : s.isNear low = true) : s.isNear high = true := by
  rw [isNear_eq] at hs ⊢
  cases hp : s.position with
  | none => rw [hp] at hs; exact hs
  | some p =>
    simp only [hp, Bool.and_eq_true] at hs ⊢
    exact ⟨hs.1, Binary.less_of_less_of_atMost hs.2 h⟩

end Sighting

/-! ## Commands -/

namespace Command

theorem isWalk_eq (c : Command) : c.isWalk = decide (c.action = .walk) := by cases c <;> rfl

/-- A command is made of its action and its turn. -/
theorem eq_of_action_of_turn {c d : Command} (ha : c.action = d.action) (ht : c.turn = d.turn) :
    c = d := by
  cases c <;> cases d <;> cases ha <;> cases ht <;> rfl

end Command

/-! ## Two tasks side by side -/

/-- Two contexts that agree in the frame and in what motion shows. -/
structure Context.Agree (c d : Context) : Prop where
  frame : c.frame = d.frame
  active : c.active = d.active

theorem agree_of_getElem? {cs ds : List Context} (h : List.Forall₂ Context.Agree cs ds) {i : Nat}
    {c d : Context} (hc : cs[i]? = some c) (hd : ds[i]? = some d) : c.Agree d := by
  obtain ⟨hi, rfl⟩ := List.getElem?_eq_some_iff.1 hc
  obtain ⟨hj, rfl⟩ := List.getElem?_eq_some_iff.1 hd
  exact (List.forall₂_iff_get.1 h).2 i hi hj

namespace Task

/-- Two tasks that are in the same state, with warm-ups of one length. What they last warned of may
differ. -/
structure Alike (t u : Task) : Prop where
  warmup : t.settings.walkFrames = u.settings.walkFrames
  state : t.state = u.state
  phase : t.phase = u.phase

variable {t u : Task} {c d : Context}

theorem alike_init (h : t.settings.walkFrames = u.settings.walkFrames) : Alike t.init u.init :=
  ⟨h, rfl, rfl⟩

theorem decide_turn (t : Task) (c : Context) : (t.decide c).body.turn = c.sighting.turn := by
  unfold decide
  split
  · rfl
  split
  · rfl
  · show (t.state.target.command _).turn = _
    cases t.state.target <;> rfl

/-- An attempt that goes on reports nothing but a warning. -/
theorem attempt_events (t : Task) (c : Context) {p : Level → Bool} (hp : p .warn = false) :
    (t.attempt c).events.filter (p ·.level) = [] := by
  unfold attempt
  dsimp only
  split <;> simp [Event.level, hp]

/-- Tasks that are alike decide alike. Warnings are left out, since they depend on the request that
is published. -/
theorem Alike.decide (h : Alike t u) (hc : c.Agree d) :
    (t.decide c).state = (u.decide d).state ∧
      (t.decide c).body.action = (u.decide d).body.action ∧
      ∀ p : Level → Bool, p .warn = false →
        (t.decide c).events.filter (p ·.level) = (u.decide d).events.filter (p ·.level) := by
  -- the guards read the state and what motion shows, so both tasks take the same branch
  unfold Task.decide
  rw [h.warmup, h.state, hc.active]
  split
  · exact ⟨by simp only [warmUp, h.state], rfl, fun _ _ => rfl⟩
  split
  · refine ⟨by simp only [complete, h.state], rfl, fun p _ => ?_⟩
    simp only [complete, h.state, hc.frame, hc.active]
  · refine ⟨by simp only [attempt, h.state, hc.active], ?_, fun p hp => ?_⟩
    · simp only [attempt, h.state, Target.command_action]
    · rw [attempt_events t c hp, attempt_events u d hp]

theorem Alike.phaseOf (h : Alike t u) (hc : c.Agree d) :
    phaseOf (t.decide c) = phaseOf (u.decide d) := by
  obtain ⟨hs, ha, -⟩ := h.decide hc
  unfold Task.phaseOf
  rw [Command.isWalk_eq, Command.isWalk_eq, ha, hs]

theorem Alike.tick (h : Alike t u) (hc : c.Agree d) : Alike (t.tick c).task (u.tick d).task :=
  ⟨h.warmup, (h.decide hc).1, h.phaseOf hc⟩

theorem Alike.after (h : Alike t u) {cs ds : List Context} (hcs : List.Forall₂ Context.Agree cs ds) :
    Alike (t.after cs) (u.after ds) := by
  induction hcs generalizing t u with
  | nil => exact h
  | cons hc _ ih => exact ih (h.tick hc)

theorem Alike.status (h : Alike t u) : t.status = u.status := by
  unfold Task.status
  rw [h.phase, h.state]

theorem after_settings (t : Task) (cs : List Context) : (t.after cs).settings = t.settings := by
  induction cs generalizing t with
  | nil => rfl
  | cons c cs ih => exact ih (t.tick c).task

/-- The light of a tick shows its phase. -/
theorem Alike.colour (h : Alike t u) (hc : c.Agree d) :
    (t.tick c).request.indicator.map Indicator.colour =
      (u.tick d).request.indicator.map Indicator.colour := by
  show some (Phase.colour (Task.phaseOf _)) = some (Phase.colour (Task.phaseOf _))
  rw [h.phaseOf hc]

/-! ## The events of a tick -/

/-- The events of a tick in order: the hint, what the decision reports, the change of the phase, and
the tick itself. -/
theorem tick_events (t : Task) (c : Context) : (t.tick c).events =
    ((t.near c).map (Event.ballNear c.frame)).toList ++ (t.decide c).events ++
      (if Task.phaseOf (t.decide c) = t.phase then []
        else [.phaseChanged c.frame t.phase (Task.phaseOf (t.decide c))]) ++
      [.ticked c.frame (t.decide c).body (t.decide c).state c.active] := by
  unfold tick
  cases t.near c <;> rfl

/-- Tasks that are alike report the same. -/
theorem Alike.info (h : Alike t u) (hc : c.Agree d) :
    (t.tick c).events.filter (·.level = .info) = (u.tick d).events.filter (·.level = .info) := by
  have hhint : ∀ (t : Task) (c : Context),
      ((t.near c).map (Event.ballNear c.frame)).toList.filter (·.level = .info) = [] := by
    intro t c
    cases t.near c <;> rfl
  obtain ⟨-, -, hevents⟩ := h.decide hc
  simp only [tick_events, List.filter_append, hhint]
  rw [hevents (· = .info) rfl, h.phaseOf hc, h.phase, hc.frame]
  rfl

/-- If they have the same settings and see the same, they ask for the same, and all their events are
the same but the warnings. -/
theorem Alike.quiet (h : Alike t u) (hc : c.Agree d) (hset : t.settings = u.settings)
    (hsee : c.sighting = d.sighting) :
    (t.tick c).request = (u.tick d).request ∧
      (t.tick c).events.filter (·.level ≠ .warn) = (u.tick d).events.filter (·.level ≠ .warn) := by
  obtain ⟨hstate, haction, hevents⟩ := h.decide hc
  have hbody : (t.decide c).body = (u.decide d).body := by
    refine Command.eq_of_action_of_turn haction ?_
    rw [decide_turn, decide_turn, hsee]
  have hnear : t.near c = u.near d := by
    unfold near
    rw [hset, hsee]
  have hphase := h.phaseOf hc
  constructor
  · show Request.mk _ _ _ = Request.mk _ _ _
    rw [hbody, hset, hsee, hphase]
  · simp only [tick_events, List.filter_append]
    rw [hevents (· ≠ .warn) rfl, hnear, hbody, hstate, hphase, h.phase, hc.frame, hc.active]

/-! ## Noninterference -/

/-- Two tasks are reset and fed with contexts that agree in the frame and in what motion shows; only
the lengths of their warm-ups have to be the same. Then after every tick they have the same status,
and in every tick they ask for the same action, with a light of the same colour, and report the
same. The turn of a tick is the heading in its own sighting, if that is a finite number, and its hint
compares the position in its own sighting with the threshold, so a higher threshold never takes a
hint away. Where the tasks have the same settings, and the sightings of the tick are the same, the
requests published before make no difference but to the warnings. -/
theorem tick_noninterference {t u : Task} (h : t.settings.walkFrames = u.settings.walkFrames)
    {cs ds : List Context} (hcs : List.Forall₂ Context.Agree cs ds) {i : Nat} {c d : Context}
    (hc : cs[i]? = some c) (hd : ds[i]? = some d) :
    let x := (t.init.after (cs.take i)).tick c
    let y := (u.init.after (ds.take i)).tick d
    (x.task.status = y.task.status ∧
      x.request.body.action = y.request.body.action ∧
      x.request.indicator.map Indicator.colour = y.request.indicator.map Indicator.colour ∧
      x.events.filter (·.level = .info) = y.events.filter (·.level = .info)) ∧
    (x.request.body.turn = match c.sighting.heading with
      | some heading => if heading.isFinite then heading else 0
      | none => 0) ∧
    (x.request.hint = match c.sighting.position with
      | some p => p.isFinite && p.x.less t.settings.threshold
      | none => false) ∧
    (c.sighting.position = d.sighting.position →
      t.settings.threshold.atMost u.settings.threshold = true →
      x.request.hint = true → y.request.hint = true) ∧
    (t.settings = u.settings → c.sighting = d.sighting →
      x.request = y.request ∧
        x.events.filter (·.level ≠ .warn) = y.events.filter (·.level ≠ .warn)) := by
  intro x y
  have hagree : c.Agree d := agree_of_getElem? hcs hc hd
  have halike : Alike (t.init.after (cs.take i)) (u.init.after (ds.take i)) :=
    (alike_init h).after (List.forall₂_take i hcs)
  have hsettings : (t.init.after (cs.take i)).settings = t.settings := after_settings _ _
  have hsettings' : (u.init.after (ds.take i)).settings = u.settings := after_settings _ _
  have hturn : x.request.body.turn = c.sighting.turn := decide_turn _ _
  have hhint : x.request.hint = c.sighting.isNear t.settings.threshold := by rw [← hsettings]; rfl
  have hhint' : y.request.hint = d.sighting.isNear u.settings.threshold := by rw [← hsettings']; rfl
  refine ⟨⟨(halike.tick hagree).status, (halike.decide hagree).2.1, halike.colour hagree,
    halike.info hagree⟩, hturn.trans c.sighting.turn_eq, hhint.trans (Sighting.isNear_eq _ _), ?_, ?_⟩
  · intro hsame hle hx
    rw [hhint] at hx
    rw [hhint', Sighting.isNear_eq, ← hsame, ← Sighting.isNear_eq]
    exact Sighting.isNear_mono hle hx
  · intro hset hsee
    exact halike.quiet hagree (by rw [hsettings, hsettings', hset]) hsee

/-- The tick after a warm-up of one frame, with a ball whose place is no number and another request
published, against the tick of a task that looks further and sees no ball. -/
theorem tick_noninterference_of_nan :
    let t : Task := ⟨{ Settings.standard with walkFrames := 1 }, .initial, .warmup, none⟩
    let u : Task := ⟨{ Settings.standard with walkFrames := 1, threshold := 500 }, .initial, .warmup, none⟩
    let wild : Sighting := ⟨some ⟨.nan, 0⟩, some (.infinite true)⟩
    let cs : List Context := [⟨0, wild, .none, default⟩, ⟨1, wild, .kick, ⟨.kick .nan, true, none⟩⟩]
    let ds : List Context := [⟨0, .lost, .none, default⟩, ⟨1, .lost, .kick, default⟩]
    ∃ c d, cs[1]? = some c ∧ ds[1]? = some d ∧
      ((t.init.after (cs.take 1)).tick c).task.status = ((u.init.after (ds.take 1)).tick d).task.status ∧
      ((t.init.after (cs.take 1)).tick c).request.body.turn = 0 ∧
      ((t.init.after (cs.take 1)).tick c).request.hint = false := by
  intro t u wild cs ds
  have hagree : List.Forall₂ Context.Agree cs ds := .cons ⟨rfl, rfl⟩ (.cons ⟨rfl, rfl⟩ .nil)
  obtain ⟨⟨hstatus, -⟩, hturn, hhint, -⟩ :=
    tick_noninterference (t := t) (u := u) rfl hagree (i := 1) rfl rfl
  exact ⟨_, _, rfl, rfl, hstatus, hturn, hhint⟩

end Task

end Striker
