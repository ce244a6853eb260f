/-
What an activation reports. Changes of the phase, ends of ball actions and counts of completed attempts
come about in three places: a task compares its phase with the one before, completes an attempt when its
latch is confirmed, and the summary compares each action with the one asked for before. Still they agree
tick by tick, so over a whole activation the changes go through the phases in turn, the ends name kick
and dribble in turn, and there are as many of them as the summary counts.
-/
import Striker.Proofs.Runner.Accounts
import Striker.Proofs.Task.Calls

namespace Striker

/-! ## Reports -/

namespace Event

/-- The phases before and after a change of the phase. -/
def change? : Event → Option (Phase × Phase)
  | phaseChanged _ before after => some (before, after)
  | _ => none

/-- The action that has come to its end. -/
def completed? : Event → Option Action
  | finished _ completed _ => some completed
  | _ => none

/-- Events that are sought, and all have the level of information, are found among those of that level. -/
theorem filter_info {p : Event → Bool} (hp : ∀ e : Event, p e = true → e.level = .info)
    (events : List Event) : (events.filter (·.level = .info)).filter p = events.filter p := by
  rw [List.filter_filter]
  refine List.filter_congr fun e _ => ?_
  by_cases he : p e = true
  · simp [he, hp e he]
  · simp [he]

theorem level_of_change {e : Event} (h : e.change?.isSome = true) : e.level = .info := by
  cases e <;> first | rfl | cases h

theorem level_of_completed {e : Event} (h : e.completed?.isSome = true) : e.level = .info := by
  cases e <;> first | rfl | cases h

/-- So are the values that some of them have. -/
theorem filterMap_info {α : Type} {f : Event → Option α}
    (hf : ∀ e : Event, (f e).isSome = true → e.level = .info) (events : List Event) :
    (events.filter (·.level = .info)).filterMap f = events.filterMap f := by
  rw [List.filterMap_filter]
  refine congrArg (List.filterMap · events) (funext fun e => ?_)
  cases he : f e with
  | none => simp
  | some a => simp [hf e (by rw [he]; rfl)]

end Event

namespace Task

variable {t : Task} {c : Context}

/-- What a tick reports. -/
def reports (t : Task) (c : Context) : List Event := (t.tick c).events.filter (·.level = .info)

/-- The end of a ball action is reported by the tick that turns from an attempt to the warm-up, and just
before it reports the change of the phase. Any other change is reported alone, and nothing else is. -/
theorem Sound.reports_eq (h : t.Sound) (c : Context) : t.reports c =
    if (t.tick c).task.phase = t.phase then []
    else (if (t.tick c).task.phase = .warmup
        then [.finished c.frame t.state.target.action c.active] else []) ++
      [.phaseChanged c.frame t.phase (t.tick c).task.phase] := by
  have hhint : ((t.near c).map (Event.ballNear c.frame)).toList.filter (·.level = .info) = [] := by
    cases t.near c <;> rfl
  have hsplit : t.reports c = (t.decide c).events.filter (·.level = .info) ++
      if (t.tick c).task.phase = t.phase then []
      else [.phaseChanged c.frame t.phase (t.tick c).task.phase] := by
    have hphase : phaseOf (t.decide c) = (t.tick c).task.phase := rfl
    rw [reports, tick_events, hphase]
    simp only [List.filter_append, hhint, List.nil_append]
    split <;> simp [Event.level]
  have hphase : (t.tick c).task.phase = phaseOf (t.decide c) := rfl
  rw [hsplit]
  rcases h.decide_cases c with ⟨hw, hd⟩ | ⟨-, hl, -, hd⟩ | ⟨-, -, hd⟩ <;> rw [hd] at hphase ⊢
  · have hwarmup : (t.tick c).task.phase = t.phase := by
      refine hphase.trans (Eq.symm ?_)
      by_contra hp
      exact absurd (h.attempting hp).1 (Nat.ne_of_lt hw)
    rw [if_pos hwarmup, if_pos hwarmup]
    rfl
  · have hchanges : ¬ (t.tick c).task.phase = t.phase := fun heq =>
      h.latched hl (heq.symm.trans hphase)
    have hwarmup : (t.tick c).task.phase = .warmup := hphase
    rw [if_neg hchanges, if_neg hchanges, if_pos hwarmup]
    rfl
  · have hattempt : ¬ (t.tick c).task.phase = .warmup := by
      rw [hphase]
      simp [phaseOf, attempt]
    have hquiet : (t.attempt c).events.filter (·.level = .info) = [] :=
      attempt_events t c (p := (· = .info)) rfl
    rw [hquiet, if_neg hattempt]
    rfl

/-- A tick that turns from an attempt to the warm-up ends the action of the target, when motion walks or
lines up, and reports that and the change next to each other. -/
theorem Sound.reports_end (h : t.Sound) (hbefore : t.phase ≠ .warmup)
    (hafter : (t.tick c).task.phase = .warmup) :
    c.active.endsBallAction = true ∧ t.phase = t.state.target.phase ∧
      [.finished c.frame t.state.target.action c.active, .phaseChanged c.frame t.phase .warmup]
        <:+: (t.tick c).events := by
  obtain ⟨hcounted, hp⟩ := h.attempting hbefore
  have hphase : (t.tick c).task.phase = phaseOf (t.decide c) := rfl
  rcases h.decide_cases c with ⟨hw, -⟩ | ⟨-, -, he, hd⟩ | ⟨-, -, hd⟩
  · exact absurd hcounted (Nat.ne_of_lt hw)
  · have hchanges : ¬ phaseOf (t.decide c) = t.phase := fun heq =>
      hbefore (heq.symm.trans (hphase.symm.trans hafter))
    refine ⟨he, hp, ?_⟩
    rw [tick_events, if_neg hchanges, hd, List.append_assoc (Option.toList _)]
    exact List.infix_append ..
  · rw [hphase, hd] at hafter
    simp [phaseOf, attempt] at hafter

end Task

/-! ## Reports of an activation -/

namespace Runner

section

variable {τ σ : Type} [Behaviour τ σ]

/-- The ticks against these boards, one after the other. -/
def ticks (r : Runner τ) : List Board → List (Ran τ σ)
  | [] => []
  | b :: boards => r.tick b :: ticks (r.tick b).runner boards

/-- The events of ticks against these boards. -/
def events (r : Runner τ) (boards : List Board) : List Event :=
  (r.ticks boards).flatMap Ran.events

theorem after_concat (r : Runner τ) (boards : List Board) (b : Board) :
    r.after (boards ++ [b]) = ((r.after boards).tick b).runner := by
  unfold after
  rw [List.foldl_append]
  rfl

theorem after_take_succ (r : Runner τ) {boards : List Board} {i : Nat} {b : Board}
    (h : boards[i]? = some b) :
    r.after (boards.take (i + 1)) = ((r.after (boards.take i)).tick b).runner := by
  rw [List.take_add_one, h]
  exact after_concat r (boards.take i) b

/-- The tick against a board starts from the runner that the boards before it have left. -/
theorem ticks_getElem? : ∀ (r : Runner τ) (boards : List Board) (i : Nat),
    (r.ticks boards)[i]? = boards[i]?.map fun b => (r.after (boards.take i)).tick b
  | _, [], _ => by simp [ticks]
  | _, _ :: _, 0 => by simp [ticks, after]
  | r, b :: boards, i + 1 => by
    simp only [ticks, List.getElem?_cons_succ, List.take_succ_cons]
    exact ticks_getElem? (r.tick b).runner boards i

theorem events_concat (r : Runner τ) (boards : List Board) (b : Board) :
    r.events (boards ++ [b]) = r.events boards ++ ((r.after boards).tick b).events := by
  induction boards generalizing r with
  | nil => simp [events, ticks, after]
  | cons d boards ih =>
    have hrest := ih (r.tick d).runner
    simp only [events, List.cons_append, ticks, List.flatMap_cons] at hrest ⊢
    rw [hrest, List.append_assoc]
    rfl

end

/-- The phase that a tick starts from: that of the tick before it, or the warm-up before the first. -/
def phaseBefore (ticks : List (Ran Task Status)) : Nat → Phase
  | 0 => .warmup
  | i + 1 => (ticks[i]?.map fun x => x.entry.status.phase).getD .warmup

/-- The changes of the phase in the course of an attempt at each target in turn. -/
def rounds : List (Phase × Phase) :=
  [(.warmup, .kickAttempt), (.kickAttempt, .warmup), (.warmup, .dribbleAttempt),
    (.dribbleAttempt, .warmup)]

/-- The changes of the phase in `n` attempts. -/
def phaseChanges (n : Nat) : List (Phase × Phase) :=
  (List.range n).flatMap fun k => [(.warmup, (Target.nth k).phase), ((Target.nth k).phase, .warmup)]

theorem phaseChanges_succ (n : Nat) : phaseChanges (n + 1) =
    phaseChanges n ++ [(.warmup, (Target.nth n).phase), ((Target.nth n).phase, .warmup)] := by
  simp [phaseChanges, List.range_succ, List.flatMap_append]

/-- Two attempts go once through the rounds. -/
theorem phaseChanges_double (n : Nat) : phaseChanges (2 * n) = (List.replicate n rounds).flatten := by
  induction n with
  | zero => rfl
  | succ n ih =>
    have heven : Target.nth (2 * n) = .kick := if_pos (Nat.mul_mod_right 2 n)
    rw [Nat.mul_succ, phaseChanges_succ, phaseChanges_succ, ih, List.replicate_succ', List.flatten_concat,
      Target.nth_succ, heven, List.append_assoc]
    rfl

variable {r : Runner Task}

/-- What an activation has reported: the changes of as many attempts as are completed, with the change to
the attempt that is going on, and the end of each of those attempts. -/
structure Reported (r : Runner Task) (events : List Event) : Prop where
  changes : events.filterMap Event.change? = phaseChanges r.summary.completed ++
    if r.task.phase = .warmup then [] else [(.warmup, r.task.phase)]
  ends : events.filterMap Event.completed? =
    (List.range r.summary.completed).map fun k => (Target.nth k).action

theorem reported_activate (t : Task) : (activate t).Reported [] := ⟨rfl, rfl⟩

theorem Reported.tick {events : List Event} (h : r.Reported events) (hs : r.Sound)
    (ha : r.Alternates) (b : Board) :
    (r.tick b).runner.Reported (events ++ (r.tick b).events) := by
  have hreports := hs.task.reports_eq (r.context b)
  have hchanges : (events ++ (r.tick b).events).filterMap Event.change? =
      events.filterMap Event.change? ++ (r.task.reports (r.context b)).filterMap Event.change? := by
    rw [List.filterMap_append]
    exact congrArg _ (Event.filterMap_info (fun _ => Event.level_of_change) _).symm
  have hends : (events ++ (r.tick b).events).filterMap Event.completed? =
      events.filterMap Event.completed? ++
        (r.task.reports (r.context b)).filterMap Event.completed? := by
    rw [List.filterMap_append]
    exact congrArg _ (Event.filterMap_info (fun _ => Event.level_of_completed) _).symm
  rw [h.changes] at hchanges
  rw [h.ends] at hends
  rw [← tick_task] at hreports
  rcases hs.tick_cases b with ⟨hw, -, hp, -, hc⟩ | ⟨-, hl, -, -, hp, -, hc⟩ | ⟨-, -, -, hp, -, hc⟩
  · have hwarmup : r.task.phase = .warmup := by
      by_contra hn
      exact absurd (hs.task.attempting hn).1 (Nat.ne_of_lt hw)
    rw [hp, if_pos hwarmup.symm] at hreports
    rw [hreports] at hchanges hends
    exact ⟨by simp [hchanges, hc, hp, hwarmup], by simp [hends, hc]⟩
  · -- the change to the attempt has been reported, and now it ends
    have hnot := hs.task.latched hl
    have hattempt : r.task.phase = (Target.nth r.summary.completed).phase := by
      rw [← ha.target]
      exact (hs.task.attempting hnot).2
    rw [hp, if_neg (Ne.symm hnot), if_pos rfl, ha.target] at hreports
    rw [hreports] at hchanges hends
    exact ⟨by simp [hchanges, hc, hp, hattempt, phaseChanges_succ, List.filterMap_cons, Event.change?],
      by simp [hends, hc, List.range_succ, Event.completed?]⟩
  · have hnot : (r.tick b).runner.task.phase ≠ .warmup := by
      rw [hp]
      exact r.task.state.target.phase_ne_warmup
    rw [if_neg hnot] at hreports
    by_cases hwarmup : r.task.phase = .warmup
    · have hstarts : (r.tick b).runner.task.phase ≠ r.task.phase := fun heq =>
        hnot (heq.trans hwarmup)
      rw [if_neg hstarts] at hreports
      rw [hreports] at hchanges hends
      exact ⟨by simp [hchanges, hc, hnot, hwarmup, Event.change?],
        by simp [hends, hc, Event.completed?]⟩
    · have hstays : (r.tick b).runner.task.phase = r.task.phase :=
        hp.trans (hs.task.attempting hwarmup).2.symm
      rw [if_pos hstays] at hreports
      rw [hreports] at hchanges hends
      exact ⟨by simp [hchanges, hc, hstays], by simp [hends, hc]⟩

theorem sound_after (t : Task) (boards : List Board) : ((activate t).after boards).Sound :=
  after_invariant (fun _ b hs => hs.tick b) (sound_activate t) boards

theorem reported_after (t : Task) (boards : List Board) :
    ((activate t).after boards).Reported ((activate t).events boards) := by
  induction boards using List.reverseRecOn with
  | nil => exact reported_activate t
  | append_singleton boards b ih =>
    rw [after_concat, events_concat]
    exact ih.tick (sound_after t boards) (balanced_after t boards).2 b

theorem phaseChanges_mono {m n : Nat} (h : m ≤ n) : phaseChanges m <+: phaseChanges n := by
  induction n, h using Nat.le_induction with
  | base => exact List.prefix_rfl
  | succ n _ ih => exact phaseChanges_succ n ▸ ih.trans (List.prefix_append ..)

/-- The changes that an activation has reported are a beginning of the rounds. -/
theorem Reported.prefix_rounds {events : List Event} (h : r.Reported events) (ha : r.Alternates)
    (hs : r.Sound) : events.filterMap Event.change? <+:
      (List.replicate (r.summary.completed + 1) rounds).flatten := by
  have hnext : events.filterMap Event.change? <+: phaseChanges (r.summary.completed + 1) := by
    rw [h.changes, phaseChanges_succ]
    refine (List.prefix_append_right_inj _).2 ?_
    split
    · exact List.nil_prefix
    · rename_i hn
      rw [(hs.task.attempting hn).2, ha.target]
      exact List.prefix_append [_] [_]
  rw [← phaseChanges_double]
  exact hnext.trans (phaseChanges_mono (by omega))

/-! ## Reports and records -/

/-- The phase that a tick starts from is the one that its task is in. -/
theorem phaseBefore_ticks (t : Task) {boards : List Board} {i : Nat} (hi : i ≤ boards.length) :
    phaseBefore ((activate t).ticks boards) i = ((activate t).after (boards.take i)).task.phase := by
  cases i with
  | zero => rfl
  | succ i =>
    have hb : boards[i]? = some boards[i] := List.getElem?_eq_getElem hi
    rw [phaseBefore, ticks_getElem?, hb, after_take_succ _ hb]
    rfl

/-- The reports of one tick, told from its record and from the phase before it. -/
theorem Sound.tick_reports (h : r.Sound) (b : Board) :
    let x := r.tick b
    let ends := x.entry.request.body.isWalk = true ∧ r.task.phase ≠ .warmup
    (x.events.filter (·.change?.isSome) = if x.entry.status.phase = r.task.phase then []
      else [.phaseChanged r.frame r.task.phase x.entry.status.phase]) ∧
    (ends → (x.entry.active = .walk ∨ x.entry.active = .lineUp) ∧ ∃ target : Target,
      r.task.phase = target.phase ∧
      x.events.filter (·.completed?.isSome) = [.finished r.frame target.action x.entry.active] ∧
      [.finished r.frame target.action x.entry.active, .phaseChanged r.frame r.task.phase .warmup]
        <:+: x.events) ∧
    (¬ ends → x.events.filter (·.completed?.isSome) = []) := by
  intro x ends
  have hreports := h.task.reports_eq (r.context b)
  have hchange : x.events.filter (·.change?.isSome) =
      (r.task.reports (r.context b)).filter (·.change?.isSome) :=
    (Event.filter_info (fun _ => Event.level_of_change) _).symm
  have hcompleted : x.events.filter (·.completed?.isSome) =
      (r.task.reports (r.context b)).filter (·.completed?.isSome) :=
    (Event.filter_info (fun _ => Event.level_of_completed) _).symm
  have hphase : x.entry.status.phase = (r.task.tick (r.context b)).task.phase := rfl
  have hends : ends ↔ x.entry.status.phase = .warmup ∧ r.task.phase ≠ .warmup :=
    and_congr_left' ((h.task.isWalk_iff (r.context b)).trans (by rw [hphase]))
  rw [hends, hchange, hcompleted, hreports, ← hphase]
  refine ⟨?_, fun he => ?_, fun he => ?_⟩
  · split
    · rfl
    · split <;> rfl
  · obtain ⟨hafter, hbefore⟩ := he
    obtain ⟨hactive, htarget, hinfix⟩ := h.task.reports_end hbefore (hphase.symm.trans hafter)
    have hchanges : x.entry.status.phase ≠ r.task.phase := fun heq => hbefore (heq ▸ hafter)
    refine ⟨Action.endsBallAction_iff.1 hactive, r.task.state.target, htarget, ?_, hinfix⟩
    rw [if_neg hchanges, if_pos hafter]
    rfl
  · split
    · rfl
    · rename_i hchanges
      have hwarmup : x.entry.status.phase ≠ .warmup := fun hafter =>
        he ⟨hafter, fun hbefore => hchanges (hafter.trans hbefore.symm)⟩
      rw [if_neg hwarmup]
      rfl

/-- Kicks and dribbles among the ends of `n` attempts. -/
theorem count_ends (n : Nat) :
    ((List.range n).map fun k => (Target.nth k).action).count .kick = (n + 1) / 2 ∧
      ((List.range n).map fun k => (Target.nth k).action).count .dribble = n / 2 := by
  induction n with
  | zero => exact ⟨rfl, rfl⟩
  | succ n ih =>
    obtain ⟨hkick, hdribble⟩ := ih
    rw [List.range_succ, List.map_append, List.count_append, List.count_append, hkick, hdribble]
    rcases Nat.mod_two_eq_zero_or_one n with hn | hn
    · have hnth : Target.nth n = .kick := if_pos hn
      simp only [List.map_cons, List.map_nil, hnth, Target.action, List.count_singleton]
      simp
      omega
    · have hnth : Target.nth n = .dribble := if_neg (by omega)
      simp only [List.map_cons, List.map_nil, hnth, Target.action, List.count_singleton]
      simp
      omega

/-- What the ticks of an activation report, for every task that is activated and every series of boards.
A tick reports a change of the phase exactly if its record shows another phase than the record before
it, or than the warm-up if it is the first. It reports the end of a ball action exactly if it walks and
the tick before it did not belong to a warm-up; then it names the target of that attempt and what motion
does, which is walking or lining up, and the change back to the warm-up comes next among its events. The
changes are a beginning of the rounds, repeated, and the actions that end are those of kick and dribble
in turn. There are as many of each as the summary counts, and as deactivation tells. -/
theorem reports_agree (t : Task) (boards : List Board) :
    let r := (activate t).after boards
    let ticks := (activate t).ticks boards
    let events := ticks.flatMap Ran.events
    (∀ i x, ticks[i]? = some x →
      let before := phaseBefore ticks i
      let ends := x.entry.request.body.isWalk = true ∧ before ≠ .warmup
      (x.events.filter (·.change?.isSome) = if x.entry.status.phase = before then []
        else [.phaseChanged i before x.entry.status.phase]) ∧
      (ends → (x.entry.active = .walk ∨ x.entry.active = .lineUp) ∧ ∃ target : Target,
        before = target.phase ∧
        x.events.filter (·.completed?.isSome) = [.finished i target.action x.entry.active] ∧
        [.finished i target.action x.entry.active, .phaseChanged i before .warmup] <:+: x.events) ∧
      (¬ ends → x.events.filter (·.completed?.isSome) = [])) ∧
    (∃ n, events.filterMap Event.change? <+: (List.replicate n rounds).flatten) ∧
    events.filterMap Event.completed? =
      (List.range r.summary.completed).map (fun k => (Target.nth k).action) ∧
    (events.filterMap Event.completed?).count .kick = r.summary.kicksCompleted ∧
    (events.filterMap Event.completed?).count .dribble = r.summary.dribblesCompleted ∧
    r.deactivation = .deactivated Task.name boards.length
      ((events.filterMap Event.completed?).count .kick)
      ((events.filterMap Event.completed?).count .dribble) := by
  intro r ticks events
  have hreported : r.Reported events := reported_after t boards
  obtain ⟨hbalanced, halternates⟩ := balanced_after t boards
  have hkicks : (events.filterMap Event.completed?).count .kick = r.summary.kicksCompleted := by
    rw [hreported.ends, (count_ends _).1, halternates.kicks]
  have hdribbles :
      (events.filterMap Event.completed?).count .dribble = r.summary.dribblesCompleted := by
    rw [hreported.ends, (count_ends _).2, halternates.dribbles]
  refine ⟨fun i x hx => ?_, ?_, hreported.ends, hkicks, hdribbles, ?_⟩
  · obtain ⟨b, hb, rfl⟩ := Option.map_eq_some_iff.1 ((ticks_getElem? _ _ _).symm.trans hx)
    have hi : i < boards.length := (List.getElem?_eq_some_iff.1 hb).1
    have hframe : ((activate t).after (boards.take i)).frame = i := by
      rw [(after_frame _ _).1, List.length_take_of_le (Nat.le_of_lt hi)]
      exact Nat.zero_add i
    have hreports := (sound_after t (boards.take i)).tick_reports b
    rw [hframe, ← phaseBefore_ticks t (Nat.le_of_lt hi)] at hreports
    exact hreports
  · exact ⟨r.summary.completed + 1, hreported.prefix_rounds halternates (sound_after t boards)⟩
  · have hframe : r.frame = boards.length := by
      rw [(after_frame _ _).1]
      exact Nat.zero_add _
    rw [hkicks, hdribbles, ← hframe]
    rfl

end Runner

end Striker
