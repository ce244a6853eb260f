/-
The pace of motion. Behaviour may run faster than motion, in any irregular pattern, as long as
motion updates at most once from a tick to the next, and does not sleep through as many ticks in a
row as a warm-up has, and one more. Then nothing is missed. Every report of motion is seen by a tick,
so an action that is over has been latched; the walk of a warm-up reaches motion, so an attempt begins
while motion walks; and each update brings motion closer to the end of the action that is asked for,
so an attempt is completed in a bounded number of ticks.

A schedule is a list of moves. How motion has kept pace lately is said of the end of a schedule from
one of its ticks on, and what follows from that for the state is kept along the schedule.
-/
import Striker.Proofs.Session.Deadlock
import Striker.Proofs.Session.Safety

namespace Striker

namespace Session

/-! ## Schedules -/

/-- The end of a schedule, from one of its ticks on. -/
structure Since (part p : List Move) : Prop where
  suffix : part <:+ p
  head : part.head? = some .tick

/-- Motion has updated at most once since the last tick. -/
def Prompt (p : List Move) : Prop :=
  ∀ part, Since part p → part.count .tick = 1 → part.count .update ≤ 1

/-- Motion has updated since the first of the last `window` ticks. -/
def Awake (window : Nat) (p : List Move) : Prop :=
  ∀ part, Since part p → part.count .tick = window → .update ∈ part

/-- A schedule of one activation in which motion keeps pace with the ticks. When a tick comes, motion
has updated at most once since the tick before it, and, if there have been `window` ticks, at least
once since the first of the last so many. -/
structure Paced (window : Nat) (moves : List Move) : Prop where
  single : ∀ m ∈ moves, m.replaces = false
  once : ∀ p, p ++ [Move.tick] <+: moves → Prompt p
  often : ∀ p, p ++ [Move.tick] <+: moves → Awake window p

theorem forall_since_iff {p : List Move} {P : List Move → Prop} :
    (∀ part, Since part p → P part) ↔ ∀ part ∈ p.tails, part.head? = some .tick → P part := by
  simp only [List.mem_tails]
  exact ⟨fun h part hs hh => h part ⟨hs, hh⟩, fun h part hp => h part hp.suffix hp.head⟩

instance (p : List Move) : Decidable (Prompt p) := decidable_of_iff _ forall_since_iff.symm

instance (window : Nat) (p : List Move) : Decidable (Awake window p) :=
  decidable_of_iff _ forall_since_iff.symm

instance (window : Nat) (moves : List Move) : Decidable (Paced window moves) :=
  decidable_of_iff ((∀ m ∈ moves, m.replaces = false) ∧
    ∀ p ∈ moves.inits, p ++ [Move.tick] <+: moves → Prompt p ∧ Awake window p) <| by
    constructor
    · rintro ⟨hsingle, hticks⟩
      have hticks' : ∀ p, p ++ [Move.tick] <+: moves → Prompt p ∧ Awake window p := fun p hp =>
        hticks p ((List.mem_inits _ _).2 ((List.prefix_append p _).trans hp)) hp
      exact ⟨hsingle, fun p hp => (hticks' p hp).1, fun p hp => (hticks' p hp).2⟩
    · intro h
      exact ⟨h.single, fun p _ hp => ⟨h.once p hp, h.often p hp⟩⟩

section

variable {part p q moves : List Move} {window : Nat}

theorem Since.concat (h : Since part p) (m : Move) : Since (part ++ [m]) (p ++ [m]) := by
  obtain ⟨⟨t, rfl⟩, hhead⟩ := h
  refine ⟨⟨t, (List.append_assoc ..).symm⟩, ?_⟩
  rw [List.head?_append, hhead]
  rfl

theorem since_tick (p : List Move) : Since [.tick] (p ++ [Move.tick]) := ⟨List.suffix_append _ _, rfl⟩

theorem count_tick_concat {m : Move} (hm : m ≠ .tick) :
    (part ++ [m]).count .tick = part.count .tick := by
  rw [List.count_append, List.count_singleton]
  simp [hm]

theorem prompt_tick (p : List Move) : Prompt (p ++ [Move.tick]) := by
  rintro part ⟨hsuffix, hhead⟩ hcount
  rcases List.suffix_concat_iff.1 hsuffix with rfl | ⟨t, rfl, -⟩
  · cases hhead
  · cases t with
    | nil => decide
    | cons m t =>
      -- the part would begin with a tick and end with another
      obtain rfl : m = .tick := Option.some.inj hhead
      simp at hcount

theorem Prompt.of_concat {m : Move} (hm : m ≠ .tick) (h : Prompt (p ++ [m])) : Prompt p := by
  intro part hpart hcount
  have hle := h (part ++ [m]) (hpart.concat m) ((count_tick_concat hm).trans hcount)
  rw [List.count_append] at hle
  exact Nat.le_of_add_right_le hle

/-- What is prompt at the end has been prompt all the time. -/
theorem Paced.prompt_of_append (hp : Paced window moves) (h : p ++ q <+: moves)
    (hc : Prompt (p ++ q)) : Prompt p := by
  induction q using List.reverseRecOn with
  | nil => rwa [List.append_nil] at hc
  | append_singleton q m ih =>
    rw [← List.append_assoc] at h hc
    refine ih ((List.prefix_append _ _).trans h) ?_
    by_cases hm : m = .tick
    · subst hm
      exact hp.once _ h
    · exact hc.of_concat hm

end

/-! ## What is kept -/

/-- The first activation of a session after the moves `p`. Of a schedule that keeps pace it says what
has been heard lately: motion that has finished, and still waits for the walk of the warm-up, has
slept since the tick that completed the attempt; a ball action that no tick has seen yet began after
the last tick; and one that is over has been seen. -/
structure Kept (window : Nat) (p : List Move) (s : Session) : Prop where
  linked : s.Linked
  credited : s.Credited
  lockstep : s.Lockstep
  warmup : s.runner.task.warmup + 1 = window
  ticked : s.runner.task.phase ≠ .warmup → ∃ part, Since part p ∧ part.count .tick = 1
  waiting : s.runner.task.phase = .warmup → s.motion.stage = .finished →
    ∃ part, Since part p ∧ part.count .tick = s.runner.task.state.walkFrames + 1 ∧ .update ∉ part
  begun : s.runner.task.phase ≠ .warmup → s.runner.task.state.handshake = .notTriggered →
    (∃ a left, s.motion.stage = .performing a left) →
    ∃ part, Since part p ∧ part.count .tick = 1 ∧ .update ∈ part
  latched : s.runner.task.phase ≠ .warmup → s.motion.stage = .finished →
    s.runner.task.state.handshake = .triggered

theorem kept_start (settings : Settings.Valid) (lineup length : Nat) :
    Kept (settings.1.walkFrames.toNat + 1) [] (start settings lineup length) :=
  ⟨linked_start .., credited_start .., lockstep_start .., rfl, fun h => absurd rfl h, nofun,
    fun h => absurd rfl h, fun h => absurd rfl h⟩

section

variable {window : Nat} {p : List Move} {s : Session}

/-- When an attempt goes on, motion has not finished without being seen. -/
theorem Kept.not_finished (h : Kept window p s) (hawake : Awake window p)
    (hw : s.runner.task.state.walkFrames = s.runner.task.warmup)
    (hn : ¬ (s.runner.task.state.handshake = .triggered ∧ s.board.active.endsBallAction = true)) :
    s.motion.stage ≠ .finished := by
  intro hs
  by_cases hphase : s.runner.task.phase = .warmup
  · obtain ⟨part, hpart, hcount, hasleep⟩ := h.waiting hphase hs
    rw [hw, h.warmup] at hcount
    exact hasleep (hawake part hpart hcount)
  · exact hn ⟨h.latched hphase hs, h.linked.ended hs⟩

/-- While motion performs a ball action the next tick sees it. -/
theorem Kept.tick_latches (h : Kept window p s) {a : Action} {left : Nat}
    (hs : s.motion.stage = .performing a left) :
    s.runner.task.state.handshake.observe s.board.active s.runner.task.state.target.action =
      .triggered := by
  rw [Handshake.observe_eq_triggered h.linked.runner.task.unconfirmed]
  right
  rw [(h.linked.not_ended hs).1]
  exact (h.lockstep.pursued a (by rw [hs]; rfl)).1

theorem Kept.tick (h : Kept window p s) (hawake : Awake window p) :
    Kept window (p ++ [Move.tick]) (s.step .tick) := by
  have hlinked := h.linked.step .tick
  have hcredited := h.credited.step h.linked .tick
  have hlockstep := h.lockstep.tick h.credited h.linked
  have hsince : ∃ part, Since part (p ++ [Move.tick]) ∧ part.count .tick = 1 :=
    ⟨_, since_tick p, by decide⟩
  rcases h.linked.runner.tick_cases s.board with
    ⟨hw, ht, hp, -⟩ | ⟨-, -, -, ht, hp, -⟩ | ⟨hw, hn, ht, hp, -⟩
  · -- a frame of the warm-up: motion that slept before it has slept for one tick more
    refine ⟨hlinked, hcredited, hlockstep, h.warmup, fun _ => hsince, fun _ hs => ?_,
      fun hne => absurd hp hne, fun hne => absurd hp hne⟩
    have hphase : s.runner.task.phase = .warmup := by
      by_contra hne
      have := (h.linked.runner.task.attempting hne).1
      omega
    obtain ⟨part, hpart, hcount, hasleep⟩ := h.waiting hphase hs
    refine ⟨part ++ [Move.tick], hpart.concat _, ?_, by simp [hasleep]⟩
    rw [step_tick, ht, List.count_append, hcount]
    rfl
  · -- the completion of an attempt
    refine ⟨hlinked, hcredited, hlockstep, h.warmup, fun _ => hsince, fun _ _ => ?_,
      fun hne => absurd hp hne, fun hne => absurd hp hne⟩
    refine ⟨[.tick], since_tick p, ?_, by decide⟩
    rw [step_tick, ht]
    exact List.count_singleton_self
  · -- an attempt that goes on: motion has not finished, and what it performs is seen
    have hphase : (s.step .tick).runner.task.phase ≠ .warmup := by
      rw [step_tick, hp]
      exact Target.phase_ne_warmup _
    refine ⟨hlinked, hcredited, hlockstep, h.warmup, fun _ => hsince,
      fun hwarm => absurd hwarm hphase, fun _ hopen hs => ?_,
      fun _ hs => absurd hs (h.not_finished hawake hw hn)⟩
    obtain ⟨a, left, hs⟩ := hs
    rw [step_tick, ht] at hopen
    rw [h.tick_latches hs] at hopen
    cases hopen

theorem Kept.perceive (h : Kept window p s) (g : Sighting) :
    Kept window (p ++ [Move.perceive g]) (s.step (.perceive g)) := by
  have hne : Move.perceive g ≠ .tick := nofun
  refine ⟨h.linked.step _, h.credited.step h.linked _, h.lockstep.step h.credited h.linked rfl,
    h.warmup, fun hp => ?_, fun hp hs => ?_, fun hp hopen hs => ?_, h.latched⟩
  · obtain ⟨part, hpart, hcount⟩ := h.ticked hp
    exact ⟨_, hpart.concat _, (count_tick_concat hne).trans hcount⟩
  · obtain ⟨part, hpart, hcount, hasleep⟩ := h.waiting hp hs
    exact ⟨_, hpart.concat _, (count_tick_concat hne).trans hcount, by simp [hasleep]⟩
  · obtain ⟨part, hpart, hcount, hupdate⟩ := h.begun hp hopen hs
    exact ⟨_, hpart.concat _, (count_tick_concat hne).trans hcount, by simp [hupdate]⟩

/-- In a warm-up motion is not going to finish anything. -/
theorem Kept.walks (h : Kept window p s) (hp : s.runner.task.phase = .warmup) :
    (s.step .update).motion.stage = .walking := by
  have hidle := (h.lockstep.idle hp).2
  rw [step_update, h.lockstep.walking hp]
  refine h.linked.motion.step_walk fun a left hs => ?_
  rw [hs] at hidle
  cases hidle

/-- A ball action that an update ends has been seen, since it began before the last tick. -/
theorem Kept.latched_update (h : Kept window p s) (hprompt : Prompt (p ++ [Move.update]))
    (hphase : s.runner.task.phase ≠ .warmup)
    (hs : (s.step .update).motion.stage = .finished) :
    s.runner.task.state.handshake = .triggered := by
  rw [step_update, h.lockstep.asking hphase] at hs
  cases hstage : s.motion.stage with
  | walking =>
    rw [Motion.walking_step hstage] at hs
    rcases s.motion.begin_cases s.runner.task.state.target.action with ⟨left, hb⟩ | hb <;>
      rw [hb] at hs <;> cases hs
  | liningUp a left =>
    rw [← (h.lockstep.pursued a (by rw [hstage]; rfl)).1, Motion.liningUp_step hstage] at hs
    split at hs <;> cases hs
  | performing a left =>
    cases hlatch : s.runner.task.state.handshake with
    | triggered => rfl
    | confirmed => exact absurd hlatch h.linked.runner.task.unconfirmed
    | notTriggered =>
      -- the action began after the last tick, so this would be the second update since
      obtain ⟨part, hpart, hcount, hupdate⟩ := h.begun hphase hlatch ⟨a, left, hstage⟩
      have hone := hprompt _ (hpart.concat .update)
        ((count_tick_concat (show Move.update ≠ .tick by nofun)).trans hcount)
      have htwo : 0 < part.count .update := List.count_pos_iff.2 hupdate
      rw [List.count_append, List.count_singleton_self] at hone
      omega
  | finished => exact h.latched hphase hstage

theorem Kept.update (h : Kept window p s) (hprompt : Prompt (p ++ [Move.update])) :
    Kept window (p ++ [Move.update]) (s.step .update) := by
  have hne : Move.update ≠ .tick := nofun
  refine ⟨h.linked.step _, h.credited.step h.linked _, h.lockstep.step h.credited h.linked rfl,
    h.warmup, fun hp => ?_, fun hp hs => ?_, fun hp _ _ => ?_,
    fun hp hs => h.latched_update hprompt hp hs⟩
  · obtain ⟨part, hpart, hcount⟩ := h.ticked hp
    exact ⟨_, hpart.concat _, (count_tick_concat hne).trans hcount⟩
  · rw [h.walks hp] at hs
    cases hs
  · obtain ⟨part, hpart, hcount⟩ := h.ticked hp
    exact ⟨_, hpart.concat .update, (count_tick_concat hne).trans hcount, by simp⟩

end

theorem kept_run {settings : Settings.Valid} {moves : List Move}
    (hp : Paced (settings.1.walkFrames.toNat + 1) moves) (lineup length : Nat) {p : List Move}
    (h : p <+: moves) (hprompt : Prompt p) :
    Kept (settings.1.walkFrames.toNat + 1) p ((start settings lineup length).run p) := by
  -- from the end: the last move finds what is kept after the moves before it
  induction p using List.reverseRecOn with
  | nil => exact kept_start settings lineup length
  | append_singleton p m ih =>
    have hbefore := ih ((List.prefix_append p _).trans h) (hp.prompt_of_append h hprompt)
    have hm : m.replaces = false := hp.single m (h.subset (by simp))
    rw [run_concat]
    cases m with
    | tick => exact hbefore.tick (hp.often p h)
    | update => exact hbefore.update hprompt
    | perceive g => exact hbefore.perceive g
    | activate settings => cases hm

/-! ## Attempts -/

/-- The tick that follows asks for a ball action, and the one before it did not. -/
def Begins (s : Session) : Prop :=
  s.board.request.body.action = .walk ∧ (s.step .tick).board.request.body.action.isBallAction = true

instance (s : Session) : Decidable s.Begins := inferInstanceAs (Decidable (_ ∧ _))

/-- The tick that follows completes the attempt that is going on. -/
structure Ends (s : Session) : Prop where
  walks : (s.step .tick).board.request.body.action = .walk
  completed : (s.step .tick).completed = s.completed + 1

/-- An attempt that is going on goes on during the moves `l`, and every update among them does some of
its work. -/
structure GoesOn (s : Session) (l : List Move) : Prop where
  phase : (s.run l).runner.task.phase ≠ .warmup
  target : (s.run l).runner.task.state.target = s.runner.task.state.target
  completed : (s.run l).completed = s.completed
  asked : ∀ q, q <+: l →
    (s.run q).board.request.body.action = s.runner.task.state.target.action
  work : (s.run l).motion.stage.work s.motion.lineup s.motion.length =
    s.motion.stage.work s.motion.lineup s.motion.length - l.count .update

section

variable {window : Nat} {p l moves : List Move} {s : Session}

theorem Kept.goesOn_nil (h : Kept window p s) (hp : s.runner.task.phase ≠ .warmup) : GoesOn s [] := by
  refine ⟨hp, rfl, rfl, fun q hq => ?_, rfl⟩
  rw [List.prefix_nil.1 hq]
  exact h.lockstep.asking hp

/-- A move that keeps the attempt, and asks for its target, lets it go on. -/
theorem GoesOn.extend (h : GoesOn s l) {m : Move}
    (hphase : ((s.run l).step m).runner.task.phase ≠ .warmup)
    (htarget : ((s.run l).step m).runner.task.state.target = (s.run l).runner.task.state.target)
    (hcompleted : ((s.run l).step m).completed = (s.run l).completed)
    (hasked : ((s.run l).step m).board.request.body.action =
      (s.run l).runner.task.state.target.action)
    (hwork : ((s.run l).step m).motion.stage.work s.motion.lineup s.motion.length =
      (s.run l).motion.stage.work s.motion.lineup s.motion.length - [m].count .update) :
    GoesOn s (l ++ [m]) := by
  refine ⟨?_, ?_, ?_, fun q hq => ?_, ?_⟩
  · rwa [run_concat]
  · rw [run_concat, htarget, h.target]
  · rw [run_concat, hcompleted, h.completed]
  · rcases List.prefix_concat_iff.1 hq with rfl | hq
    · rw [run_concat, hasked, h.target]
    · exact h.asked q hq
  · rw [run_concat, hwork, h.work, List.count_append, Nat.sub_sub]

/-- An attempt goes on for one move more, unless that is the tick that completes it. -/
theorem GoesOn.concat (h : GoesOn s l) (hk : Kept window p (s.run l)) {m : Move}
    (hm : m.replaces = false) : GoesOn s (l ++ [m]) ∨ m = .tick ∧ Ends (s.run l) := by
  -- what motion reads at an update is the target, and that is what it pursues
  have hasking := hk.lockstep.asking h.phase
  obtain ⟨hlineup, hlength⟩ := run_motion s l
  cases m with
  | tick =>
    rcases hk.linked.runner.tick_cases (s.run l).board with
      ⟨hw, -⟩ | ⟨-, -, -, -, -, ha, hc⟩ | ⟨-, -, ht, hp, ha, hc⟩
    · have := (hk.linked.runner.task.attempting h.phase).1
      omega
    · refine .inr ⟨rfl, ha, ?_⟩
      rw [step_tick]
      simp only [Session.completed, hc, Nat.add_assoc]
    · refine .inl (h.extend ?_ ?_ ?_ ha rfl)
      · rw [step_tick, hp]
        exact Target.phase_ne_warmup _
      · rw [step_tick, ht]
      · rw [step_tick]
        simp only [Session.completed, hc]
  | update =>
    refine .inl (h.extend h.phase rfl (completed_update _) hasking ?_)
    rw [← hlineup, ← hlength, step_update, hasking]
    exact hk.linked.motion.work_step fun a ha => (hk.lockstep.pursued a ha).1
  | perceive g => exact .inl (h.extend h.phase rfl rfl hasking rfl)
  | activate settings => cases hm

/-- An attempt goes on during all of the moves, or a tick among them completes it. -/
theorem goesOn_or_ends (hsingle : ∀ m ∈ l, m.replaces = false)
    (hkept : ∀ q, q <+: l → Kept window (p ++ q) (s.run q))
    (hphase : s.runner.task.phase ≠ .warmup) :
    GoesOn s l ∨ ∃ mid post, l = mid ++ Move.tick :: post ∧ GoesOn s mid ∧ Ends (s.run mid) := by
  induction l using List.reverseRecOn with
  | nil => exact .inl ((hkept [] (List.prefix_refl _)).goesOn_nil hphase)
  | append_singleton l m ih =>
    have hl : l <+: l ++ [m] := List.prefix_append l _
    rcases ih (fun m' hm' => hsingle m' (List.mem_append_left _ hm'))
      (fun q hq => hkept q (hq.trans hl)) with hgoes | ⟨mid, post, rfl, hgoes, hends⟩
    · rcases hgoes.concat (hkept l hl) (hsingle m (by simp)) with hon | ⟨rfl, hends⟩
      · exact .inl hon
      · exact .inr ⟨l, [], rfl, hgoes, hends⟩
    · exact .inr ⟨mid, post ++ [m], by simp, hgoes, hends⟩

/-- An attempt begins while motion walks. -/
theorem Kept.begins (h : Kept window p s) (hawake : Awake window p) (hb : s.Begins) :
    s.motion.stage = .walking ∧ (s.step .tick).runner.task.phase ≠ .warmup ∧
      (s.step .tick).runner.task.state.target = s.runner.task.state.target ∧
      (s.step .tick).completed = s.completed := by
  obtain ⟨hwalk, hball⟩ := hb
  -- during an attempt the board would hold the target
  have hphase : s.runner.task.phase = .warmup := by
    by_contra hne
    rw [h.lockstep.asking hne] at hwalk
    exact Target.action_ne_walk _ hwalk
  have hidle := (h.lockstep.idle hphase).2
  rw [step_tick] at hball ⊢
  rcases h.linked.runner.tick_cases s.board with
    ⟨-, -, -, ha, -⟩ | ⟨-, -, -, -, -, ha, -⟩ | ⟨hw, hn, ht, hp, -, hc⟩
  · rw [ha] at hball
    cases hball
  · rw [ha] at hball
    cases hball
  · refine ⟨?_, ?_, by rw [ht], by simp only [completed, hc]⟩
    · have hfinished := h.not_finished hawake hw hn
      cases hs : s.motion.stage with
      | walking => rfl
      | finished => exact absurd hs hfinished
      | _ => rw [hs] at hidle; cases hidle
    · rw [hp]
      exact Target.phase_ne_warmup _

/-- When motion has finished during an attempt, the next tick completes it. -/
theorem Kept.ends (h : Kept window p s) (hphase : s.runner.task.phase ≠ .warmup)
    (hs : s.motion.stage = .finished) : Ends s := by
  rcases h.linked.runner.tick_cases s.board with
    ⟨hw, -⟩ | ⟨-, -, -, -, -, ha, hc⟩ | ⟨-, hn, -⟩
  · have := (h.linked.runner.task.attempting hphase).1
    omega
  · refine ⟨ha, ?_⟩
    rw [step_tick]
    simp only [completed, hc, Nat.add_assoc]
  · exact absurd ⟨h.latched hphase hs, h.linked.ended hs⟩ hn

end

/-! ## Windows -/

section

variable {window : Nat} {p moves : List Move}

/-- A list is cut at any of the occurrences of an element. -/
theorem exists_split {α : Type} [DecidableEq α] {a : α} : ∀ {l : List α} {k : Nat}, k < l.count a →
    ∃ front rest, l = front ++ a :: rest ∧ front.count a = k
  | [], k, h => absurd h (Nat.not_lt_zero k)
  | b :: l, k, h => by
    by_cases hb : b = a
    · subst hb
      cases k with
      | zero => exact ⟨[], l, rfl, rfl⟩
      | succ k =>
        rw [List.count_cons_self] at h
        obtain ⟨front, rest, rfl, hfront⟩ := exists_split (Nat.lt_of_succ_lt_succ h)
        exact ⟨b :: front, rest, rfl, by rw [List.count_cons_self, hfront]⟩
    · rw [List.count_cons_of_ne hb] at h
      obtain ⟨front, rest, rfl, hfront⟩ := exists_split h
      exact ⟨b :: front, rest, rfl, by rw [List.count_cons_of_ne hb, hfront]⟩

/-- In the window that begins with a tick there is an update. -/
theorem Paced.update_in_window (hp : Paced window moves) (hwindow : 0 < window) {rest : List Move}
    (h : p ++ Move.tick :: rest <+: moves) (hcount : window ≤ rest.count .tick) :
    ∃ front post, rest = front ++ Move.tick :: post ∧ front.count .tick + 1 = window ∧
      1 ≤ front.count .update := by
  obtain ⟨front, post, rfl, hfront⟩ := exists_split (show window - 1 < rest.count .tick by omega)
  refine ⟨front, post, rfl, by omega, ?_⟩
  have hclosed : p ++ Move.tick :: front ++ [Move.tick] <+: moves := by
    refine List.IsPrefix.trans ⟨post, ?_⟩ h
    simp
  have hupdate := hp.often _ hclosed (.tick :: front) ⟨List.suffix_append _ _, rfl⟩ (by
    rw [List.count_cons_self]
    omega)
  exact List.count_pos_iff.2 ((List.mem_cons.1 hupdate).resolve_left (by decide))

/-- In so many windows of ticks there are so many updates. -/
theorem Paced.updates (hp : Paced window moves) (hwindow : 0 < window) (n : Nat) {rest : List Move}
    (h : p ++ Move.tick :: rest <+: moves) (hcount : window * (n + 1) ≤ rest.count .tick) :
    ∃ front post, rest = front ++ Move.tick :: post ∧ front.count .tick + 1 = window * (n + 1) ∧
      n + 1 ≤ front.count .update := by
  induction n generalizing p rest with
  | zero =>
    rw [Nat.zero_add, Nat.mul_one] at hcount ⊢
    exact hp.update_in_window hwindow h hcount
  | succ n ih =>
    rw [Nat.mul_succ] at hcount ⊢
    obtain ⟨first, rest, rfl, hticks, hupdates⟩ := hp.update_in_window hwindow h (by omega)
    rw [List.count_append, List.count_cons_self] at hcount
    obtain ⟨front, post, rfl, hticks', hupdates'⟩ :=
      ih (p := p ++ Move.tick :: first) (by simpa using h) (by omega)
    refine ⟨first ++ Move.tick :: front, post, by simp, ?_, ?_⟩
    · rw [List.count_append, List.count_cons_self]
      omega
    · rw [List.count_append, List.count_cons_of_ne (by decide)]
      omega

end

/-! ## Tolerance -/

/-- An attempt that is going on is completed before so many windows have passed as it takes updates
to get done with the ball action. -/
theorem attempt_ends {window n : Nat} {moves before rest : List Move} {s : Session}
    (hp : Paced window moves) (hmoves : moves = before ++ Move.tick :: rest)
    (hkept : ∀ q, before ++ [Move.tick] ++ q <+: moves → Prompt (before ++ [Move.tick] ++ q) →
      Kept window (before ++ [Move.tick] ++ q) (s.run q))
    (hwindow : 0 < window) (hphase : s.runner.task.phase ≠ .warmup)
    (hwork : s.motion.stage.work s.motion.lineup s.motion.length ≤ n + 1)
    (hcount : window * (n + 1) ≤ rest.count .tick) :
    ∃ mid post, rest = mid ++ Move.tick :: post ∧ mid.count .tick + 1 ≤ window * (n + 1) ∧
      GoesOn s mid ∧ Ends (s.run mid) := by
  obtain ⟨front, post, rfl, hticks, hupdates⟩ :=
    hp.updates (p := before) hwindow n (by rw [hmoves]) hcount
  -- these moves are followed by a tick, so motion has been prompt all along them
  have hfront : ∀ q, q <+: front → Kept window (before ++ [Move.tick] ++ q) (s.run q) := by
    rintro q ⟨q', rfl⟩
    have hclosed : before ++ [Move.tick] ++ q ++ (q' ++ [Move.tick]) <+: moves :=
      ⟨post, by simp [hmoves]⟩
    refine hkept q ((List.prefix_append _ _).trans hclosed) (hp.prompt_of_append hclosed ?_)
    rw [← List.append_assoc]
    exact prompt_tick _
  have hsingle : ∀ m ∈ front, m.replaces = false := fun m hm =>
    hp.single m (by rw [hmoves]; simp [hm])
  rcases goesOn_or_ends hsingle hfront hphase with hgoes | ⟨mid, post', rfl, hgoes, hends⟩
  · -- there have been as many updates as there was work
    have hdone : (s.run front).motion.stage.work s.motion.lineup s.motion.length = 0 := by
      rw [hgoes.work]
      omega
    exact ⟨front, post, rfl, Nat.le_of_eq hticks, hgoes,
      (hfront front (List.prefix_refl _)).ends hgoes.phase (Stage.finished_of_work hdone)⟩
  · refine ⟨mid, post' ++ Move.tick :: post, by simp, ?_, hgoes, hends⟩
    rw [← hticks, List.count_append]
    omega

/-- In a schedule that keeps pace, motion walks whenever an attempt begins, and the session is never
stuck, as long as motion has updated at most once since the last tick. An attempt that begins with a
tick is completed, after nothing but requests for its target, by a tick that comes later by at most as
many windows as motion has frames of the line-up and the action, and one more, if the schedule has so
many ticks. The number of a tick is that of the ticks before it. -/
theorem rate_tolerance (settings : Settings.Valid) (lineup length : Nat) {moves : List Move}
    (h : Paced (settings.1.walkFrames.toNat + 1) moves) :
    let after := fun p => (start settings lineup length).run p
    (∀ before rest, moves = before ++ Move.tick :: rest → (after before).Begins →
      (after before).motion.stage = .walking) ∧
    (∀ p, p <+: moves → Prompt p → ¬ (after p).Stuck) ∧
    (∀ before rest, moves = before ++ Move.tick :: rest → (after before).Begins →
      let bound := before.count .tick
        + (settings.1.walkFrames.toNat + 1) * (lineup + Nat.max length 1 + 1)
      bound < moves.count .tick →
      ∃ mid post, rest = mid ++ Move.tick :: post ∧ (before ++ Move.tick :: mid).count .tick ≤ bound ∧
        (∀ q, q <+: mid → (after (before ++ Move.tick :: q)).board.request.body.action =
          (after before).runner.task.state.target.action) ∧
        (after (before ++ Move.tick :: mid ++ [Move.tick])).board.request.body.action = .walk ∧
        (after (before ++ Move.tick :: mid ++ [Move.tick])).completed = (after before).completed + 1) := by
  intro after
  have hkept : ∀ before rest, moves = before ++ Move.tick :: rest →
      Kept (settings.1.walkFrames.toNat + 1) before (after before) ∧
        Awake (settings.1.walkFrames.toNat + 1) before := by
    rintro before rest rfl
    have hclosed : before ++ [Move.tick] <+: before ++ Move.tick :: rest := ⟨rest, by simp⟩
    exact ⟨kept_run h lineup length (List.prefix_append _ _) (h.once _ hclosed), h.often _ hclosed⟩
  refine ⟨fun before rest hmoves hb => ?_, fun p hp hprompt hstuck => ?_, ?_⟩
  · obtain ⟨hk, hawake⟩ := hkept before rest hmoves
    exact (hk.begins hawake hb).1
  · obtain ⟨hball, hopen, hs⟩ := hstuck
    have hk := kept_run h lineup length hp hprompt
    by_cases hphase : (after p).runner.task.phase = .warmup
    · rw [hk.lockstep.walking hphase] at hball
      cases hball
    · cases hopen.symm.trans (hk.latched hphase hs)
  · intro before rest hmoves hb bound hbound
    obtain ⟨hk, hawake⟩ := hkept before rest hmoves
    obtain ⟨hs, hphase, htarget, hcompleted⟩ := hk.begins hawake hb
    have htick : after (before ++ [Move.tick]) = (after before).step .tick := run_concat _ _ _
    obtain ⟨hlineup, hlength⟩ := run_motion (start settings lineup length) (before ++ [Move.tick])
    have hafter : ∀ q, after (before ++ Move.tick :: q) = (after (before ++ [Move.tick])).run q := fun q => by
      rw [← run_append, List.append_assoc]
      rfl
    have hwork : (after (before ++ [Move.tick])).motion.stage.work
        (after (before ++ [Move.tick])).motion.lineup (after (before ++ [Move.tick])).motion.length
          ≤ lineup + Nat.max length 1 + 1 := by
      rw [hlineup, hlength, htick, show ((after before).step .tick).motion.stage = .walking from hs]
      exact Nat.le_refl _
    have hcount : (settings.1.walkFrames.toNat + 1) * (lineup + Nat.max length 1 + 1)
        ≤ rest.count .tick := by
      rw [hmoves, List.count_append, List.count_cons_self] at hbound
      omega
    rw [← htick] at hphase htarget hcompleted
    obtain ⟨mid, post, hrest, hticks, hgoes, hends⟩ := attempt_ends h hmoves
      (fun q hq hprompt => by rw [← run_append]; exact kept_run h lineup length hq hprompt)
      (Nat.succ_pos _) hphase hwork hcount
    have hend : after (before ++ Move.tick :: mid ++ [Move.tick]) =
        ((after (before ++ [Move.tick])).run mid).step .tick := by
      rw [← hafter mid]
      exact run_concat _ _ _
    refine ⟨mid, post, hrest, ?_, fun q hq => ?_, ?_, ?_⟩
    · rw [List.count_append, List.count_cons_self]
      omega
    · rw [hafter, hgoes.asked q hq, htarget]
    · rw [hend, hends.walks]
    · rw [hend, hends.completed, hgoes.completed, hcompleted]

/-- With a warm-up of one frame, no line-up and a kick of one frame, motion updates as seldom as it
may: the attempt that begins with tick 1 is completed by tick 5. -/
theorem rate_tolerance_of_slow_motion :
    let before : List Move := [.tick, .update]
    let rest : List Move := [.tick, .update, .tick, .tick, .update, .tick]
    ∃ mid post, rest = mid ++ Move.tick :: post ∧ (before ++ Move.tick :: mid).count .tick ≤ 5 ∧
      ((start shortest 0 1).run (before ++ Move.tick :: mid ++ [Move.tick])).completed = 1 ∧
      ¬ ((start shortest 0 1).run (before ++ Move.tick :: rest)).Stuck := by
  intro before rest
  have hpaced : Paced 2 (before ++ Move.tick :: rest) := by decide +kernel
  obtain ⟨-, hstuck, hends⟩ := rate_tolerance shortest 0 1 hpaced
  have hbegins : ((start shortest 0 1).run before).Begins := by decide +kernel
  obtain ⟨mid, post, hrest, hticks, -, -, hcompleted⟩ := hends before rest rfl hbegins (by decide)
  exact ⟨mid, post, hrest, hticks, hcompleted,
    hstuck _ (List.prefix_refl _) (by decide +kernel)⟩

end Session

end Striker
