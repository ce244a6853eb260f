/-
The accounts of an activation. No count of a summary runs ahead of the ticks. Kicks and dribbles are
completed in turn, a kick first, whatever the board shows, so the number of completed attempts tells
how many of them are kicks, and which target is next. The summary only compares each action with the
one before; still its walks are those of as many whole warm-ups as it counts completed attempts, and
of the warm-up that is going on.
-/
import Striker.Proofs.Runner.Activation

namespace Striker

/-! ## Summaries -/

namespace Summary

variable {s : Summary} {last : Option Action} {r : Request}

/-- All counts of a summary. -/
def counts (s : Summary) : List Nat :=
  [s.ticks, s.walks, s.kicks, s.dribbles, s.kicksCompleted, s.dribblesCompleted, s.hints]

theorem count_le_one (b : Bool) : count b ≤ 1 := by cases b <;> decide

/-- A request raises each count by one at most. -/
theorem counts_record_le {n : Nat} (h : ∀ k ∈ s.counts, k ≤ n) (last : Option Action) (r : Request) :
    ∀ k ∈ (s.record last r).counts, k ≤ n + 1 := by
  simp only [counts, record, List.forall_mem_cons] at h ⊢
  obtain ⟨ht, hw, hk, hd, hkc, hdc, hh, -⟩ := h
  exact ⟨Nat.succ_le_succ ht, Nat.add_le_add hw (count_le_one _), Nat.add_le_add hk (count_le_one _),
    Nat.add_le_add hd (count_le_one _), Nat.add_le_add hkc (count_le_one _),
    Nat.add_le_add hdc (count_le_one _), Nat.add_le_add hh (count_le_one _), List.forall_mem_nil _⟩

/-- A walk after a target completes an attempt at that target. -/
theorem completed_record_target (s : Summary) (t : Target) (h : r.body.action = .walk) :
    (s.record (some t.action) r).kicksCompleted = s.kicksCompleted + count (t = .kick) ∧
      (s.record (some t.action) r).dribblesCompleted = s.dribblesCompleted + count (t = .dribble) := by
  cases t <;> simp [record, count, h, Target.action]

/-- A request that completes no attempt completes neither a kick nor a dribble. -/
theorem record_of_completed (h : (s.record last r).completed = s.completed) :
    (s.record last r).kicksCompleted = s.kicksCompleted ∧
      (s.record last r).dribblesCompleted = s.dribblesCompleted := by
  simp only [completed, record] at h ⊢
  omega

/-- A request is of one of three kinds. -/
theorem count_kinds (r : Request) : count (r.body.action = .walk) + count (r.body.action = .kick)
    + count (r.body.action = .dribble) = 1 := by
  cases r.body <;> rfl

/-- Whatever is completed was asked for in the tick before. -/
theorem count_completes (a : Action) (p : Prop) [Decidable p] :
    count (a = .walk && p) ≤ count p := by
  by_cases hp : p <;> simp [count, hp]
  split <;> decide

/-- After an even number of completed attempts it is the turn of a kick, after an odd one that of a
dribble. -/
theorem count_nth (n : Nat) :
    count (Target.nth n = .kick) = (n + 1) % 2 ∧ count (Target.nth n = .dribble) = n % 2 := by
  unfold Target.nth
  rcases Nat.mod_two_eq_zero_or_one n with hn | hn
  · rw [Nat.add_mod, hn]
    decide
  · rw [Nat.add_mod, hn]
    decide

end Summary

/-- The flag of the target after so many completed attempts. -/
theorem Target.flag_nth (n : Nat) : (Target.nth n).flag = n % 2 := by
  unfold Target.nth
  rcases Nat.mod_two_eq_zero_or_one n with hn | hn <;> simp [hn, Target.flag]

/-! ## Turns -/

namespace Runner

variable {r : Runner Task}

/-- Kicks and dribbles are completed in turn, and the target is the one whose turn it is. -/
structure Alternates (r : Runner Task) : Prop where
  target : r.task.state.target = .nth r.summary.completed
  kicks : r.summary.kicksCompleted = (r.summary.completed + 1) / 2
  dribbles : r.summary.dribblesCompleted = r.summary.completed / 2

theorem alternates_activate (t : Task) : (activate t).Alternates :=
  ⟨rfl, (Nat.div_eq_of_lt Nat.one_lt_two).symm, (Nat.zero_div 2).symm⟩

/-- A tick that completes no attempt, and keeps the target, leaves the turns as they are. -/
theorem Alternates.keep (h : r.Alternates) {b : Board}
    (ht : (r.tick b).runner.task.state.target = r.task.state.target)
    (hc : (r.tick b).runner.summary.completed = r.summary.completed) :
    (r.tick b).runner.Alternates := by
  have hsplit := hc
  rw [tick_summary] at hsplit
  obtain ⟨hk, hd⟩ := Summary.record_of_completed hsplit
  rw [← tick_summary] at hk hd
  exact ⟨by rw [ht, hc, h.target], by rw [hk, hc, h.kicks], by rw [hd, hc, h.dribbles]⟩

theorem Alternates.tick (h : r.Alternates) (hs : r.Sound) (b : Board) :
    (r.tick b).runner.Alternates := by
  rcases hs.tick_cases b with ⟨-, ht, -, -, hc⟩ | ⟨-, hlatch, -, ht, -, ha, hc⟩ | ⟨-, -, ht, -, -, hc⟩
  · exact h.keep (by rw [ht]) hc
  · -- a latched attempt asked for its target in the tick before
    have hlast : r.last = some r.task.state.target.action := hs.asked (hs.task.latched hlatch)
    obtain ⟨hk, hd⟩ := r.summary.completed_record_target r.task.state.target ha
    rw [← hlast, ← tick_summary, h.target] at hk hd
    obtain ⟨hkick, hdribble⟩ := Summary.count_nth r.summary.completed
    refine ⟨by rw [ht, hc, Target.nth_succ, h.target], ?_, ?_⟩
    · rw [hk, hc, h.kicks, hkick]
      omega
    · rw [hd, hc, h.dribbles, hdribble]
      omega
  · exact h.keep (by rw [ht]) hc

/-! ## Balance -/

/-- The counts of an activation agree with each other and with its task. An action that was asked for
in the last tick is not completed yet, so there is one more such request than completed attempts. -/
structure Balanced (r : Runner Task) : Prop where
  ticks : r.summary.ticks = r.frame
  kinds : r.summary.ticks = r.summary.walks + r.summary.kicks + r.summary.dribbles
  walks : r.summary.walks = r.summary.completed * (r.task.warmup + 1) + r.task.state.walkFrames
  kicks : r.summary.kicksCompleted + Summary.count (r.last = some .kick) ≤ r.summary.kicks
  dribbles :
    r.summary.dribblesCompleted + Summary.count (r.last = some .dribble) ≤ r.summary.dribbles

theorem balanced_activate (t : Task) : (activate t).Balanced := by
  refine ⟨rfl, rfl, ?_, Nat.le_refl 0, Nat.le_refl 0⟩
  show 0 = 0 * (t.warmup + 1) + 0
  rw [Nat.zero_mul]

/-- A tick walks for one frame of the warm-up, or once more to complete the attempt. -/
theorem Balanced.walks_tick (h : r.Balanced) (hs : r.Sound) (b : Board) :
    (r.tick b).runner.summary.walks =
      (r.tick b).runner.summary.completed * (r.task.warmup + 1)
        + (r.tick b).runner.task.state.walkFrames := by
  have hwalks := h.walks
  have hcount : (r.tick b).runner.summary.walks =
      r.summary.walks + Summary.count ((r.tick b).board.request.body.action = .walk) := by
    rw [tick_summary]
    rfl
  rcases hs.tick_cases b with ⟨-, ht, -, ha, hc⟩ | ⟨hw, -, -, ht, -, ha, hc⟩ | ⟨-, -, ht, -, ha, hc⟩
  · rw [hcount, ha, hc, ht, hwalks]
    rfl
  · -- the frames of the whole warm-up and this one
    rw [hcount, ha, hc, ht, hwalks, hw, Nat.succ_mul]
    rfl
  · rw [hcount, ha, hc, ht, hwalks]
    have hnot : ¬ r.task.state.target.action = .walk := r.task.state.target.action_ne_walk
    simp [Summary.count, hnot]

theorem Balanced.tick (h : r.Balanced) (hs : r.Sound) (b : Board) : (r.tick b).runner.Balanced := by
  have hwalks := h.walks_tick hs b
  obtain ⟨hticks, hkinds, -, hkicks, hdribbles⟩ := h
  have hone := Summary.count_kinds (r.tick b).board.request
  have hkick := Summary.count_completes (r.tick b).board.request.body.action (r.last = some .kick)
  have hdribble :=
    Summary.count_completes (r.tick b).board.request.body.action (r.last = some .dribble)
  refine ⟨?_, ?_, hwalks, ?_, ?_⟩
  · show r.summary.ticks + 1 = r.frame + 1
    rw [hticks]
  · rw [tick_summary]
    simp only [Summary.record]
    omega
  · rw [tick_summary, tick_last]
    simp only [Summary.record, Option.some.injEq]
    omega
  · rw [tick_summary, tick_last]
    simp only [Summary.record, Option.some.injEq]
    omega

theorem balanced_after (t : Task) (boards : List Board) :
    ((activate t).after boards).Balanced ∧ ((activate t).after boards).Alternates := by
  have h : ((activate t).after boards).Sound ∧ ((activate t).after boards).Balanced ∧
      ((activate t).after boards).Alternates :=
    after_invariant (P := fun r => r.Sound ∧ r.Balanced ∧ r.Alternates)
      (fun _ b ⟨hs, hb, ha⟩ => ⟨hs.tick b, hb.tick hs b, ha.tick hs b⟩)
      ⟨sound_activate t, balanced_activate t, alternates_activate t⟩ boards
  exact h.2

/-- The number of ticks, and the length of the warm-up, are kept by ticks. -/
theorem after_frame (r : Runner Task) (boards : List Board) :
    (r.after boards).frame = r.frame + boards.length ∧ (r.after boards).task.warmup = r.task.warmup :=
  ⟨frame_after r boards, after_invariant (P := fun s : Runner Task => s.task.warmup = r.task.warmup)
    (fun _ _ h => h) rfl boards⟩

theorem counts_after {τ σ : Type} [Behaviour τ σ] (t : τ) (boards : List Board) :
    ∀ k ∈ ((activate t).after boards).summary.counts, k ≤ boards.length := by
  have h : ∀ k ∈ ((activate t).after boards).summary.counts, k ≤ ((activate t).after boards).frame :=
    after_invariant (P := fun r => ∀ k ∈ r.summary.counts, k ≤ r.frame)
      (fun _ _ h => Summary.counts_record_le h _ _)
      (show ∀ k ∈ Summary.empty.counts, k ≤ 0 by decide) boards
  rwa [frame_after, show (activate t).frame = 0 from rfl, Nat.zero_add] at h

/-- The balance of an activation, for every task that is activated and every series of boards that it
is ticked against, whatever is written to them between the ticks. The ticks are the frames of the
runner, and each of them is a walk, a kick or a dribble. The walks are those of as many whole warm-ups,
with the walk that completes the attempt, as there are completed attempts, and the frames of the
warm-up that is counted now. Completed kicks and dribbles differ by the flag of the target, and each
of them was asked for. No count is higher than the number of ticks, so none of them runs over its 64
bits before that number does. -/
theorem accounts_balance (t : Task) (boards : List Board) :
    let r := (activate t).after boards
    let s := r.summary
    s.ticks = r.frame ∧ r.frame = boards.length ∧ s.ticks = s.walks + s.kicks + s.dribbles ∧
      s.walks = (s.kicksCompleted + s.dribblesCompleted) * (t.settings.walkFrames.toNat + 1)
        + r.task.state.walkFrames ∧
      s.kicksCompleted = s.dribblesCompleted + r.task.state.target.flag ∧
      s.kicksCompleted ≤ s.kicks ∧ s.dribblesCompleted ≤ s.dribbles ∧
      ∀ k ∈ s.counts, k ≤ boards.length := by
  intro r s
  obtain ⟨hbalanced, halternates⟩ := balanced_after t boards
  obtain ⟨hframe, hwarmup⟩ := after_frame (activate t) boards
  have hflag : s.kicksCompleted = s.dribblesCompleted + r.task.state.target.flag := by
    rw [halternates.kicks, halternates.dribbles, halternates.target, Target.flag_nth]
    omega
  have hwalks := hbalanced.walks
  rw [hwarmup] at hwalks
  refine ⟨hbalanced.ticks, ?_, hbalanced.kinds, hwalks, hflag, ?_, ?_, counts_after t boards⟩
  · rw [hframe]
    exact Nat.zero_add _
  · exact Nat.le_of_add_right_le hbalanced.kicks
  · exact Nat.le_of_add_right_le hbalanced.dribbles

end Runner

end Striker
