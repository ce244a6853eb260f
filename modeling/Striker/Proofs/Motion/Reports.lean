/-
What scripted motion reports, told by whole runs of equal reports. Motion that takes up a ball action goes
through the frames of the line-up and then through those of the action, in a course that is fixed from its
first frame on. Only a request for something else can end it, and only before the action has begun. So a
run of reports tells what was requested before and in it, where it started, and how it ends.

The invariant is `Since`: whenever motion pursues an action, there is a step from which on it has followed
the course of that action, and in which it was walking.
-/
import Striker.Proofs.Motion.Stages

namespace Striker

/-- A run of equal elements from a position on, as long as it can be. -/
structure IsRun {α : Type} (word : List α) (a : α) (first length : Nat) : Prop where
  pos : 0 < length
  within : ∀ i, first ≤ i → i < first + length → word[i]? = some a
  before : ∀ i, i + 1 = first → word[i]? ≠ some a
  after : word[first + length]? ≠ some a

namespace IsRun

variable {α : Type} {word : List α} {a : α} {first length : Nat}

theorem head (h : IsRun word a first length) : word[first]? = some a :=
  h.within first le_rfl (Nat.lt_add_of_pos_right h.pos)

theorem last (h : IsRun word a first length) : word[first + length - 1]? = some a := by
  have hpos := h.pos
  exact h.within _ (by omega) (by omega)

end IsRun

/-- The action that is requested in a step. -/
def askedAt (requests : List Request) (i : Nat) : Option Action := requests[i]?.map (·.body.action)

theorem askedAt_of_getElem? {requests : List Request} {i : Nat} {r : Request}
    (h : requests[i]? = some r) : askedAt requests i = some r.body.action := by
  rw [askedAt, h]; rfl

namespace Motion

/-! ## Steps with requests -/

/-- Motion after steps with these requests. -/
def after (m : Motion) (requests : List Request) : Motion :=
  requests.foldl (fun m r => m.step r.body.action) m

/-- What motion reports in steps with these requests. -/
def reports : Motion → List Request → List Action
  | _, [] => []
  | m, r :: rest => (m.step r.body.action).report :: reports (m.step r.body.action) rest

/-- The stage of motion before a step. -/
def stageAt (m : Motion) (requests : List Request) (i : Nat) : Stage :=
  (m.after (requests.take i)).stage

theorem after_take_succ (m : Motion) {requests : List Request} {i : Nat} {r : Request}
    (h : requests[i]? = some r) :
    m.after (requests.take (i + 1)) = (m.after (requests.take i)).step r.body.action := by
  unfold after
  rw [List.take_add_one, h, List.foldl_append]
  rfl

theorem after_lengths (m : Motion) (requests : List Request) :
    (m.after requests).lineup = m.lineup ∧ (m.after requests).length = m.length := by
  induction requests generalizing m with
  | nil => exact ⟨rfl, rfl⟩
  | cons r rest ih => exact ih (m.step r.body.action)

/-- Motion reports a line-up only while it lines up for a target. -/
theorem Sound.report_lineUp {m : Motion} (h : m.Sound) (hr : m.report = .lineUp) :
    ∃ t : Target, m.stage.pursued = some t.action := by
  unfold report at hr
  cases hs : m.stage with
  | walking => rw [hs] at hr; cases hr
  | liningUp a left =>
    obtain ⟨t, rfl⟩ := h.pursued a (by rw [hs]; rfl)
    exact ⟨t, rfl⟩
  | performing a left =>
    obtain ⟨t, rfl⟩ := h.pursued a (by rw [hs]; rfl)
    exact ⟨t, rfl⟩
  | finished => rw [hs] at hr; cases hr

theorem Sound.after {m : Motion} (h : m.Sound) (requests : List Request) : (m.after requests).Sound := by
  induction requests generalizing m with
  | nil => exact h
  | cons r rest ih => exact ih (h.step r.body.action)

theorem length_reports : ∀ (m : Motion) (requests : List Request),
    (m.reports requests).length = requests.length
  | _, [] => rfl
  | m, r :: rest => congrArg (· + 1) (length_reports (m.step r.body.action) rest)

theorem reports_getElem? : ∀ (m : Motion) (requests : List Request) (i : Nat), i < requests.length →
    (m.reports requests)[i]? = some (m.stageAt requests (i + 1)).report
  | _, _ :: _, 0, _ => rfl
  | m, r :: rest, i + 1, h => reports_getElem? (m.step r.body.action) rest i (Nat.lt_of_succ_lt_succ h)

theorem exists_asked {requests : List Request} {i : Nat} (h : i < requests.length) (m : Motion) :
    ∃ r : Request, requests[i]? = some r ∧ askedAt requests i = some r.body.action ∧
      m.stageAt requests (i + 1) = ((m.after (requests.take i)).step r.body.action).stage :=
  ⟨requests[i], List.getElem?_eq_getElem h, askedAt_of_getElem? (List.getElem?_eq_getElem h),
    congrArg stage (m.after_take_succ (List.getElem?_eq_getElem h))⟩

/-! ## The course of a ball action -/

/-- The stage of motion `d` steps after it has taken up an action, as long as the action goes on. -/
def course (lineup length : Nat) (a : Action) (d : Nat) : Stage :=
  if d ≤ lineup then .liningUp a (lineup + 1 - d) else .performing a (lineup + length + 1 - d)

variable {lineup length d : Nat} {a b : Action}

theorem report_course_lineup (h : d ≤ lineup) : (course lineup length a d).report = .lineUp := by
  rw [course, if_pos h]; rfl

theorem report_course_length (h : lineup < d) : (course lineup length a d).report = a := by
  rw [course, if_neg (Nat.not_le.2 h)]; rfl

theorem begin_eq_course (m : Motion) (a : Action) : m.begin a = course m.lineup m.length a 1 := by
  unfold begin course
  by_cases h : 0 < m.lineup
  · rw [if_pos h, if_pos (Nat.succ_le_of_lt h), Nat.add_sub_cancel]
  · rw [if_neg h, if_neg (by omega), Nat.add_sub_cancel, Nat.eq_zero_of_not_pos h, Nat.zero_add]

/-- One step of the course. During the line-up a request for anything else ends it. -/
theorem course_step {m : Motion} (hlineup : m.lineup = lineup) (hlength : m.length = length)
    (hpos : 1 ≤ length) (hs : m.stage = course lineup length a d) (hd : d ≤ lineup + length) (b : Action) :
    (d ≤ lineup ∧ b ≠ a ∧ (m.step b).stage = .walking) ∨
    (d = lineup + length ∧ (m.step b).stage = .finished) ∨
    (d < lineup + length ∧ (d ≤ lineup → b = a) ∧
      (m.step b).stage = course lineup length a (d + 1)) := by
  subst hlineup hlength
  rw [course] at hs
  by_cases hline : d ≤ m.lineup
  · rw [if_pos hline] at hs
    by_cases hb : b = a
    · subst hb
      refine .inr (.inr ⟨by omega, fun _ => rfl, ?_⟩)
      rw [liningUp_step hs, course]
      by_cases hlast : d = m.lineup
      · rw [if_pos (by omega), if_neg (by omega)]
        congr 1; omega
      · rw [if_neg (by omega), if_pos (by omega)]
        congr 1
    · refine .inl ⟨hline, hb, ?_⟩
      simp [step_stage, next, hs, hb]
  · rw [if_neg hline] at hs
    refine .inr ?_
    by_cases hlast : d = m.lineup + m.length
    · exact .inl ⟨hlast, by rw [performing_step hs, if_pos (by omega)]⟩
    · refine .inr ⟨by omega, fun h => absurd h hline, ?_⟩
      rw [performing_step hs, if_neg (by omega), course, if_neg (by omega)]
      congr 1

/-- From step `s` up to step `i` motion has followed the course of an action. It was walking before, and
every request up to the first frame of the action asked for it. -/
structure Since (m : Motion) (requests : List Request) (a : Action) (s i : Nat) : Prop where
  lt : s < i
  le : i ≤ s + m.lineup + m.length
  walked : m.stageAt requests s = .walking
  asked : ∀ j, s ≤ j → j < i → j ≤ s + m.lineup → askedAt requests j = some a
  stages : ∀ j, s < j → j ≤ i → m.stageAt requests j = course m.lineup m.length a (j - s)

section

variable {m : Motion} {requests : List Request} {s i : Nat}

theorem Since.step (h : m.Since requests a s i) (hlength : 1 ≤ m.length) (hi : i < requests.length) :
    (i ≤ s + m.lineup ∧ m.stageAt requests (i + 1) = .walking ∧
      ∃ b, askedAt requests i = some b ∧ b ≠ a) ∨
    (i = s + m.lineup + m.length ∧ m.stageAt requests (i + 1) = .finished) ∨
    m.Since requests a s (i + 1) := by
  obtain ⟨r, -, hr, hstage⟩ := exists_asked hi m
  obtain ⟨hlt, hle, hwalked, hasked, hstages⟩ := h
  obtain ⟨hkeep, hkeep'⟩ := m.after_lengths (requests.take i)
  have hstep := course_step hkeep hkeep' hlength (hstages i hlt le_rfl) (by omega) r.body.action
  rw [← hstage] at hstep
  rcases hstep with
    ⟨hline, hne, hw⟩ | ⟨hlast, hf⟩ | ⟨hmore, hsame, hc⟩
  · exact .inl ⟨by omega, hw, _, hr, hne⟩
  · exact .inr (.inl ⟨by omega, hf⟩)
  · refine .inr (.inr ⟨by omega, by omega, hwalked, fun j h1 h2 h3 => ?_, fun j h1 h2 => ?_⟩)
    · rcases Nat.lt_succ_iff_lt_or_eq.1 h2 with h2 | rfl
      · exact hasked j h1 h2 h3
      · rw [hr, hsame (by omega)]
    · rcases Nat.le_succ_iff.1 h2 with h2 | rfl
      · exact hstages j h1 h2
      · rw [hc]; congr 1; omega

/-- Whatever motion pursues it has taken up in some step before. -/
theorem exists_since (hlength : 1 ≤ m.length) (h0 : m.stage = .walking) :
    ∀ i ≤ requests.length, ∀ a, (m.stageAt requests i).pursued = some a →
      ∃ s, m.Since requests a s i := by
  intro i
  induction i with
  | zero =>
    intro _ a ha
    have hstart : m.stageAt requests 0 = .walking := h0
    rw [hstart] at ha; cases ha
  | succ i ih =>
    intro hi a ha
    obtain ⟨r, -, hr, hstage⟩ := exists_asked hi m
    have hstep := ha
    rw [hstage] at hstep
    rcases pursued_step hstep with hp | ⟨hw, hball, rfl⟩
    · obtain ⟨s, hs⟩ := ih (by omega) a hp
      rcases hs.step hlength hi with ⟨-, hw, -⟩ | ⟨-, hf⟩ | hs
      · rw [hw] at ha; cases ha
      · rw [hf] at ha; cases ha
      · exact ⟨s, hs⟩
    · -- the action is taken up in this very step
      obtain ⟨hkeep, hkeep'⟩ := m.after_lengths (requests.take i)
      have hbegin : m.stageAt requests (i + 1) = course m.lineup m.length r.body.action 1 := by
        rw [hstage, step_stage, next, hw, ← hkeep, ← hkeep', ← begin_eq_course]
        exact if_pos hball
      refine ⟨i, Nat.lt_succ_self i, by omega, hw, fun j h1 h2 _ => ?_, fun j h1 h2 => ?_⟩
      · obtain rfl : j = i := by omega
        exact hr
      · obtain rfl : j = i + 1 := by omega
        rw [hbegin, Nat.add_sub_cancel_left]

/-- As long as the step of the first frame of an action is behind, nothing ends it early. -/
theorem Since.performs (h : m.Since requests a s i) (hlength : 1 ≤ m.length) (hi : s + m.lineup < i) :
    ∀ d, i + d ≤ requests.length → i + d ≤ s + m.lineup + m.length →
      m.Since requests a s (i + d) := by
  intro d
  induction d with
  | zero => exact fun _ _ => h
  | succ d ih =>
    intro hd hle
    rcases (ih (by omega) (by omega)).step hlength hd with ⟨hline, -⟩ | ⟨hlast, -⟩ | hs
    · omega
    · omega
    · exact hs

/-- After its last frame motion has finished it. -/
theorem Since.finishes (h : m.Since requests a s i) (hlength : 1 ≤ m.length)
    (hi : i = s + m.lineup + m.length) (hlt : i < requests.length) :
    m.stageAt requests (i + 1) = .finished := by
  rcases h.step hlength hlt with ⟨hline, -⟩ | ⟨-, hf⟩ | hs
  · omega
  · exact hf
  · have := hs.le; omega

theorem Since.report_lineup (h : m.Since requests a s i) {j : Nat} (hsj : s < j) (hji : j ≤ i)
    (hj : j ≤ s + m.lineup) : (m.stageAt requests j).report = .lineUp := by
  rw [h.stages j hsj hji]
  exact report_course_lineup (by omega)

theorem Since.report_length (h : m.Since requests a s i) {j : Nat} (hji : j ≤ i)
    (hj : s + m.lineup < j) : (m.stageAt requests j).report = a := by
  rw [h.stages j (by omega) hji]
  exact report_course_length (by omega)

/-! ## Runs of reports -/

theorem report_getElem?_iff (hi : i < requests.length) :
    (m.reports requests)[i]? = some b ↔ (m.stageAt requests (i + 1)).report = b := by
  rw [reports_getElem? m requests i hi, Option.some.injEq]

theorem lt_of_report (h : (m.reports requests)[i]? = some b) : i < requests.length := by
  rw [← length_reports m requests]
  exact (List.getElem?_eq_some_iff.1 h).1

/-- Where motion is walking before a step it has reported that in the step before. -/
theorem walk_before_of_walking (h : m.stageAt requests i = .walking) (hi : i ≤ requests.length) :
    ∀ j, j + 1 = i → (m.reports requests)[j]? = some .walk := by
  rintro j rfl
  rw [report_getElem?_iff hi, h]; rfl

/-- A target is reported only while it is pursued. -/
theorem pursued_of_report {t : Target} (h : (m.stageAt requests i).report = t.action) :
    (m.stageAt requests i).pursued = some t.action := by
  obtain ⟨left, hs⟩ := report_eq_target (m := m.after (requests.take i)) h
  rw [stageAt, hs]; rfl

variable {t : Target} {first k : Nat}

/-- The run of a target begins after its line-up. -/
theorem since_of_run (hlength : 1 ≤ m.length) (h0 : m.stage = .walking)
    (h : IsRun (m.reports requests) t.action first k) :
    ∃ s, s + m.lineup = first ∧ m.Since requests t.action s (first + 1) := by
  have hfirst := h.head
  have hlt := lt_of_report hfirst
  rw [report_getElem?_iff hlt] at hfirst
  obtain ⟨s, hs⟩ := exists_since hlength h0 (first + 1) hlt _ (pursued_of_report hfirst)
  refine ⟨s, le_antisymm ?_ ?_, hs⟩
  · by_contra hline
    rw [hs.report_lineup hs.lt le_rfl (by omega)] at hfirst
    exact t.action_ne_lineUp hfirst.symm
  · -- otherwise the step before has reported the target, too
    by_contra hlate
    obtain ⟨j, rfl⟩ : ∃ j, j + 1 = first := ⟨first - 1, by omega⟩
    refine h.before j rfl ?_
    rw [report_getElem?_iff (by omega)]
    exact hs.report_length (Nat.le_succ _) (by omega)

/-- It lasts for the frames of the action, and then motion has finished, unless the requests end. -/
theorem run_ends (hlength : 1 ≤ m.length) (h : IsRun (m.reports requests) t.action first k) {s : Nat}
    (hfirst : s + m.lineup = first) (hs : m.Since requests t.action s (first + 1)) :
    k = m.length ∧ first + k < requests.length ∧ m.stageAt requests (first + k + 1) = .finished ∨
      k ≤ m.length ∧ first + k = requests.length := by
  have hpos := h.pos
  have hlast := lt_of_report h.last
  have hinside : ∀ d < m.length, first + d < requests.length →
      (m.reports requests)[first + d]? = some t.action := by
    intro d hd hlt
    have hd := hs.performs hlength (by omega) d (by omega) (by omega)
    rw [report_getElem?_iff hlt]
    exact hd.report_length (by omega) (by omega)
  have hfinish : first + m.length < requests.length →
      m.stageAt requests (first + m.length + 1) = .finished := by
    intro hlt
    have hd := hs.performs hlength (by omega) (m.length - 1) (by omega) (by omega)
    rw [show first + 1 + (m.length - 1) = first + m.length by omega] at hd
    exact hd.finishes hlength (by omega) hlt
  have hle : k ≤ m.length := by
    by_contra hlong
    have hwithin := h.within (first + m.length) (by omega) (by omega)
    rw [report_getElem?_iff (by omega), hfinish (by omega)] at hwithin
    exact t.action_ne_walk hwithin.symm
  rcases Nat.lt_or_ge (first + k) requests.length with hlt | hge
  · have hk : k = m.length := by
      by_contra hne
      exact h.after (hinside k (by omega) hlt)
    subst hk
    exact .inl ⟨rfl, hlt, hfinish hlt⟩
  · exact .inr ⟨hle, by omega⟩

/-- A run of line-ups begins with the step that takes up the action. -/
theorem since_of_lineUps (hm : m.Sound) (h0 : m.stage = .walking)
    (h : IsRun (m.reports requests) .lineUp first k) :
    ∃ t : Target, k ≤ m.lineup ∧ m.Since requests t.action first (first + k) := by
  have hpos := h.pos
  have hend := h.last
  have hlt := lt_of_report hend
  rw [report_getElem?_iff hlt, show first + k - 1 + 1 = first + k by omega] at hend
  obtain ⟨t, ht⟩ := (hm.after (requests.take (first + k))).report_lineUp hend
  obtain ⟨s, hs⟩ := exists_since hm.length_pos h0 (first + k) (by omega) _ ht
  have hline : first + k ≤ s + m.lineup := by
    by_contra hlate
    rw [hs.report_length le_rfl (by omega)] at hend
    exact t.action_ne_lineUp hend
  obtain rfl : s = first := by
    rcases Nat.lt_trichotomy s first with hearly | heq | hlate
    · obtain ⟨j, rfl⟩ : ∃ j, j + 1 = first := ⟨first - 1, by omega⟩
      refine absurd ?_ (h.before j rfl)
      rw [report_getElem?_iff (by omega)]
      exact hs.report_lineup hearly (by omega) (by omega)
    · exact heq
    · obtain ⟨j, rfl⟩ : ∃ j, j + 1 = s := ⟨s - 1, by omega⟩
      have hbefore := hs.lt
      have hwithin := h.within j (by omega) (by omega)
      rw [report_getElem?_iff (by omega), hs.walked] at hwithin
      cases hwithin
  exact ⟨t, by omega, hs⟩

/-- It ends with the requests, with the action, or with a request for something else. -/
theorem lineUps_end (hlength : 1 ≤ m.length) (h : IsRun (m.reports requests) .lineUp first k)
    (hk : k ≤ m.lineup) (hs : m.Since requests a first (first + k)) :
    first + k = requests.length ∨
    (k = m.lineup ∧ askedAt requests (first + k) = some a ∧
      (m.reports requests)[first + k]? = some a) ∨
    ((∃ b, askedAt requests (first + k) = some b ∧ b ≠ a) ∧
      (m.reports requests)[first + k]? = some .walk) := by
  have hpos := h.pos
  have hlast := lt_of_report h.last
  rcases Nat.lt_or_ge (first + k) requests.length with hlt | hge
  · refine .inr ?_
    simp only [report_getElem?_iff hlt]
    rcases hs.step hlength hlt with ⟨-, hw, hb⟩ | ⟨hlate, -⟩ | hs
    · exact .inr ⟨hb, by rw [hw]; rfl⟩
    · omega
    · have hlate : first + m.lineup < first + k + 1 := by
        by_contra hline
        refine h.after ?_
        rw [report_getElem?_iff hlt]
        exact hs.report_lineup hs.lt le_rfl (by omega)
      exact .inl ⟨by omega, hs.asked _ (by omega) (by omega) (by omega), hs.report_length le_rfl hlate⟩
  · exact .inl (by omega)

/-! ## After an action -/

/-- A walk has been requested after step `f`, and a ball action after that, in step `i` at the latest. -/
def Rearmed (requests : List Request) (f i : Nat) : Prop :=
  ∃ u v, f < u ∧ u < v ∧ v ≤ i ∧ askedAt requests u = some .walk ∧
    ∃ t : Target, askedAt requests v = some t.action

/-- Motion that has finished waits for a walk to be requested, and then for a ball action. -/
theorem rearmed_of_finished {f : Nat} (h : m.stageAt requests (f + 1) = .finished) :
    ∀ i, f ≤ i → i < requests.length → m.stageAt requests (i + 1) = .finished ∨
      (m.stageAt requests (i + 1) = .walking ∧ ∃ u, f < u ∧ u ≤ i ∧ askedAt requests u = some .walk) ∨
      Rearmed requests f i := by
  intro i hi
  induction i, hi using Nat.le_induction with
  | base => exact fun _ => .inl h
  | succ i hi ih =>
    intro hlt
    obtain ⟨r, -, hr, hstage⟩ := exists_asked hlt m
    rw [hstage, step_stage]
    rcases ih (by omega) with hs | ⟨hs, u, hfu, hui, hu⟩ | ⟨u, v, hfu, huv, hvi, hasked⟩
    · have hnext : (m.after (requests.take (i + 1))).next r.body.action =
          if r.body.action = .walk then .walking else .finished := by
        rw [stageAt] at hs
        simp only [next, hs]
      rw [hnext]
      by_cases hwalk : r.body.action = .walk
      · exact .inr (.inl ⟨if_pos hwalk, i + 1, by omega, le_rfl, by rw [hr, hwalk]⟩)
      · exact .inl (if_neg hwalk)
    · by_cases hball : r.body.action.isBallAction = true
      · obtain ⟨t, ht⟩ := Action.isBallAction_iff.1 hball
        exact .inr (.inr ⟨u, i + 1, hfu, by omega, le_rfl, hu, t, by rw [hr, ht]⟩)
      · refine .inr (.inl ⟨?_, u, hfu, by omega, hu⟩)
        rw [stageAt] at hs
        simp only [next, hs]
        exact if_neg hball
    · exact .inr (.inr ⟨u, v, hfu, huv, by omega, hasked⟩)

end

/-! ## Performed actions -/

/-- An action is carried through in the step that reports a walk after it. -/
theorem Sound.completes_eq {m : Motion} (h : m.Sound) (a : Action) :
    m.completes = (m.report.isBallAction && (m.step a).report = .walk) := by
  unfold completes report
  cases hs : m.stage with
  | walking => rfl
  | liningUp b left => rfl
  | performing b left =>
    obtain ⟨t, rfl⟩ := h.pursued b (by rw [hs]; rfl)
    rw [performing_step hs]
    by_cases hleft : left ≤ 1 <;> simp [hleft, Stage.report]
  | finished => rfl

/-- Each walk that is reported right after a ball action stands for one that has been carried through. -/
theorem Sound.performed_after {m : Motion} (h : m.Sound) (requests : List Request) :
    (m.after requests).performed = m.performed +
      ((m.report :: m.reports requests).zip (m.reports requests)).countP
        fun p => p.1.isBallAction && p.2 = .walk := by
  induction requests generalizing m with
  | nil => rfl
  | cons r rest ih =>
    have hstep := ih (h.step r.body.action)
    have hone : (m.step r.body.action).performed = m.performed +
        if m.report.isBallAction && (m.step r.body.action).report = .walk then 1 else 0 := by
      rw [← h.completes_eq]; rfl
    show ((m.step r.body.action).after rest).performed = _
    rw [hstep, hone, reports, List.zip_cons_cons, List.countP_cons, Nat.add_assoc, Nat.add_comm (ite _ _ _)]

theorem Sound.report_cases {m : Motion} (h : m.Sound) :
    m.report = .walk ∨ m.report = .lineUp ∨ m.report = .kick ∨ m.report = .dribble := by
  unfold report
  cases hs : m.stage with
  | walking => exact .inl rfl
  | liningUp a left => exact .inr (.inl rfl)
  | performing a left =>
    obtain ⟨t, rfl⟩ := h.pursued a (by rw [hs]; rfl)
    cases t
    exacts [.inr (.inr (.inl rfl)), .inr (.inr (.inr rfl))]
  | finished => exact .inl rfl

/-- What motion reports from its start on, whatever is requested in each step. Every report is a walk, a
line-up, a kick or a dribble. A run of a target comes after a line-up of all its frames, whose first step
follows a walk or is the first of all; the target has been requested in each step from there up to the
first of the run. The run lasts for the frames of the action and a walk follows it, unless the requests end
before. After it nothing but walks is reported until a walk and after that a ball action have been
requested. A run of line-ups has one target, which is requested in each of its steps. It is no longer than
a line-up, and ends with the requests, or when it is complete with the first frame of the target, or with a
walk, in the first step that requests anything else. Actions that motion counts as performed are the walks
that are reported right after a ball action. -/
theorem reports_in_runs (lineup frames : Nat) (requests : List Request) :
    let m := start lineup frames
    let word := m.reports requests
    let length := Nat.max frames 1
    word.length = requests.length ∧
    (∀ a ∈ word, a = .walk ∨ a = .lineUp ∨ a = .kick ∨ a = .dribble) ∧
    (∀ (t : Target) (first k : Nat), IsRun word t.action first k →
      (∃ s, s + lineup = first ∧ (∀ j, j + 1 = s → word[j]? = some .walk) ∧
        (∀ j, s ≤ j → j < first → word[j]? = some .lineUp) ∧
        (∀ j, s ≤ j → j ≤ first → askedAt requests j = some t.action)) ∧
      (k = length ∧ word[first + k]? = some .walk ∨
        k ≤ length ∧ first + k = requests.length) ∧
      (∀ i a, first + k ≤ i → word[i]? = some a → a ≠ .walk → Rearmed requests (first + k) i)) ∧
    (∀ first k, IsRun word .lineUp first k → ∃ t : Target,
      (∀ j, j + 1 = first → word[j]? = some .walk) ∧
      (∀ j, first ≤ j → j < first + k → askedAt requests j = some t.action) ∧
      1 ≤ k ∧ k ≤ lineup ∧
      (first + k = requests.length ∨
        (k = lineup ∧ askedAt requests (first + k) = some t.action ∧
          word[first + k]? = some t.action) ∨
        ((∃ b, askedAt requests (first + k) = some b ∧ b ≠ t.action) ∧
          word[first + k]? = some .walk))) ∧
    (m.after requests).performed =
      (word.zip word.tail).countP fun p => p.1.isBallAction && p.2 = .walk := by
  intro m word length
  have hm : m.Sound := sound_start lineup frames
  have hlength : 1 ≤ m.length := hm.length_pos
  refine ⟨length_reports m requests, fun a ha => ?_, fun t first k hrun => ?_, fun first k hrun => ?_, ?_⟩
  · obtain ⟨i, hi⟩ := List.getElem?_of_mem ha
    rw [report_getElem?_iff (lt_of_report hi)] at hi
    rw [← hi]
    exact (hm.after _).report_cases
  · obtain ⟨s, hfirst, hs⟩ := since_of_run hlength rfl hrun
    have hlt : first < requests.length := lt_of_report hrun.head
    have hends := run_ends hlength hrun hfirst hs
    refine ⟨⟨s, hfirst, walk_before_of_walking hs.walked (by omega), fun j h1 h2 => ?_, fun j h1 h2 =>
      hs.asked j h1 (by omega) (by omega)⟩, ?_, fun i a hi ha hwalk => ?_⟩
    · rw [report_getElem?_iff (by omega)]
      exact hs.report_lineup (by omega) (by omega) (by omega)
    · refine hends.imp (fun ⟨hk, hend, hf⟩ => ⟨hk, ?_⟩) id
      rw [report_getElem?_iff hend, hf]; rfl
    · have hlen := lt_of_report ha
      rw [report_getElem?_iff hlen] at ha
      rcases hends with ⟨-, -, hf⟩ | ⟨-, hend⟩
      · rcases rearmed_of_finished hf i hi hlen with hs | ⟨hs, -⟩ | hrearmed
        · rw [hs] at ha; exact absurd ha.symm hwalk
        · rw [hs] at ha; exact absurd ha.symm hwalk
        · exact hrearmed
      · omega
  · obtain ⟨t, hk, hs⟩ := since_of_lineUps hm rfl hrun
    have hlt := lt_of_report hrun.head
    exact ⟨t, walk_before_of_walking hs.walked (by omega), fun j h1 h2 => hs.asked j h1 h2 (by omega),
      hrun.pos, hk, lineUps_end hlength hrun hk hs⟩
  · -- the walk before the first step is not reported, and no action has been performed before it
    rw [hm.performed_after]
    have hpairs : ((m.report :: word).zip word).countP (fun p => p.1.isBallAction && p.2 = .walk) =
        (word.zip word.tail).countP fun p => p.1.isBallAction && p.2 = .walk := by
      cases word <;> rfl
    rw [hpairs]
    exact Nat.zero_add _

/-- Seven requests for a kick, with two frames to line up and three to kick: the run of kicks has been asked
for since the first step, and a walk follows it. The last request is out of date, since no walk has been
requested. -/
theorem reports_of_seven_kicks :
    let requests : List Request := List.replicate 7 ⟨.kick 0, false, none⟩
    let word := (start 2 3).reports requests
    word = [.lineUp, .lineUp, .kick, .kick, .kick, .walk, .walk] ∧ IsRun word .kick 2 3 ∧
      (∀ j ≤ 2, askedAt requests j = some .kick) ∧ word[5]? = some .walk := by
  intro requests word
  have hword : word = [.lineUp, .lineUp, .kick, .kick, .kick, .walk, .walk] := by decide
  have hrun : IsRun word Target.kick.action 2 3 := by
    rw [hword]
    refine ⟨by decide, fun i h1 h2 => ?_, fun i hi => ?_, by decide⟩
    · obtain rfl | rfl | rfl : i = 2 ∨ i = 3 ∨ i = 4 := by omega
      all_goals rfl
    · obtain rfl : i = 1 := by omega
      decide
  obtain ⟨-, -, hruns, -⟩ := reports_in_runs 2 3 requests
  obtain ⟨⟨s, hs, -, -, hasked⟩, hend, -⟩ := hruns .kick 2 3 hrun
  obtain rfl : s = 0 := by omega
  refine ⟨hword, hrun, fun j hj => hasked j (Nat.zero_le j) hj, ?_⟩
  rcases hend with ⟨-, hwalk⟩ | ⟨-, hlast⟩
  · exact hwalk
  · cases hlast

end Motion

end Striker
