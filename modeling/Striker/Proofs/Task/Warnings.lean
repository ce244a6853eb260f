/-
Warnings of a task. A tick is astray if it asks for the target, as the tick before it did, and motion
neither performs the target nor walks or lines up for it. The memory of a task is what motion did in
the last call, if that was a tick astray, and nothing otherwise; so a tick astray warns unless motion
did the same in a tick astray just before it. Neighbours with the same action make up a run, and there
is one warning for each.
-/
import Mathlib.Data.List.Destutter
import Striker.Proofs.Task.Calls

namespace Striker.Task

/-! ## Ticks that are astray -/

/-- A tick that asks for the target, which has been asked for before, while motion does something that
does not lead to it. -/
structure Astray (t : Task) (c : Context) : Prop where
  asks : (t.tick c).request.body.action = t.state.target.action
  strange : c.active ≠ .walk ∧ c.active ≠ .lineUp ∧ c.active ≠ t.state.target.action
  asked : c.published.body.action = t.state.target.action

theorem isUnexpected_iff {target : Action} {c : Context} : isUnexpected target c = true ↔
    (c.active ≠ .walk ∧ c.active ≠ .lineUp ∧ c.active ≠ target) ∧
      c.published.body.action = target := by
  have hend : c.active.endsBallAction = false ↔ c.active ≠ .walk ∧ c.active ≠ .lineUp := by
    rw [Bool.eq_false_iff, ne_eq, Action.endsBallAction_iff, not_or]
  simp only [isUnexpected, Bool.and_eq_true, Bool.not_eq_true', decide_eq_true_eq, hend, and_assoc,
    ne_eq]

theorem astray_iff {t : Task} {c : Context} : Astray t c ↔
    (t.tick c).request.body.action = t.state.target.action ∧
      isUnexpected t.state.target.action c = true := by
  rw [isUnexpected_iff]
  exact ⟨fun h => ⟨h.asks, h.strange, h.asked⟩, fun h => ⟨h.1, h.2.1, h.2.2⟩⟩

/-- A tick that walks asks for no target. -/
theorem not_astray_of_walk {t : Task} {c : Context} (h : (t.tick c).request.body.action = .walk) :
    ¬ Astray t c := fun hastray => t.state.target.action_ne_walk (hastray.asks.symm.trans h)

instance (t : Task) (c : Context) : Decidable (Astray t c) := decidable_of_iff' _ astray_iff

/-- What motion does in a call, if it is a tick astray. -/
def mark (t : Task) : Call → Option Action
  | .init => none
  | .tick c => if Astray t c then some c.active else none

/-- The marks of these calls. -/
def marks : Task → List Call → List (Option Action)
  | _, [] => []
  | t, k :: calls => t.mark k :: marks (t.call k) calls

/-- The warnings of a call. -/
def warnings (t : Task) : Call → List Event
  | .init => []
  | .tick c => (t.tick c).events.filter (·.level = .warn)

/-- The warnings of these calls. -/
def allWarnings : Task → List Call → List Event
  | _, [] => []
  | t, k :: calls => t.warnings k ++ allWarnings (t.call k) calls

/-! ## One call -/

variable {t : Task}

/-- A task remembers the mark of its last call. -/
theorem Sound.unexpected_call (h : t.Sound) (k : Call) : (t.call k).unexpected = t.mark k := by
  cases k with
  | init => rfl
  | tick c =>
    have hwalk : (t.tick c).request.body.action = .walk → t.mark (.tick c) = none := fun ha =>
      if_neg (not_astray_of_walk ha)
    show (t.tick c).task.unexpected = _
    rcases h.tick_cases c with ⟨hw, ht, ha⟩ | ⟨-, -, -, ht, ha⟩ | ⟨-, -, ht, ha⟩
    · -- nothing is remembered in a warm-up, since only an attempt with the whole warm-up counted warns
      have hnone : t.unexpected = none := by
        cases hu : t.unexpected with
        | none => rfl
        | some a => exact absurd (h.attempting (h.warned a hu).1).1 (Nat.ne_of_lt hw)
      rw [ht, hwalk ha, hnone]
    · rw [ht, hwalk ha]
    · rw [ht, mark]
      simp only [astray_iff, ha, true_and]

/-- A tick warns if it is astray and its mark is not the one remembered. It warns once, and says in which
frame what motion does instead of the target. -/
theorem Sound.warnings_tick (h : t.Sound) (c : Context) : t.warnings (.tick c) =
    if Astray t c ∧ t.unexpected ≠ some c.active
    then [.unexpected c.frame c.active t.state.target.action] else [] := by
  have hquiet : t.warnings (.tick c) = (t.decide c).events.filter (·.level = .warn) := by
    have hhint : ((t.near c).map (Event.ballNear c.frame)).toList.filter (·.level = .warn) = [] := by
      cases t.near c <;> rfl
    have hchange : (if phaseOf (t.decide c) = t.phase then []
        else [Event.phaseChanged c.frame t.phase (phaseOf (t.decide c))]).filter
          (·.level = .warn) = [] := by
      split <;> rfl
    rw [warnings, tick_events]
    simp only [List.filter_append, hhint, hchange, List.nil_append, List.append_nil]
    exact List.append_nil _
  rw [hquiet]
  have hbody : (t.tick c).request.body = (t.decide c).body := rfl
  rcases h.decide_cases c with ⟨-, hd⟩ | ⟨-, -, -, hd⟩ | ⟨-, -, hd⟩ <;> rw [hd] at hbody ⊢
  · rw [if_neg fun hs => not_astray_of_walk (congrArg Command.action hbody) hs.1]
    rfl
  · rw [if_neg fun hs => not_astray_of_walk (congrArg Command.action hbody) hs.1]
    rfl
  · have ha : (t.tick c).request.body.action = t.state.target.action :=
      (congrArg Command.action hbody).trans (t.state.target.command_action _)
    by_cases hu : isUnexpected t.state.target.action c = true
    · by_cases hm : t.unexpected = some c.active <;> simp [attempt, astray_iff, ha, hu, hm, Event.level]
    · simp [attempt, astray_iff, ha, hu]

/-! ## Many calls -/

/-- The call at a position is a tick astray, while motion does `a`. -/
def AstrayAt (t : Task) (calls : List Call) (i : Nat) (a : Action) : Prop :=
  ∃ c, calls[i]? = some (.tick c) ∧ Astray (t.afterCalls (calls.take i)) c ∧ c.active = a

theorem mark_eq_some {k : Call} {a : Action} :
    t.mark k = some a ↔ ∃ c, k = .tick c ∧ Astray t c ∧ c.active = a := by
  cases k with
  | init => simp [mark]
  | tick c => simp [mark]

/-- What is remembered before a call is what motion did in the call just before it, if that was a tick
astray. -/
theorem Sound.unexpected_take (h : t.Sound) (h0 : t.unexpected = none) {calls : List Call} {i : Nat}
    (hi : i ≤ calls.length) {a : Action} : (t.afterCalls (calls.take i)).unexpected = some a ↔
      ∃ j, j + 1 = i ∧ AstrayAt t calls j a := by
  cases i with
  | zero =>
    show t.unexpected = some a ↔ _
    simp [h0]
  | succ j =>
    have hk : calls[j]? = some calls[j] := List.getElem?_eq_getElem hi
    rw [afterCalls_take_succ t hk, (h.afterCalls _).unexpected_call, mark_eq_some]
    constructor
    · rintro ⟨c, hc, hastray⟩
      exact ⟨j, rfl, c, hc ▸ hk, hastray⟩
    · rintro ⟨i, hij, c, hc, hastray⟩
      cases hij
      exact ⟨c, Option.some.inj (hk.symm.trans hc), hastray⟩

/-- A call warns exactly if its mark is one, and another than the one remembered. -/
theorem Sound.warnings_length (h : t.Sound) (k : Call) : (t.warnings k).length =
    if t.unexpected ≠ t.mark k then (t.mark k).toList.length else 0 := by
  cases k with
  | init =>
    show 0 = if _ then 0 else 0
    rw [ite_self]
  | tick c =>
    rw [h.warnings_tick]
    by_cases hs : Astray t c
    · by_cases hu : t.unexpected = some c.active <;> simp [mark, hs, hu]
    · simp [mark, hs]

/-- Every run of equal marks warns once, but not for a run that has warned before. -/
theorem Sound.allWarnings_length (h : t.Sound) (calls : List Call) :
    (t.allWarnings calls).length + t.unexpected.toList.length =
      ((t.marks calls).destutter' (· ≠ ·) t.unexpected).countP Option.isSome := by
  induction calls generalizing t with
  | nil => cases hu : t.unexpected <;> simp [allWarnings, marks]
  | cons k calls ih =>
    have hrest := ih (h.call k)
    rw [h.unexpected_call] at hrest
    have hcall := h.warnings_length k
    rw [marks, allWarnings, List.length_append, List.destutter'_cons]
    by_cases hm : t.unexpected ≠ t.mark k
    · rw [if_pos hm] at hcall ⊢
      rw [List.countP_cons, ← hrest, hcall]
      cases t.unexpected <;> simp <;> omega
    · rw [if_neg hm] at hcall ⊢
      rw [not_not.1 hm, ← hrest, hcall, Nat.zero_add]

/-- The marks of the calls to a new task, taken up from its empty memory. -/
theorem countP_destutter' (marks : List (Option Action)) :
    (marks.destutter' (· ≠ ·) none).countP Option.isSome =
      (marks.destutter (· ≠ ·)).countP Option.isSome := by
  cases marks with
  | nil => rfl
  | cons m marks => cases m <;> simp [List.destutter_cons']

/-- The warnings of a task with valid settings, for any calls. A tick warns, once, if it is astray and
the call just before it was not a tick astray with the same action; the warning has the frame of the
tick, what motion does, and the action that is attempted. All other ticks are silent. So there are as
many warnings as runs of neighbouring ticks astray with the same action. The task remembers nothing but
the last call: neither a reset nor a tick that walks, which completes an attempt or belongs to a warm-up,
leaves a warning in its memory. -/
theorem warns_once_per_run (s : Settings.Valid) (calls : List Call) :
    let t := ofValid s
    (∀ i c, calls[i]? = some (.tick c) →
      let u := t.afterCalls (calls.take i)
      let new := AstrayAt t calls i c.active ∧ ¬ ∃ j, j + 1 = i ∧ AstrayAt t calls j c.active
      (new → u.warnings (.tick c) = [.unexpected c.frame c.active u.state.target.action]) ∧
        (¬ new → u.warnings (.tick c) = [])) ∧
    (t.allWarnings calls).length = ((t.marks calls).destutter (· ≠ ·)).countP Option.isSome ∧
    (∀ a, (t.afterCalls calls).unexpected = some a ↔
      ∃ i, i + 1 = calls.length ∧ AstrayAt t calls i a) ∧
    ∀ k, (k = .init ∨ ∃ c, k = .tick c ∧
        ((t.afterCalls calls).tick c).request.body.isWalk = true) →
      ((t.afterCalls calls).call k).unexpected = none := by
  intro t
  have hs : t.Sound := sound_ofValid s
  have h0 : t.unexpected = none := rfl
  refine ⟨fun i c hc => ?_, ?_, fun a => ?_, fun k hk => ?_⟩
  · intro u new
    have hu : u.Sound := hs.afterCalls _
    have hi : i ≤ calls.length := Nat.le_of_lt (List.getElem?_eq_some_iff.1 hc).1
    have hat : AstrayAt t calls i c.active ↔ Astray u c := by
      constructor
      · rintro ⟨d, hd, hastray, -⟩
        cases hc.symm.trans hd
        exact hastray
      · intro hastray
        exact ⟨c, hc, hastray, rfl⟩
    have hnew : new ↔ Astray u c ∧ u.unexpected ≠ some c.active := by
      rw [← hat, ne_eq, hs.unexpected_take h0 hi]
    rw [hnew, hu.warnings_tick]
    exact ⟨fun h => if_pos h, fun h => if_neg h⟩
  · have hlength := hs.allWarnings_length calls
    rw [h0, countP_destutter'] at hlength
    exact hlength
  · have hall := hs.unexpected_take h0 (Nat.le_refl calls.length) (a := a)
    rwa [List.take_length] at hall
  · rw [(hs.afterCalls calls).unexpected_call]
    rcases hk with rfl | ⟨c, rfl, hwalk⟩
    · rfl
    · rw [Command.isWalk_eq, decide_eq_true_eq] at hwalk
      exact if_neg (not_astray_of_walk hwalk)

end Striker.Task
