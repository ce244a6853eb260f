/-
The handshake under any mix of checks and observations, each with an action and a target of its own. It
only goes forward, and how far it has come depends on the order of two kinds of operations: an observation
of a target that motion performs, and, at any time after one of those, a check that finds motion walking or
lining up although the target is something else.
-/
import Striker.Proofs.Task.Tick

namespace Striker.Handshake

/-! ## Operations -/

/-- What may be done with a handshake. -/
inductive Operation where
  | check (active target : Action)
  | observe (active target : Action)

/-- The handshake after an operation. -/
def apply (h : Handshake) : Operation → Handshake
  | .check active target => h.check active target
  | .observe active target => h.observe active target

/-- The handshake after these operations. -/
def after (h : Handshake) (ops : List Operation) : Handshake := ops.foldl apply h

/-- How many steps a handshake has gone. -/
def rank : Handshake → Nat
  | notTriggered => 0
  | triggered => 1
  | confirmed => 2

/-- An observation of the target being performed. -/
def Operation.Triggers (op : Operation) : Prop := ∃ target, op = .observe target target

/-- A check that finds motion walking or lining up, which is not the target. -/
def Operation.Confirms (op : Operation) : Prop :=
  ∃ active target, op = .check active target ∧ active ≠ target ∧ (active = .walk ∨ active = .lineUp)

variable {h : Handshake} {op : Operation} {ops : List Operation}

@[simp] theorem apply_notTriggered : apply notTriggered op = triggered ↔ op.Triggers := by
  cases op with
  | check active target => simp [apply, check, Operation.Triggers]
  | observe active target => simp [apply, observe, Operation.Triggers, eq_comm]

@[simp] theorem apply_triggered : apply triggered op = confirmed ↔ op.Confirms := by
  cases op with
  | check active target =>
    have hcheck : triggered.check active target = confirmed ↔
        active ≠ target ∧ active.endsBallAction = true := by
      simp [check]
    show triggered.check active target = confirmed ↔ _
    rw [hcheck, Action.endsBallAction_iff]
    constructor
    · rintro ⟨hne, hends⟩
      exact ⟨active, target, rfl, hne, hends⟩
    · rintro ⟨_, _, ⟨⟩, hne, hends⟩
      exact ⟨hne, hends⟩
  | observe active target => simp [apply, observe, Operation.Confirms]

/-- An operation takes a handshake one step further or leaves it. -/
theorem apply_cases (h : Handshake) (op : Operation) :
    apply h op = h ∨ h = notTriggered ∧ apply h op = triggered ∨
      h = triggered ∧ apply h op = confirmed := by
  cases op with
  | check active target =>
    show h.check active target = h ∨ _
    unfold check
    split
    · next hc => exact .inr (.inr ⟨hc.1, if_pos hc⟩)
    · exact .inl rfl
  | observe active target =>
    show h.observe active target = h ∨ _
    unfold observe
    split
    · next hc => exact .inr (.inl ⟨hc.1, if_pos hc⟩)
    · exact .inl rfl

theorem rank_apply (h : Handshake) (op : Operation) : h.rank ≤ (apply h op).rank := by
  rcases apply_cases h op with heq | ⟨rfl, heq⟩ | ⟨rfl, heq⟩
  · rw [heq]
  · rw [heq]
    decide
  · rw [heq]
    decide

/-! ## Histories -/

theorem after_append (h : Handshake) (ops more : List Operation) :
    after h (ops ++ more) = after (after h ops) more := List.foldl_append

theorem rank_after (h : Handshake) (ops : List Operation) : h.rank ≤ (after h ops).rank := by
  induction ops generalizing h with
  | nil => exact Nat.le_refl _
  | cons op ops ih => exact Nat.le_trans (rank_apply h op) (ih (apply h op))

/-- Whether the operation at a position is of a kind. -/
def At (kind : Operation → Prop) (ops : List Operation) (i : Nat) : Prop := ∃ op ∈ ops[i]?, kind op

/-- Whether some operation confirms after one that triggers. -/
def Passed (ops : List Operation) : Prop :=
  ∃ i j, i < j ∧ At Operation.Triggers ops i ∧ At Operation.Confirms ops j

theorem at_concat {kind : Operation → Prop} {i : Nat} :
    At kind (ops ++ [op]) i ↔ At kind ops i ∨ i = ops.length ∧ kind op := by
  unfold At
  rcases Nat.lt_trichotomy i ops.length with hi | rfl | hi
  · simp [List.getElem?_append_left hi, Nat.ne_of_lt hi]
  · simp
  · have hlen : (ops ++ [op]).length ≤ i := by simpa using hi
    simp [List.getElem?_eq_none hlen, List.getElem?_eq_none (Nat.le_of_lt hi), Nat.ne_of_gt hi]

theorem At.lt {kind : Operation → Prop} {i : Nat} (hi : At kind ops i) : i < ops.length := by
  obtain ⟨op, hop, -⟩ := hi
  exact (List.getElem?_eq_some_iff.1 hop).1

theorem exists_at_concat {kind : Operation → Prop} :
    (∃ i, At kind (ops ++ [op]) i) ↔ (∃ i, At kind ops i) ∨ kind op := by
  simp [at_concat, exists_or]

theorem passed_concat :
    Passed (ops ++ [op]) ↔ Passed ops ∨ (∃ i, At Operation.Triggers ops i) ∧ op.Confirms := by
  constructor
  · rintro ⟨i, j, hij, hi, hj⟩
    rcases at_concat.1 hi with hi | ⟨rfl, -⟩
    · rcases at_concat.1 hj with hj | ⟨-, hop⟩
      · exact .inl ⟨i, j, hij, hi, hj⟩
      · exact .inr ⟨⟨i, hi⟩, hop⟩
    · -- nothing stands after the last operation
      rcases at_concat.1 hj with hj | ⟨rfl, -⟩
      · exact absurd hj.lt (Nat.not_lt.2 (Nat.le_of_lt hij))
      · exact absurd hij (Nat.lt_irrefl _)
  · rintro (⟨i, j, hij, hi, hj⟩ | ⟨⟨i, hi⟩, hop⟩)
    · exact ⟨i, j, hij, at_concat.2 (.inl hi), at_concat.2 (.inl hj)⟩
    · exact ⟨i, ops.length, hi.lt, at_concat.2 (.inl hi), at_concat.2 (.inr ⟨rfl, hop⟩)⟩

/-- What a handshake says about the operations since it was new. -/
def Tells (ops : List Operation) : Handshake → Prop
  | notTriggered => ¬ ∃ i, At Operation.Triggers ops i
  | triggered => (∃ i, At Operation.Triggers ops i) ∧ ¬ Passed ops
  | confirmed => Passed ops

theorem Passed.exists_triggers (hp : Passed ops) : ∃ i, At Operation.Triggers ops i := by
  obtain ⟨i, -, -, hi, -⟩ := hp
  exact ⟨i, hi⟩

theorem Tells.concat (ht : Tells ops h) (op : Operation) : Tells (ops ++ [op]) (apply h op) := by
  have hcases := apply_cases h op
  cases h with
  | notTriggered =>
    have hnot : ¬ Passed (ops ++ [op]) := by
      rw [passed_concat]
      rintro (hp | ⟨hseen, -⟩)
      · exact ht hp.exists_triggers
      · exact ht hseen
    by_cases hop : op.Triggers
    · rw [apply_notTriggered.2 hop]
      exact ⟨exists_at_concat.2 (.inr hop), hnot⟩
    · have heq : apply notTriggered op = notTriggered := by
        simpa [hop] using hcases
      rw [heq]
      rintro hseen
      exact (exists_at_concat.1 hseen).elim ht hop
  | triggered =>
    obtain ⟨hseen, hnot⟩ := ht
    by_cases hop : op.Confirms
    · rw [apply_triggered.2 hop]
      exact passed_concat.2 (.inr ⟨hseen, hop⟩)
    · have heq : apply triggered op = triggered := by
        simpa [hop] using hcases
      rw [heq]
      refine ⟨exists_at_concat.2 (.inl hseen), ?_⟩
      rintro hp
      exact (passed_concat.1 hp).elim hnot fun hlast => hop hlast.2
  | confirmed =>
    have heq : apply confirmed op = confirmed := by
      simpa using hcases
    rw [heq]
    exact passed_concat.2 (.inl ht)

theorem tells_after (ops : List Operation) : Tells ops (after notTriggered ops) := by
  induction ops using List.reverseRecOn with
  | nil => simp [Tells, At, after]
  | append_singleton ops op ih =>
    rw [after_append]
    exact ih.concat op

/-- No two handshakes tell the same. -/
theorem Tells.unique {k : Handshake} (hh : Tells ops h) (hk : Tells ops k) : h = k := by
  have hp : Passed ops → ∃ i, At Operation.Triggers ops i := Passed.exists_triggers
  cases h <;> cases k <;> grind [Tells]

theorem after_eq_iff : after notTriggered ops = h ↔ Tells ops h := by
  constructor
  · rintro rfl
    exact tells_after ops
  · exact (tells_after ops).unique

/-- A new handshake never goes back, whatever is done with it. It is confirmed exactly if some observation
saw its target performed and a later check, of this or of another target, found motion walking or lining up
instead; it is triggered exactly if there is such an observation and no such check after one; and otherwise
it is as it was. -/
theorem latches_in_order (ops : List Operation) :
    (∀ i n, (after notTriggered (ops.take i)).rank ≤ (after notTriggered (ops.take (i + n))).rank) ∧
    (after notTriggered ops = confirmed ↔ ∃ i j : Nat, i < j ∧
      (∃ target, ops[i]? = some (.observe target target)) ∧
      ∃ active target, ops[j]? = some (.check active target) ∧ active ≠ target ∧
        (active = .walk ∨ active = .lineUp)) ∧
    (after notTriggered ops = triggered ↔
      (∃ (i : Nat) (target : Action), ops[i]? = some (.observe target target)) ∧
      ¬ ∃ i j : Nat, i < j ∧ (∃ target, ops[i]? = some (.observe target target)) ∧
        ∃ active target, ops[j]? = some (.check active target) ∧ active ≠ target ∧
          (active = .walk ∨ active = .lineUp)) ∧
    (after notTriggered ops = notTriggered ↔
      ¬ ∃ (i : Nat) (target : Action), ops[i]? = some (.observe target target)) := by
  have htriggers : ∀ i, At Operation.Triggers ops i ↔
      ∃ target, ops[i]? = some (.observe target target) := by
    intro i
    constructor
    · rintro ⟨_, hop, target, rfl⟩
      exact ⟨target, hop⟩
    · rintro ⟨target, hop⟩
      exact ⟨_, hop, target, rfl⟩
  have hconfirms : ∀ j, At Operation.Confirms ops j ↔
      ∃ active target, ops[j]? = some (.check active target) ∧ active ≠ target ∧
        (active = .walk ∨ active = .lineUp) := by
    intro j
    constructor
    · rintro ⟨_, hop, active, target, rfl, hends⟩
      exact ⟨active, target, hop, hends⟩
    · rintro ⟨active, target, hop, hends⟩
      exact ⟨_, hop, active, target, rfl, hends⟩
  simp only [← htriggers, ← hconfirms]
  refine ⟨fun i n => ?_, after_eq_iff, after_eq_iff, after_eq_iff⟩
  rw [List.take_add, after_append]
  exact rank_after _ _

/-- A walk that was the target itself is moved on from as soon as the target is another. -/
example : after notTriggered [.observe .walk .walk, .check .walk .walk, .check .walk .kick] = confirmed := by
  decide

end Striker.Handshake
