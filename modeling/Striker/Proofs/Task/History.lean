/-
The task against its history. Fed with any contexts after its reset, it asks for walks and ball
actions in a fixed pattern: a warm-up, kicks, a warm-up and one more walk, dribbles, a warm-up and
one more walk, and so on. Only the lengths of the attempts depend on what motion reports: an attempt
ends at the first tick at which motion walks or lines up after it was seen performing the target.
-/
import Striker.Proofs.Task.Tick

namespace Striker

/-! ## Runs over contexts -/

namespace Task

/-- The task after ticks with these contexts. -/
def after (t : Task) (cs : List Context) : Task := cs.foldl (fun t c => (t.tick c).task) t

/-- The actions that ticks with these contexts ask for. -/
def actions : Task → List Context → List Action
  | _, [] => []
  | t, c :: cs => (t.tick c).request.body.action :: actions (t.tick c).task cs

@[simp] theorem after_nil (t : Task) : t.after [] = t := rfl

@[simp] theorem after_cons (t : Task) (c : Context) (cs : List Context) :
    t.after (c :: cs) = (t.tick c).task.after cs := rfl

theorem after_concat (t : Task) (cs : List Context) (c : Context) :
    t.after (cs ++ [c]) = ((t.after cs).tick c).task := by
  unfold after; rw [List.foldl_append]; rfl

theorem actions_concat : ∀ (t : Task) (cs : List Context) (c : Context),
    t.actions (cs ++ [c]) = t.actions cs ++ [((t.after cs).tick c).request.body.action]
  | _, [], _ => rfl
  | t, d :: cs, c => by
    simp only [List.cons_append, actions, after_cons]
    rw [actions_concat (t.tick d).task cs c]

theorem after_take_succ (t : Task) {cs : List Context} {k : Nat} {c : Context} (h : cs[k]? = some c) :
    t.after (cs.take (k + 1)) = ((t.after (cs.take k)).tick c).task := by
  rw [List.take_add_one, h]
  exact after_concat t (cs.take k) c

/-- The action of a tick is decided by the task that the ticks before it have left. -/
theorem actions_getElem? : ∀ (t : Task) (cs : List Context) (k : Nat),
    (t.actions cs)[k]? =
      cs[k]?.map fun c => ((t.after (cs.take k)).tick c).request.body.action
  | _, [], _ => by simp [actions]
  | _, _ :: _, 0 => by simp [actions]
  | t, c :: cs, k + 1 => by
    simp only [actions, List.getElem?_cons_succ, List.take_succ_cons, after_cons]
    exact actions_getElem? (t.tick c).task cs k

theorem after_warmup (t : Task) (cs : List Context) : (t.after cs).warmup = t.warmup := by
  induction cs generalizing t with
  | nil => rfl
  | cons c cs ih => rw [after_cons, ih, tick_warmup]

theorem Sound.after {t : Task} (h : t.Sound) (cs : List Context) : (t.after cs).Sound := by
  induction cs generalizing t with
  | nil => exact h
  | cons c cs ih => exact ih (h.tick c)

/-! ## The pattern of actions -/

/-- The actions of `n` attempts of the given lengths: the first warm-up, and for each attempt its
target, again and again, the walk that completes it, and a warm-up. -/
def pattern (warmup : Nat) (lengths : Nat → Nat) (n : Nat) : List Action :=
  List.replicate warmup .walk ++ (List.range n).flatMap fun k =>
    List.replicate (lengths k) (Target.nth k).action ++ List.replicate (warmup + 1) .walk

theorem pattern_succ (warmup : Nat) (lengths : Nat → Nat) (n : Nat) :
    pattern warmup lengths (n + 1) = pattern warmup lengths n ++
      (List.replicate (lengths n) (Target.nth n).action ++ List.replicate (warmup + 1) .walk) := by
  simp [pattern, List.range_succ, List.flatMap_append]

theorem pattern_congr {warmup n : Nat} {l m : Nat → Nat} (h : ∀ k < n, l k = m k) :
    pattern warmup l n = pattern warmup m n := by
  unfold pattern
  congr 1
  refine List.flatMap_congr fun k hk => ?_
  rw [h k (List.mem_range.1 hk)]

/-- Where a task is in the pattern: `n` attempts are complete, and the one after them has asked `j`
times for its target. What is left of a warm-up is still to be added to the actions so far. -/
structure Trail (lengths : Nat → Nat) (n j : Nat) (acts : List Action) (t : Task) : Prop where
  word : acts ++ List.replicate (t.warmup - t.state.walkFrames) .walk =
    pattern t.warmup lengths n ++ List.replicate j (Target.nth n).action
  target : t.state.target = .nth n
  waiting : t.state.walkFrames < t.warmup → j = 0
  latched : t.state.handshake = .triggered → 1 ≤ j
  long : ∀ k < n, 1 ≤ lengths k

theorem trail_init (t : Task) : Trail (fun _ => 1) 0 0 [] t.init :=
  ⟨by simp [init, State.initial, pattern], rfl, fun _ => rfl,
    by simp [init, State.initial], fun k hk => absurd hk (Nat.not_lt_zero k)⟩

/-- A tick takes a task one action further in the pattern. -/
theorem Trail.tick {lengths : Nat → Nat} {n j : Nat} {acts : List Action} {t : Task}
    (h : Trail lengths n j acts t) (hs : t.Sound) (c : Context) :
    ∃ lengths n j, Trail lengths n j (acts ++ [(t.tick c).request.body.action]) (t.tick c).task := by
  have hword := h.word
  rcases hs.tick_cases c with ⟨hw, ht, ha⟩ | ⟨hw, hl, -, ht, ha⟩ | ⟨hw, -, ht, ha⟩
  · -- the walk is one of those that were left
    refine ⟨lengths, n, j, ?_, (by rw [ht]; exact h.target), fun _ => h.waiting hw,
      (by rw [ht]; nofun), h.long⟩
    have hleft : t.warmup - t.state.walkFrames = t.warmup - (t.state.walkFrames + 1) + 1 := by omega
    rw [tick_warmup, ha, ht, ← hword, hleft, List.replicate_succ, List.append_assoc]
    rfl
  · -- the attempt is as long as it has asked for its target
    refine ⟨Function.update lengths n j, n + 1, 0, ?_, ?_, fun _ => rfl,
      (by rw [ht]; nofun), ?_⟩
    · rw [hw, Nat.sub_self, List.replicate_zero, List.append_nil] at hword
      have hsame : pattern t.warmup (Function.update lengths n j) n = pattern t.warmup lengths n :=
        pattern_congr fun k hk => Function.update_of_ne (Nat.ne_of_lt hk) ..
      rw [tick_warmup, ha, ht, hword, pattern_succ, hsame, Function.update_self, List.replicate_succ]
      simp
    · rw [ht, Target.nth_succ, ← h.target]
    · intro k hk
      rcases Nat.lt_succ_iff_lt_or_eq.1 hk with hk | rfl
      · rw [Function.update_of_ne (Nat.ne_of_lt hk)]; exact h.long k hk
      · rw [Function.update_self]; exact h.latched hl
  · refine ⟨lengths, n, j + 1, ?_, (by rw [ht]; exact h.target), ?_, fun _ => by omega, h.long⟩
    · rw [hw, Nat.sub_self, List.replicate_zero, List.append_nil] at hword
      rw [tick_warmup, ha, ht, hword, h.target, List.replicate_succ', ← List.append_assoc]
      simp [hw]
    · rw [tick_warmup, ht]
      intro hlt
      exact absurd hw (Nat.ne_of_lt hlt)

theorem exists_trail (t : Task) (cs : List Context) :
    ∃ lengths n j, Trail lengths n j (t.init.actions cs) (t.init.after cs) := by
  induction cs using List.reverseRecOn with
  | nil => exact ⟨_, _, _, trail_init t⟩
  | append_singleton cs c ih =>
    obtain ⟨lengths, n, j, h⟩ := ih
    rw [actions_concat, after_concat]
    exact h.tick ((sound_init t).after cs) c

/-- The actions after a reset are a beginning of the pattern. The attempt that is going on is given
the length it has so far, or one if it has not begun. -/
theorem actions_in_pattern (t : Task) (cs : List Context) :
    ∃ lengths : Nat → Nat, (∀ k, 1 ≤ lengths k) ∧
      ∃ n, t.init.actions cs <+: pattern t.warmup lengths n := by
  obtain ⟨lengths, n, j, h⟩ := exists_trail t cs
  have hw : (t.init.after cs).warmup = t.warmup := after_warmup t.init cs
  -- the attempt that is going on may still become longer, so any length of at least `j` will do
  let full : Nat → Nat := fun k => if k < n then lengths k else max j 1
  have hfull : ∀ k < n, full k = lengths k := fun k hk => if_pos hk
  have hn : full n = max j 1 := if_neg (Nat.lt_irrefl n)
  refine ⟨full, fun k => ?_, n + 1, ?_⟩
  · by_cases hk : k < n
    · rw [hfull k hk]; exact h.long k hk
    · simp [full, hk]
  · have hword := h.word
    rw [hw] at hword
    have hlong : List.replicate (max j 1) (Target.nth n).action =
        List.replicate j (Target.nth n).action ++
          List.replicate (max j 1 - j) (Target.nth n).action := by
      rw [List.replicate_append_replicate]; congr 1; omega
    rw [pattern_succ, pattern_congr hfull, hn, hlong, List.append_assoc, ← List.append_assoc,
      ← hword, List.append_assoc]
    exact List.prefix_append ..

/-! ## The end of an attempt -/

/-- What motion reports in the context at a position. -/
def activeAt (cs : List Context) (k : Nat) : Option Action := cs[k]?.map Context.active

/-- An attempt for the target begins at a position: the first action, or the one after a walk. -/
def BeginsAt (acts : List Action) (target : Target) (b : Nat) : Prop :=
  acts[b]? = some target.action ∧ ∀ i, i + 1 = b → acts[i]? = some .walk

/-- Motion was seen performing the target at or after position `b`, and walks or lines up at the
later position `j`. -/
def Carried (cs : List Context) (target : Target) (b j : Nat) : Prop :=
  (∃ i, b ≤ i ∧ i < j ∧ activeAt cs i = some target.action) ∧
    (activeAt cs j = some .walk ∨ activeAt cs j = some .lineUp)

theorem exists_of_activeAt {cs : List Context} {k : Nat} {a : Action} (h : activeAt cs k = some a) :
    ∃ c, cs[k]? = some c ∧ c.active = a := by
  simpa [activeAt] using h

theorem activeAt_of_getElem? {cs : List Context} {k : Nat} {c : Context} (h : cs[k]? = some c) :
    activeAt cs k = some c.active := by
  rw [activeAt, h]; rfl

/-- A task in the middle of an attempt; `seen` tells whether motion was seen performing it. -/
structure Attempting (t : Task) (target : Target) (seen : Prop) : Prop where
  counted : t.state.walkFrames = t.warmup
  target : t.state.target = target
  latched : t.state.handshake = .triggered ↔ seen

theorem Attempting.congr {t : Task} {target : Target} {p q : Prop} (h : Attempting t target p)
    (hpq : p ↔ q) : Attempting t target q :=
  ⟨h.counted, h.target, h.latched.trans hpq⟩

/-- The tick after motion was seen performing completes the attempt once motion walks or lines up;
every other tick goes on with it. -/
theorem Attempting.tick {t : Task} {target : Target} {seen : Prop} (h : Attempting t target seen)
    (hs : t.Sound) (c : Context) :
    (seen ∧ c.active.endsBallAction = true ∧ (t.tick c).request.body.action = .walk ∧
      (t.tick c).task.state = ⟨0, target.other, .notTriggered⟩) ∨
    (¬ (seen ∧ c.active.endsBallAction = true) ∧
      (t.tick c).request.body.action = target.action ∧
      Attempting (t.tick c).task target (seen ∨ c.active = target.action)) := by
  rcases hs.tick_cases c with ⟨hw, -⟩ | ⟨-, hl, he, ht, ha⟩ | ⟨hw, hn, ht, ha⟩
  · exact absurd h.counted (Nat.ne_of_lt hw)
  · exact .inl ⟨h.latched.1 hl, he, ha, by rw [ht, ← h.target]⟩
  · rw [h.target] at ha
    refine .inr ⟨by rwa [← h.latched], ha, ?_, ?_, ?_⟩
    · rw [tick_warmup, ht]; exact hw
    · rw [ht]; exact h.target
    · rw [ht, ← h.latched, ← h.target]
      exact Handshake.observe_eq_triggered hs.unconfirmed

theorem Sound.phase_of_walk {t : Task} (h : t.Sound) {c : Context}
    (ha : (t.tick c).request.body.action = .walk) : (t.tick c).task.phase = .warmup := by
  rcases h.tick_cases c with ⟨-, ht, -⟩ | ⟨-, -, -, ht, -⟩ | ⟨-, -, -, hb⟩
  · rw [ht]
  · rw [ht]
  · rw [hb] at ha; simp at ha

/-- An attempt begins with nothing seen of it. -/
theorem attempting_of_beginsAt {t : Task} {cs : List Context} {target : Target} {b : Nat}
    (h : BeginsAt (t.init.actions cs) target b) :
    Attempting (t.init.after (cs.take b)) target False := by
  have hs : (t.init.after (cs.take b)).Sound := (sound_init t).after _
  have hphase : (t.init.after (cs.take b)).phase = .warmup := by
    cases b with
    | zero => rfl
    | succ i =>
      have hi := h.2 i rfl
      rw [actions_getElem?] at hi
      obtain ⟨c, hc, ha⟩ := Option.map_eq_some_iff.1 hi
      rw [after_take_succ t.init hc]
      exact ((sound_init t).after _).phase_of_walk ha
  have hb := h.1
  rw [actions_getElem?] at hb
  obtain ⟨c, -, ha⟩ := Option.map_eq_some_iff.1 hb
  rcases hs.tick_cases c with ⟨-, -, hw⟩ | ⟨-, -, -, -, hw⟩ | ⟨hw, -, -, hb⟩
  · rw [hw] at ha; exact absurd ha.symm (Target.action_ne_walk target)
  · rw [hw] at ha; exact absurd ha.symm (Target.action_ne_walk target)
  · refine ⟨hw, Target.action_inj.1 (hb.symm.trans ha), fun hl => ?_, False.elim⟩
    exact hs.latched hl hphase

/-- As long as it is not carried out, an attempt goes on, and the latch tells whether motion was
seen performing it. -/
theorem attempting_until {t : Task} {cs : List Context} {target : Target} {b k : Nat}
    (h : BeginsAt (t.init.actions cs) target b) (hbk : b ≤ k) (hk : k ≤ cs.length)
    (hn : ∀ j < k, ¬ Carried cs target b j) :
    Attempting (t.init.after (cs.take k)) target
        (∃ i, b ≤ i ∧ i < k ∧ activeAt cs i = some target.action) ∧
      ∀ i, b ≤ i → i < k → (t.init.actions cs)[i]? = some target.action := by
  -- what has been seen grows with each tick, so the latch is carried along the induction
  induction k, hbk using Nat.le_induction with
  | base =>
    refine ⟨(attempting_of_beginsAt h).congr ⟨False.elim, ?_⟩, fun i h1 h2 => by omega⟩
    rintro ⟨i, h1, h2, -⟩; omega
  | succ k hbk ih =>
    obtain ⟨hat, hacts⟩ := ih (by omega) fun j hj => hn j (by omega)
    obtain ⟨c, hc⟩ : ∃ c, cs[k]? = some c := ⟨_, List.getElem?_eq_getElem hk⟩
    have hactive := activeAt_of_getElem? hc
    rcases hat.tick ((sound_init t).after _) c with ⟨hseen, hend, -⟩ | ⟨-, ha, hat'⟩
    · refine absurd ⟨hseen, ?_⟩ (hn k (Nat.lt_succ_self k))
      rw [hactive]
      simpa using Action.endsBallAction_iff.1 hend
    · constructor
      · rw [after_take_succ t.init hc]
        refine hat'.congr ⟨?_, ?_⟩
        · rintro (⟨i, h1, h2, hi⟩ | hca)
          · exact ⟨i, h1, by omega, hi⟩
          · exact ⟨k, hbk, Nat.lt_succ_self k, by rw [hactive, hca]⟩
        · rintro ⟨i, h1, h2, hi⟩
          rcases Nat.lt_succ_iff_lt_or_eq.1 h2 with h2 | rfl
          · exact .inl ⟨i, h1, h2, hi⟩
          · rw [hactive] at hi; exact .inr (Option.some.inj hi)
      · intro i h1 h2
        rcases Nat.lt_succ_iff_lt_or_eq.1 h2 with h2 | rfl
        · exact hacts i h1 h2
        · rw [actions_getElem?, hc]; exact congrArg some ha

/-- The first tick at which an attempt is carried out walks, and begins the next warm-up. -/
theorem walk_of_carried {t : Task} {cs : List Context} {target : Target} {b j : Nat}
    (h : BeginsAt (t.init.actions cs) target b) (hj : Carried cs target b j)
    (hn : ∀ i < j, ¬ Carried cs target b i) :
    (t.init.actions cs)[j]? = some .walk ∧
      (t.init.after (cs.take (j + 1))).state = ⟨0, target.other, .notTriggered⟩ := by
  obtain ⟨hseen, hend⟩ := hj
  obtain ⟨c, hc⟩ : ∃ c, cs[j]? = some c := by
    rcases hend with hend | hend <;> exact (exists_of_activeAt hend).imp fun _ => And.left
  have hactive := activeAt_of_getElem? hc
  have hlt : j < cs.length := (List.getElem?_eq_some_iff.1 hc).1
  have hbj : b ≤ j := by obtain ⟨i, h1, h2, -⟩ := hseen; omega
  obtain ⟨hat, -⟩ := attempting_until h hbj (by omega) hn
  rcases hat.tick ((sound_init t).after _) c with ⟨-, -, ha, hst⟩ | ⟨hno, -⟩
  · rw [actions_getElem?, hc, after_take_succ t.init hc]
    exact ⟨congrArg some ha, hst⟩
  · refine absurd ⟨hseen, Action.endsBallAction_iff.2 ?_⟩ hno
    simpa [hactive] using hend

/-- An attempt lasts up to a tick exactly as long as no tick has carried it out. -/
theorem attempt_lasts_iff {t : Task} {cs : List Context} {target : Target} {b k : Nat}
    (h : BeginsAt (t.init.actions cs) target b) (hbk : b ≤ k) (hk : k < cs.length) :
    (∀ i, b ≤ i → i ≤ k → (t.init.actions cs)[i]? = some target.action) ↔
      ∀ j ≤ k, ¬ Carried cs target b j := by
  constructor
  · intro hall j
    -- the first tick that carries the attempt out walks, so it does not ask for the target
    induction j using Nat.strong_induction_on with
    | _ j ih =>
      intro hjk hj
      have hbj : b ≤ j := by obtain ⟨i, h1, h2, -⟩ := hj.1; omega
      have hwalk := (walk_of_carried h hj fun i hi => ih i hi (by omega)).1
      rw [hall j hbj hjk] at hwalk
      simp at hwalk
  · intro hno i h1 h2
    exact (attempting_until h (k := k + 1) (by omega) hk fun j hj => hno j (by omega)).2 i h1 (by omega)

/-- The actions of a task that is fed with any contexts after its reset. They are a beginning of the
pattern, with at least one tick for each attempt. An attempt lasts exactly until the first tick
that carries it out; that tick walks, counts from zero, and turns to the other target. -/
theorem actions_follow_history (t : Task) (cs : List Context) :
    (∃ lengths : Nat → Nat, (∀ k, 1 ≤ lengths k) ∧
      ∃ n, t.init.actions cs <+: pattern t.settings.walkFrames.toNat lengths n) ∧
    ∀ (target : Target) (b : Nat), BeginsAt (t.init.actions cs) target b →
      (∀ k, b ≤ k → k < cs.length →
        ((∀ i, b ≤ i → i ≤ k → (t.init.actions cs)[i]? = some target.action) ↔
          ∀ j ≤ k, ¬ Carried cs target b j)) ∧
      ∀ j, Carried cs target b j → (∀ i < j, ¬ Carried cs target b i) →
        (t.init.actions cs)[j]? = some .walk ∧
          (t.init.after (cs.take (j + 1))).state = ⟨0, target.other, .notTriggered⟩ :=
  ⟨actions_in_pattern t cs, fun _ _ h =>
    ⟨fun _ hbk hk => attempt_lasts_iff h hbk hk, fun _ hj hn => walk_of_carried h hj hn⟩⟩

end Task

end Striker
