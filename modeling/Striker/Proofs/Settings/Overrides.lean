/-
Overriding settings from two variables. A variable that is set can be read if its text, without the blanks
at its ends, is a value of its field; the field then has that value, and otherwise the one it had. A
variable that cannot be read ends the overriding where it stands, the warm-up first, and what was read
before it stays. In each case the settings that are left have been overridden as far as they can be, so
the same variables find nothing more to change in them.
-/
import Striker.Proofs.Runner.Activation
import Striker.Settings.Overrides

namespace Striker.Settings

/-! ## Variables -/

section Variable

variable {α : Type} (parse : String → Option α)

/-- What the value of a variable says. -/
def given? (value : Option String) : Option α := value.bind fun raw => parse (Text.trim raw)

/-- Whether a variable is set to something that says nothing. -/
def Unreadable (value : Option String) (raw : String) : Prop :=
  value = some raw ∧ parse (Text.trim raw) = none

/-- Whether a variable, if it is set, says something. -/
def Readable (value : Option String) : Prop := ∀ raw ∈ value, (parse (Text.trim raw)).isSome

theorem readable_or (value : Option String) :
    Readable parse value ∨ ∃ raw, Unreadable parse value raw := by
  cases value with
  | none => exact .inl nofun
  | some raw =>
    cases hraw : parse (Text.trim raw) with
    | none => exact .inr ⟨raw, rfl, hraw⟩
    | some x =>
      refine .inl ?_
      rintro _ ⟨⟩
      simp [hraw]

variable {parse}

theorem Unreadable.not_readable {value : Option String} {raw : String} (h : Unreadable parse value raw) :
    ¬ Readable parse value := by
  intro hr
  have hsome := hr raw h.1
  rw [h.2] at hsome
  cases hsome

end Variable

/-- A number of 32 bits. -/
abbrev single? : String → Option Single := Binary.ofText?

/-- Settings with what is given in the place of what they have. -/
def replaced (s : Settings) (walkFrames : Option UInt32) (threshold : Option Single) : Settings :=
  { s with walkFrames := walkFrames.getD s.walkFrames, threshold := threshold.getD s.threshold }

theorem replaced_replaced (s : Settings) (walkFrames : Option UInt32) (threshold : Option Single) :
    (s.replaced walkFrames threshold).replaced walkFrames threshold = s.replaced walkFrames threshold := by
  cases walkFrames <;> cases threshold <;> rfl

theorem overrideWalkFrames_of_readable {value : Option String} (h : Readable word32? value) (s : Settings) :
    s.overrideWalkFrames value = .ok (s.replaced (given? word32? value) none,
      (given? word32? value).toList.map .walkFramesOverridden) := by
  cases value with
  | none => rfl
  | some raw =>
    obtain ⟨n, hn⟩ := Option.isSome_iff_exists.1 (h raw rfl)
    simp [overrideWalkFrames, given?, hn, replaced]

theorem overrideThreshold_of_readable {value : Option String} (h : Readable single? value) (s : Settings) :
    s.overrideThreshold value = .ok (s.replaced none (given? single? value),
      (given? single? value).toList.map .thresholdOverridden) := by
  cases value with
  | none => rfl
  | some raw =>
    obtain ⟨x, hx⟩ := Option.isSome_iff_exists.1 (h raw rfl)
    simp [overrideThreshold, given?, hx, replaced]

/-! ## Outcomes -/

variable {lookup : String → Option String} {raw : String}

theorem override_of_unreadable_walk (h : Unreadable word32? (lookup walkFramesVariable) raw)
    (s : Settings) : s.override lookup = ⟨s, .error (.override walkFramesVariable raw), []⟩ := by
  simp [override, overrideWalkFrames, h.1, h.2]

theorem override_of_unreadable_threshold (hwalk : Readable word32? (lookup walkFramesVariable))
    (h : Unreadable single? (lookup thresholdVariable) raw) (s : Settings) :
    s.override lookup = ⟨s.replaced (given? word32? (lookup walkFramesVariable)) none,
      .error (.override thresholdVariable raw),
      (given? word32? (lookup walkFramesVariable)).toList.map .walkFramesOverridden⟩ := by
  simp [override, overrideWalkFrames_of_readable hwalk, overrideThreshold, h.1, h.2]

theorem override_of_readable (hwalk : Readable word32? (lookup walkFramesVariable))
    (hnear : Readable single? (lookup thresholdVariable)) (s : Settings) :
    let full := s.replaced (given? word32? (lookup walkFramesVariable))
      (given? single? (lookup thresholdVariable))
    s.override lookup = ⟨full, full.check,
      (given? word32? (lookup walkFramesVariable)).toList.map .walkFramesOverridden ++
        (given? single? (lookup thresholdVariable)).toList.map .thresholdOverridden⟩ := by
  simp only [override, overrideWalkFrames_of_readable hwalk, overrideThreshold_of_readable hnear]
  rfl

/-- Overrides are reported for debugging only. -/
theorem level_of_mem_events {s : Settings} {e : Event} (h : e ∈ (s.override lookup).events) :
    e.level = .debug := by
  rcases readable_or word32? (lookup walkFramesVariable) with hwalk | ⟨raw, hwalk⟩
  · rcases readable_or single? (lookup thresholdVariable) with hnear | ⟨raw, hnear⟩
    · rw [override_of_readable hwalk hnear, List.mem_append, List.mem_map, List.mem_map] at h
      rcases h with ⟨n, -, rfl⟩ | ⟨x, -, rfl⟩ <;> rfl
    · rw [override_of_unreadable_threshold hwalk hnear, List.mem_map] at h
      obtain ⟨n, -, rfl⟩ := h
      rfl
  · rw [override_of_unreadable_walk hwalk] at h
    cases h

/-- Overriding leaves the frame rate and the lamp alone. It succeeds exactly if each variable that is set
can be read and the settings with what they say are valid; these are then the settings that are left, and a
task can be made of them. If the variable for the warm-up cannot be read nothing is changed, if the one for
the threshold cannot be read only the warm-up is, and if the settings with all that was read are not valid
they stay all the same. And overriding what is left once more comes to the same end and changes nothing. -/
theorem override_settles (s : Settings) (lookup : String → Option String) :
    let walk := lookup walkFramesVariable
    let near := lookup thresholdVariable
    let o := s.override lookup
    let full := s.replaced (given? word32? walk) (given? single? near)
    (o.settings.frameRate = s.frameRate ∧ o.settings.lamp = s.lamp) ∧
    (o.outcome = .ok () ↔ Readable word32? walk ∧ Readable single? near ∧ full.check = .ok ()) ∧
    ((o.outcome = .ok () ∧ o.settings = full ∧
        Task.ofSettings o.settings = .ok ⟨full, .initial, .warmup, none⟩) ∨
      (∃ raw, Unreadable word32? walk raw ∧ o.outcome = .error (.override walkFramesVariable raw) ∧
        o.settings = s) ∨
      (Readable word32? walk ∧ ∃ raw, Unreadable single? near raw ∧
        o.outcome = .error (.override thresholdVariable raw) ∧
        o.settings = s.replaced (given? word32? walk) none) ∨
      (Readable word32? walk ∧ Readable single? near ∧ ∃ e, full.check = .error e ∧
        o.outcome = .error e ∧ o.settings = full)) ∧
    o.settings.override lookup = o := by
  intro walk near o full
  rcases readable_or word32? walk with hwalk | ⟨raw, hwalk⟩
  · rcases readable_or single? near with hnear | ⟨raw, hnear⟩
    · have ho : o = ⟨full, full.check, _⟩ := override_of_readable hwalk hnear s
      have hagain : full.override lookup = o := by
        rw [ho, override_of_readable hwalk hnear, replaced_replaced]
      have hsettings : o.settings = full := by rw [ho]
      have houtcome : o.outcome = full.check := by rw [ho]
      rw [hsettings, houtcome]
      refine ⟨⟨rfl, rfl⟩, ?_, ?_, hagain⟩
      · simp [hwalk, hnear]
      · rcases hcheck : full.check with e | ⟨⟨⟩⟩
        · exact .inr (.inr (.inr ⟨hwalk, hnear, e, rfl, rfl, rfl⟩))
        · exact .inl ⟨rfl, rfl, Task.ofSettings_eq_ok.2 ⟨hcheck, rfl⟩⟩
    · have ho : o = ⟨s.replaced (given? word32? walk) none, .error (.override thresholdVariable raw), _⟩ :=
        override_of_unreadable_threshold hwalk hnear s
      have hagain : (s.replaced (given? word32? walk) none).override lookup = o := by
        rw [ho, override_of_unreadable_threshold hwalk hnear, replaced_replaced]
      have hsettings : o.settings = s.replaced (given? word32? walk) none := by rw [ho]
      have houtcome : o.outcome = .error (.override thresholdVariable raw) := by rw [ho]
      rw [hsettings, houtcome]
      refine ⟨⟨rfl, rfl⟩, ?_, .inr (.inr (.inl ⟨hwalk, raw, hnear, rfl, rfl⟩)), hagain⟩
      simp [hnear.not_readable]
  · have ho : o = ⟨s, .error (.override walkFramesVariable raw), []⟩ := override_of_unreadable_walk hwalk s
    have hsettings : o.settings = s := by rw [ho]
    have houtcome : o.outcome = .error (.override walkFramesVariable raw) := by rw [ho]
    rw [hsettings, houtcome]
    refine ⟨⟨rfl, rfl⟩, ?_, .inr (.inl ⟨raw, hwalk, rfl, rfl⟩), rfl⟩
    simp [hwalk.not_readable]

/-- The new warm-up stays although the threshold is no number. -/
example :
    let o := standard.override fun name => some (if name = walkFramesVariable then "\t+045 " else "near")
    o.settings = { standard with walkFrames := 45 } ∧
      o.outcome = .error (.override thresholdVariable "near") := by
  decide +kernel

end Striker.Settings
