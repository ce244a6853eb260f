/-
Settings and scenarios from objects that leave out some of their fields. A field that is given has what is
given, and one that is left out has its standard value, in whatever order the fields come and whatever else
the object has. A field that is given twice, or with a value that does not belong there, is a problem.
-/
import Striker.Proofs.Json.Objects
import Striker.Settings.Loading
import Striker.Simulation

namespace Striker

open Json (Node Cursor ReadsPartial)

/-! ## Slots -/

namespace Slot

variable {α : Type}

/-- A slot for a whole number, of a type whose values stand for some of them. -/
def whole {β : Type} (name : String) (toNat : β → Nat) (get : α → β) : Slot Node α :=
  ⟨name, β, fun v x => v.IsWhole (toNat x), get⟩

/-- A slot for a number. -/
def real {f : Format} (name : String) (get : α → Binary f) : Slot Node α := ⟨name, Binary f, Node.IsReal, get⟩

/-- A slot for a lamp. -/
def lamp (name : String) (get : α → Lamp) : Slot Node α := ⟨name, Lamp, fun v l => v.Chooses l.name, get⟩

end Slot

/-- The slots of settings. -/
def Settings.slots : List (Slot Node Settings) := [
  .whole "walk_phase_frames" UInt32.toNat walkFrames,
  .real "near_field_threshold_mm" threshold,
  .whole "frame_rate_hz" UInt32.toNat frameRate,
  .lamp "indicator" Settings.lamp]

/-- The slots of a scenario. -/
def Scenario.slots : List (Slot Node Scenario) := [
  .whole "frames" UInt64.toNat frames,
  .whole "seed" UInt64.toNat seed,
  .whole "lineup_frames" UInt32.toNat lineupFrames,
  .whole "action_frames" UInt32.toNat actionFrames,
  .real "dropout" dropout,
  .real "start_distance_mm" distance]

/-! ## Readers -/

theorem Lamp.reads {room : Nat} (hroom : 1 < room) :
    Reads (Cursor.mk room) Lamp.read fun v l => v.Chooses l.name :=
  Cursor.reads_choice hroom Lamp.variant_name fun _ => Lamp.variant_problem

variable {room : Nat}

theorem Settings.serves (hroom : 1 < room) : (Settings.record Cursor).Serves (Cursor.mk room) slots where
  fields := by
    refine .cons (.of (Cursor.reads_word32 room) ?_ ?_) <|
      .cons (.of (Cursor.reads_real room "f32") ?_ ?_) <|
      .cons (.of (Cursor.reads_word32 room) ?_ ?_) <| .cons (.of (Lamp.reads hroom) ?_ ?_) .nil
    all_goals simp [slots, Slot.whole, Slot.real, Slot.lamp]
  distinct := by decide
  complete {a b} h := by
    simp only [slots, List.forall_mem_cons] at h
    obtain ⟨hwalk, hnear, hrate, hlamp, -⟩ := h
    cases a
    cases b
    simp_all [Slot.whole, Slot.real, Slot.lamp]

theorem Scenario.serves (room : Nat) : (Scenario.record Cursor).Serves (Cursor.mk room) slots where
  fields := by
    refine .cons (.of (Cursor.reads_word64 room) ?_ ?_) <| .cons (.of (Cursor.reads_word64 room) ?_ ?_) <|
      .cons (.of (Cursor.reads_word32 room) ?_ ?_) <| .cons (.of (Cursor.reads_word32 room) ?_ ?_) <|
      .cons (.of (Cursor.reads_real room "f64") ?_ ?_) <|
      .cons (.of (Cursor.reads_real room "f32") ?_ ?_) .nil
    all_goals simp [slots, Slot.whole, Slot.real]
  distinct := by decide
  complete {a b} h := by
    simp only [slots, List.forall_mem_cons] at h
    obtain ⟨hframes, hseed, hlineup, haction, hdropout, hdistance, -⟩ := h
    cases a
    cases b
    simp_all [Slot.whole, Slot.real]

/-! ## Values that do not belong -/

theorem Settings.not_is_null : ∀ s ∈ slots, ¬ ∃ x, s.Is .null x := by
  simp [slots, Slot.whole, Slot.real, Slot.lamp, Node.IsWhole, Node.IsReal, Node.Chooses]

theorem Scenario.not_is_null : ∀ s ∈ slots, ¬ ∃ x, s.Is .null x := by
  simp [slots, Slot.whole, Slot.real, Node.IsWhole, Node.IsReal]

namespace Slot

variable {α : Type} {name : String} {v : Node} {n : Nat}

/-- A whole number is too large for a slot if it is larger than all that the type stands for. -/
theorem not_is_whole {β : Type} {toNat : β → Nat} {get : α → β} (hv : v.IsWhole n) (hn : ∀ x, toNat x < n) :
    ¬ ∃ x, (whole name toNat get).Is v x := by
  rintro ⟨x, hx⟩
  exact absurd (hx.unique hv) (Nat.ne_of_lt (hn x))

theorem not_is_lamp {get : α → Lamp} {word : String} (hv : v.Chooses word)
    (hword : ∀ l : Lamp, l.name ≠ word) : ¬ ∃ l, (lamp name get).Is v l := by
  rintro ⟨l, hl⟩
  exact hword l (hl.unique hv)

end Slot

/-! ## Objects -/

/-- Settings and scenarios are read from every object that gives their fields at most once and with values
of their types, as what is given and else what is standard. Every object that gives a field twice, or with
a value of another type, is a problem. The order of the fields makes no difference, nor does what else the
object has. -/
theorem reads_partial_objects {text : String} {entries : List (String × Node)}
    (h : Json.IsObject text entries) :
    ReadsPartial Settings.slots .standard (Settings.parse .json) text entries ∧
      ReadsPartial Scenario.slots .standard (Json.read Scenario.read) text entries := by
  constructor
  · have hsettings := Json.readsPartial (Settings.serves (by decide)) h
    exact hsettings.mapError Failure.json
  · exact Json.readsPartial (Scenario.serves (Json.depthLimit - 1)) h

/-- A lamp comes first and a warm-up last, with a nested list of no meaning between them. A threshold comes
alone, with a fraction. A lamp that does not exist, a warm-up that is too long, a null and a seed that comes
twice are problems. -/
theorem reads_partial_objects_samples :
    let fields := [("indicator", .text "chest_button"), ("zone", .list [.list []]),
      ("near_field_threshold_mm", .natural 250), ("walk_phase_frames", .natural 90)]
    (Settings.parse .json (Json.text (.record fields)) = .ok ⟨90, 250, 30, .chestButton⟩ ∧
      FilledBy Settings.slots (fields.map fun f => (f.1, Json.nodeOf f.2)) .standard
        ⟨90, 250, 30, .chestButton⟩) ∧
    (Settings.parse .json (Json.text (.record [("near_field_threshold_mm", .single 350.5)])) =
        .ok ⟨60, 350.5, 30, .leftEye⟩ ∧
      FilledBy Settings.slots [("near_field_threshold_mm", Json.nodeOf (.single 350.5))] .standard
        ⟨60, 350.5, 30, .leftEye⟩) ∧
    (∃ e, Settings.parse .json (Json.text (.record [("indicator", .text "left_ear")])) = .error e) ∧
    (∃ e, Settings.parse .json (Json.text (.record [("walk_phase_frames", .natural 4294967296)])) =
      .error e) ∧
    (∃ p, Json.read Scenario.read (Json.text (.record [("zone", .unit), ("dropout", .unit)])) = .error p) ∧
    ∃ p, Json.read Scenario.read (Json.text (.record [("seed", .natural 1), ("zone", .unit),
      ("seed", .natural 2)])) = .error p := by
  intro fields
  have hobject (fields : List (String × Datum)) (hnamed : ∀ f ∈ fields, Json.Named f.2) :=
    reads_partial_objects (Json.isObject_text hnamed)
  refine ⟨?_, ?_, ?_, ?_, ?_, ?_⟩
  · have hnamed : ∀ f ∈ fields, Json.Named f.2 := by
      simp [fields, Json.Named, Json.ItemsNamed]
    have hfits : Fits Settings.slots (fields.map fun f => (f.1, Json.nodeOf f.2)) := by
      constructor
      · decide
      · have hlamp := Json.chooses_nodeOf "chest_button"
        have hnear : (Json.nodeOf (.natural 250)).IsReal (Binary.ofNat 250 : Single) :=
          Json.isReal_nodeOf (by decide)
        have hwalk := Json.isWhole_nodeOf 90
        simpa [Settings.slots, fields, Slot.whole, Slot.real, Slot.lamp] using
          ⟨⟨(90 : UInt32), hwalk⟩, ⟨(Binary.ofNat 250 : Single), hnear⟩, Lamp.chestButton, hlamp⟩
    obtain ⟨s, hread, hfilled⟩ := (hobject fields hnamed).1.filled hfits
    have hparse : Settings.parse .json (Json.text (.record fields)) = .ok ⟨90, 250, 30, .chestButton⟩ := by
      decide +kernel
    obtain rfl := Except.ok.inj (hread.symm.trans hparse)
    exact ⟨hparse, (hfilled _).2 rfl⟩
  · have hfits : Fits Settings.slots [("near_field_threshold_mm", Json.nodeOf (.single 350.5))] := by
      constructor
      · decide
      · have hnode : Json.nodeOf (.single 350.5) =
            .number ⟨false, ['3', '5', '0'], ['5'], none, none⟩ := by
          have hwrite : Json.singleLayout.write (350.5 : Single) = "350.5" := by decide +kernel
          rw [Json.nodeOf, if_pos (by decide +kernel), hwrite]
          simp only [String.reduceToList]
          rfl
        have hnear : (Json.nodeOf (.single 350.5)).IsReal
            (((.ofNat 3505 / .ofNat 10 : Double)).convert : Single) := by
          rw [hnode]
          exact Json.isReal_fraction false (by decide) (by decide) (by decide)
        have hconvert : ((.ofNat 3505 / .ofNat 10 : Double)).convert = (350.5 : Single) := by
          decide +kernel
        rw [hconvert] at hnear
        simpa [Settings.slots, Slot.whole, Slot.real, Slot.lamp] using ⟨(350.5 : Single), hnear⟩
    obtain ⟨s, hread, hfilled⟩ := (hobject [("near_field_threshold_mm", .single 350.5)]
      (by simp [Json.Named])).1.filled hfits
    have hparse : Settings.parse .json (Json.text (.record [("near_field_threshold_mm", .single 350.5)])) =
        .ok ⟨60, 350.5, 30, .leftEye⟩ := by
      decide +kernel
    obtain rfl := Except.ok.inj (hread.symm.trans hparse)
    exact ⟨hparse, (hfilled _).2 rfl⟩
  · refine (hobject _ (by simp [Json.Named])).1.wrong (.lamp "indicator" Settings.lamp)
      (by simp [Settings.slots]) _ List.mem_cons_self ?_
    exact Slot.not_is_lamp (Json.chooses_nodeOf "left_ear") fun l => by cases l <;> decide
  · refine (hobject _ (by simp [Json.Named])).1.wrong
      (.whole "walk_phase_frames" UInt32.toNat Settings.walkFrames) (by simp [Settings.slots]) _
      List.mem_cons_self ?_
    exact Slot.not_is_whole (Json.isWhole_nodeOf 4294967296) UInt32.toNat_lt
  · refine (hobject _ (by simp [Json.Named])).2.wrong (.real "dropout" Scenario.dropout)
      (by simp [Scenario.slots]) .null (List.mem_cons_of_mem _ List.mem_cons_self) ?_
    exact Scenario.not_is_null _ (by simp [Scenario.slots])
  · refine (hobject _ (by simp [Json.Named])).2.twice (.whole "seed" UInt64.toNat Scenario.seed)
      (by simp [Scenario.slots]) (Json.nodeOf (.natural 1)) (Json.nodeOf (.natural 2)) ?_
    exact .cons_cons _ (.cons _ (.refl _))

end Striker
