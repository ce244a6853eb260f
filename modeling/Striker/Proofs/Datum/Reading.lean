/-
Reading from any source. A reader that follows no repetition comes to a value or to a problem whatever is
left to repeat. A record is filled one entry at a time: an entry whose key names a field that is not there
yet puts its value into the record and leaves the other fields as they are.
-/
import Striker.Datum.Record
import Striker.Indicator

namespace Striker

/-! ## Outcomes -/

namespace Reading

variable {α : Type} {r : Reading α}

/-- A reader that comes to the same end however many repetitions are left, and uses none. -/
def Settled (r : Reading α) : Prop := (∃ a, r = pure a) ∨ ∃ p, r = throw p

/-- A settled reader that once gave a value always gives it. -/
theorem Settled.eq_pure (h : Settled r) {repetitions : Nat} {a : α}
    (hr : r.outcome repetitions = .ok a) : r = pure a := by
  rcases h with ⟨b, rfl⟩ | ⟨p, rfl⟩
  · cases hr
    rfl
  · cases hr

@[simp] theorem locate_pure (place : Place) (a : α) :
    locate place (pure a : Reading α) = pure a := rfl

end Reading

theorem Datum.settled_real {f : Format} (expected : String) (d : Datum) :
    Reading.Settled (Datum.real expected d : Reading (Binary f)) := by
  unfold Datum.real
  split
  · exact .inl ⟨_, rfl⟩
  · exact .inr ⟨_, rfl⟩

/-! ## Lamps -/

theorem Lamp.variant_name (l : Lamp) :
    Datum.variant (Lamp.all.map fun l => (l.name, l)) l.name = pure l := by
  cases l <;> rfl

/-- No other word names a lamp. -/
theorem Lamp.variant_problem {word : String} (h : ∀ l : Lamp, l.name ≠ word) :
    ∃ p, Datum.variant (Lamp.all.map fun l => (l.name, l)) word = throw p := by
  have hnone : (Lamp.all.map fun l => (l.name, l)).find? (·.1 == word) = none := by
    simp [Lamp.all, h]
  exact ⟨_, by rw [Datum.variant, hnone]⟩

/-! ## Records -/

namespace Record

variable {σ α β : Type} [Source σ]

/-- Whether a part is read as this name where a field is named. -/
def Names (part : σ) (name : String) : Prop := ∀ {β : Type} (choose : Label → β),
  Source.label "field identifier" (fun l => pure (choose l)) part = pure (choose (.name name))

theorem names_text {name : String} : Names (Datum.text name) name := fun _ => rfl

variable {r : Record σ α} {key value : σ} {name : String} {f : Field σ α} {seen : List String} {a b : α}

theorem fill_cons (hkey : Names key name) (hfield : r.field? (.name name) = some f)
    (hseen : f.name ∉ seen) (hput : f.put value a = pure b) (rest : List (σ × σ)) :
    r.fill ((key, value) :: rest) seen a = r.fill rest (f.name :: seen) b := by
  rw [fill, hkey, pure_bind, hfield]
  dsimp only
  rw [if_neg hseen, hput, pure_bind]

omit [Source σ] in
theorem put_of {read : σ → Reading β} {set : β → α → α} {required : Bool} {x : β}
    (h : read value = pure x) : (Field.of name required read set).put value a = pure (set x a) := by
  show (read value >>= fun x => pure (set x a)) = _
  rw [h, pure_bind]

/-- An entry that is read as the value of a field. -/
theorem fill_of {read : σ → Reading β} {set : β → α → α} {required : Bool} {x : β}
    (hkey : Names key name) (hfield : r.field? (.name name) = some (.of name required read set))
    (hseen : name ∉ seen) (h : read value = pure x) (rest : List (σ × σ)) :
    r.fill ((key, value) :: rest) seen a = r.fill rest (name :: seen) (set x a) :=
  fill_cons hkey hfield hseen (put_of h) rest

end Record

end Striker
