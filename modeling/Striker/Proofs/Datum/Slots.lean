/-
Records filled from entries in any order. A record has a slot for each of its fields: a name, the values
that belong there, and what the record has there. Entries fit when no slot is given twice and each is given
a value that belongs there. From entries that fit comes a record that has what was given in the slots that
were given, and in the others what it had before; from entries that do not fit comes none. Entries without
a slot are read over.
-/
import Mathlib.Data.List.Forall2
import Mathlib.Data.List.Nodup
import Striker.Proofs.Datum.Reading

namespace Striker

/-- A place of a record that an entry can fill. -/
structure Slot (ν α : Type) where
  name : String
  Value : Type
  /-- Which value of the slot an entry gives. -/
  Is : ν → Value → Prop
  /-- What a record has in the slot. -/
  get : α → Value

section

variable {ν α : Type} (slots : List (Slot ν α)) (entries : List (String × ν))

/-- The entries for which there is a slot. -/
def known : List (String × ν) := entries.filter fun e => e.1 ∈ slots.map Slot.name

/-- Entries that give no slot twice, and every slot only values that belong there. -/
structure Fits : Prop where
  distinct : ((known slots entries).map Prod.fst).Nodup
  typed : ∀ s ∈ slots, ∀ v, (s.name, v) ∈ entries → ∃ x, s.Is v x

/-- Two records, the second of which has in every slot what the entries give, or else what the first has
there. -/
structure FilledBy (before after : α) : Prop where
  given : ∀ s ∈ slots, ∀ v, (s.name, v) ∈ entries → s.Is v (s.get after)
  kept : ∀ s ∈ slots, s.name ∉ entries.map Prod.fst → s.get after = s.get before

end

variable {ν α β σ : Type} {slots : List (Slot ν α)} {s : Slot ν α} {entries rest : List (String × ν)}
  {name : String} {v : ν} {seen : List String} {a b c : α}

/-! ## Entries -/

theorem mem_known (hs : s ∈ slots) : (s.name, v) ∈ known slots entries ↔ (s.name, v) ∈ entries := by
  have hname : s.name ∈ slots.map Slot.name := List.mem_map_of_mem hs
  exact List.mem_filter.trans (and_iff_left (decide_eq_true hname))

theorem known_cons_of_mem (hs : s ∈ slots) (v : ν) (rest : List (String × ν)) :
    known slots ((s.name, v) :: rest) = (s.name, v) :: known slots rest :=
  List.filter_cons_of_pos (decide_eq_true (List.mem_map_of_mem hs))

theorem known_cons_of_not_mem (hname : name ∉ slots.map Slot.name) (v : ν) (rest : List (String × ν)) :
    known slots ((name, v) :: rest) = known slots rest :=
  List.filter_cons_of_neg (by simpa using hname)

theorem Slot.eq_of_name_eq (hdistinct : (slots.map Slot.name).Nodup) (hs : s ∈ slots) {t : Slot ν α}
    (ht : t ∈ slots) (h : t.name = s.name) : t = s := List.inj_on_of_nodup_map hdistinct ht hs h

theorem Fits.not_twice (h : Fits slots entries) (hs : s ∈ slots) {v w : ν} :
    ¬ [(s.name, v), (s.name, w)].Sublist entries := by
  intro htwice
  have hpair : known slots [(s.name, v), (s.name, w)] = [(s.name, v), (s.name, w)] := by
    rw [known_cons_of_mem hs, known_cons_of_mem hs]
    rfl
  have hknown : (known slots [(s.name, v), (s.name, w)]).Sublist (known slots entries) := htwice.filter _
  rw [hpair] at hknown
  exact (List.nodup_cons.1 ((hknown.map Prod.fst).nodup h.distinct)).1 List.mem_cons_self

/-- Whether entries fit depends on those alone for which there is a slot, and not on their order. -/
theorem Fits.perm (h : Fits slots entries) (hperm : (known slots entries).Perm (known slots rest)) :
    Fits slots rest where
  distinct := (hperm.map Prod.fst).nodup_iff.1 h.distinct
  typed s hs v hv := h.typed s hs v ((mem_known hs).1 (hperm.mem_iff.2 ((mem_known hs).2 hv)))

theorem FilledBy.perm (h : FilledBy slots entries a b)
    (hperm : (known slots entries).Perm (known slots rest)) : FilledBy slots rest a b := by
  have hmem : ∀ s ∈ slots, ∀ v, (s.name, v) ∈ rest ↔ (s.name, v) ∈ entries := by
    intro s hs v
    exact (mem_known hs).symm.trans (hperm.mem_iff.symm.trans (mem_known hs))
  constructor
  · intro s hs v hv
    exact h.given s hs v ((hmem s hs v).1 hv)
  · intro s hs hname
    refine h.kept s hs fun hgiven => hname ?_
    obtain ⟨⟨_, v⟩, hv, rfl⟩ := List.mem_map.1 hgiven
    exact List.mem_map.2 ⟨_, (hmem s hs v).2 hv, rfl⟩

theorem FilledBy.refl (slots : List (Slot ν α)) (a : α) : FilledBy slots [] a a where
  given _ _ _ hv := nomatch hv
  kept _ _ _ := rfl

theorem FilledBy.cons (hdistinct : (slots.map Slot.name).Nodup) (hs : s ∈ slots) (hv : s.Is v (s.get b))
    (hother : ∀ t ∈ slots, t.name ≠ s.name → t.get b = t.get a) (hlater : s.name ∉ rest.map Prod.fst)
    (h : FilledBy slots rest b c) : FilledBy slots ((s.name, v) :: rest) a c := by
  constructor
  · intro t ht w hw
    rcases List.mem_cons.1 hw with heq | hw
    · obtain ⟨hname, rfl⟩ := Prod.mk.inj heq
      obtain rfl := Slot.eq_of_name_eq hdistinct hs ht hname
      rwa [h.kept t ht hlater]
    · exact h.given t ht w hw
  · intro t ht hname
    rw [List.map_cons, List.mem_cons, not_or] at hname
    rw [h.kept t ht hname.2, hother t ht hname.1]

theorem FilledBy.cons_of_not_mem (hname : name ∉ slots.map Slot.name) (h : FilledBy slots rest a b) :
    FilledBy slots ((name, v) :: rest) a b := by
  have hne : ∀ s ∈ slots, s.name ≠ name := by
    rintro s hs rfl
    exact hname (List.mem_map_of_mem hs)
  constructor
  · intro s hs w hw
    rcases List.mem_cons.1 hw with heq | hw
    · exact absurd (congrArg Prod.fst heq) (hne s hs)
    · exact h.given s hs w hw
  · intro s hs hgiven
    exact h.kept s hs fun hrest => hgiven (List.mem_cons_of_mem _ hrest)

/-! ## Entries behind others -/

/-- Entries that fit behind others, whose names have been seen. -/
structure FitsAfter (slots : List (Slot ν α)) (entries : List (String × ν)) (seen : List String) : Prop
    extends Fits slots entries where
  fresh : ∀ e ∈ known slots entries, e.1 ∉ seen

theorem fitsAfter_nil : FitsAfter slots entries [] ↔ Fits slots entries :=
  ⟨FitsAfter.toFits, fun h => ⟨h, fun _ _ => List.not_mem_nil⟩⟩

theorem FitsAfter.empty (slots : List (Slot ν α)) (seen : List String) : FitsAfter slots [] seen where
  distinct := List.nodup_nil
  typed _ _ _ hv := nomatch hv
  fresh _ he := nomatch he

theorem FitsAfter.not_mem (h : FitsAfter slots rest (s.name :: seen)) (hs : s ∈ slots) :
    s.name ∉ rest.map Prod.fst := by
  intro hgiven
  obtain ⟨⟨_, v⟩, hv, rfl⟩ := List.mem_map.1 hgiven
  exact h.fresh _ ((mem_known hs).2 hv) List.mem_cons_self

theorem fitsAfter_cons (hdistinct : (slots.map Slot.name).Nodup) (hs : s ∈ slots) :
    FitsAfter slots ((s.name, v) :: rest) seen ↔
      s.name ∉ seen ∧ (∃ x, s.Is v x) ∧ FitsAfter slots rest (s.name :: seen) := by
  have hknown := known_cons_of_mem hs v rest
  constructor
  · intro h
    have hfresh := h.fresh
    have hnodup := h.distinct
    rw [hknown] at hfresh hnodup
    obtain ⟨hnew, hnodup⟩ := List.nodup_cons.1 hnodup
    obtain ⟨hfirst, hlater⟩ := List.forall_mem_cons.1 hfresh
    refine ⟨hfirst, h.typed s hs v List.mem_cons_self, ⟨hnodup, ?_⟩, ?_⟩
    · intro t ht w hw
      exact h.typed t ht w (List.mem_cons_of_mem _ hw)
    · intro e he hseen
      rcases List.mem_cons.1 hseen with hname | hseen
      · exact hnew (List.mem_map.2 ⟨e, he, hname⟩)
      · exact hlater e he hseen
  · rintro ⟨hfirst, hvalue, h⟩
    have hnew : s.name ∉ (known slots rest).map Prod.fst := fun hgiven => by
      obtain ⟨e, he, hname⟩ := List.mem_map.1 hgiven
      exact h.fresh e he (hname ▸ List.mem_cons_self)
    refine ⟨⟨?_, ?_⟩, ?_⟩
    · rw [hknown]
      exact List.nodup_cons.2 ⟨hnew, h.distinct⟩
    · intro t ht w hw
      rcases List.mem_cons.1 hw with heq | hw
      · obtain ⟨hname, rfl⟩ := Prod.mk.inj heq
        obtain rfl := Slot.eq_of_name_eq hdistinct hs ht hname
        exact hvalue
      · exact h.typed t ht w hw
    · rw [hknown]
      refine List.forall_mem_cons.2 ⟨hfirst, fun e he hseen => ?_⟩
      exact h.fresh e he (List.mem_cons_of_mem _ hseen)

theorem fitsAfter_cons_of_not_mem (hname : name ∉ slots.map Slot.name) :
    FitsAfter slots ((name, v) :: rest) seen ↔ FitsAfter slots rest seen := by
  have hknown := known_cons_of_not_mem hname v rest
  constructor
  · intro h
    refine ⟨⟨hknown ▸ h.distinct, fun s hs w hw => ?_⟩, hknown ▸ h.fresh⟩
    exact h.typed s hs w (List.mem_cons_of_mem _ hw)
  · intro h
    refine ⟨⟨hknown ▸ h.distinct, fun s hs w hw => ?_⟩, hknown ▸ h.fresh⟩
    rcases List.mem_cons.1 hw with heq | hw
    · obtain ⟨rfl, -⟩ := Prod.mk.inj heq
      exact absurd (List.mem_map_of_mem hs) hname
    · exact h.typed s hs w hw

/-! ## Fields -/

/-- A reader that gives the values of the parts that have one, and a problem for all others. -/
structure Reads (part : ν → σ) (read : σ → Reading β) (Is : ν → β → Prop) : Prop where
  value : ∀ {v x}, Is v x → read (part v) = pure x
  problem : ∀ {v}, (¬ ∃ x, Is v x) → ∃ p, read (part v) = throw p

theorem Reads.map {part : ν → σ} {read : σ → Reading β} {Is : ν → β → Prop} (h : Reads part read Is)
    {γ : Type} {Is' : ν → γ → Prop} (f : β → γ) (hiff : ∀ v y, Is' v y ↔ ∃ x, Is v x ∧ f x = y) :
    Reads part (fun p => f <$> read p) Is' where
  value {v y} hy := by
    obtain ⟨x, hx, rfl⟩ := (hiff v y).1 hy
    rw [h.value hx, map_pure]
  problem {v} hv := by
    obtain ⟨p, hp⟩ := h.problem fun ⟨x, hx⟩ => hv ⟨f x, (hiff v _).2 ⟨x, hx, rfl⟩⟩
    refine ⟨p, ?_⟩
    rw [hp]
    rfl

/-- A field that takes the values of a slot and no others, and changes this slot alone. -/
structure Field.Serves (part : ν → σ) (slots : List (Slot ν α)) (f : Field σ α) (s : Slot ν α) : Prop where
  name : f.name = s.name
  optional : f.required = false
  put : ∀ {v x}, s.Is v x → ∀ a, ∃ b, f.put (part v) a = pure b ∧ s.get b = x ∧
    ∀ t ∈ slots, t.name ≠ s.name → t.get b = t.get a
  refuse : ∀ {v}, (¬ ∃ x, s.Is v x) → ∀ a, ∃ p, f.put (part v) a = throw p

variable {part : ν → σ} {fields : List (Field σ α)} {f : Field σ α}

theorem Field.Serves.of {read : σ → Reading β} {set : β → α → α} {Is : ν → β → Prop} {get : α → β}
    (hread : Reads part read Is) (hget : ∀ x a, get (set x a) = x)
    (hother : ∀ t ∈ slots, t.name ≠ name → ∀ x a, t.get (set x a) = t.get a) :
    (Field.of name false read set).Serves part slots ⟨name, β, Is, get⟩ where
  name := rfl
  optional := rfl
  put hx a := ⟨_, Record.put_of (hread.value hx), hget _ a, fun t ht hne => hother t ht hne _ a⟩
  refuse {v} hv a := by
    obtain ⟨p, hp⟩ := hread.problem hv
    refine ⟨p, ?_⟩
    show (read (part v) >>= fun x => pure (set x a)) = throw p
    rw [hp]
    rfl

theorem Reading.pure_inj (h : (pure a : Reading α) = pure b) : a = b :=
  congrArg Prod.fst (Except.ok.inj (congrFun h 0))

/-- A slot tells of each entry at most one value. -/
theorem Field.Serves.unique (h : f.Serves part slots s) {x y : s.Value} (hx : s.Is v x) (hy : s.Is v y)
    (a : α) : x = y := by
  obtain ⟨b, hb, hget, -⟩ := h.put hx a
  obtain ⟨c, hc, rfl, -⟩ := h.put hy a
  obtain rfl := Reading.pure_inj (hb.symm.trans hc)
  exact hget.symm

theorem Field.exists_find? {own : List (Slot ν α)} (h : List.Forall₂ (Field.Serves part slots) fields own)
    (hdistinct : (own.map Slot.name).Nodup) (hs : s ∈ own) :
    ∃ f, fields.find? (·.name == s.name) = some f ∧ f.Serves part slots s := by
  induction h with
  | nil => cases hs
  | @cons f t _ _ hf _ ih =>
    rw [List.map_cons, List.nodup_cons] at hdistinct
    rcases List.mem_cons.1 hs with rfl | hs
    · exact ⟨f, List.find?_cons_of_pos (beq_iff_eq.2 hf.name), hf⟩
    · have hne : t.name ≠ s.name := fun heq => hdistinct.1 (heq ▸ List.mem_map_of_mem hs)
      obtain ⟨g, hg, hserves⟩ := ih hdistinct.2 hs
      refine ⟨g, ?_, hserves⟩
      rw [List.find?_cons_of_neg (by simp [hf.name, hne]), hg]

theorem Field.find?_eq_none {own : List (Slot ν α)} (h : List.Forall₂ (Field.Serves part slots) fields own)
    (hname : name ∉ own.map Slot.name) : fields.find? (·.name == name) = none := by
  induction h with
  | nil => rfl
  | cons hf _ ih =>
    rw [List.map_cons, List.mem_cons, not_or] at hname
    rw [List.find?_cons_of_neg (by simp [hf.name, Ne.symm hname.1]), ih hname.2]

theorem Field.required_eq_false {own : List (Slot ν α)} (h : List.Forall₂ (Field.Serves part slots) fields own) :
    ∀ f ∈ fields, f.required = false := by
  induction h with
  | nil => exact List.forall_mem_nil _
  | cons hf _ ih => exact List.forall_mem_cons.2 ⟨hf.optional, ih⟩

/-! ## Records -/

namespace Record

variable [Source σ] {r : Record σ α} {key value : σ} {p : Problem}

/-- A record whose fields serve the slots one by one. -/
structure Serves (part : ν → σ) (r : Record σ α) (slots : List (Slot ν α)) : Prop where
  fields : List.Forall₂ (Field.Serves part slots) r.fields slots
  distinct : (slots.map Slot.name).Nodup
  /-- A record is what it has in its slots. -/
  complete : ∀ {a b : α}, (∀ s ∈ slots, s.get a = s.get b) → a = b

/-- An entry as it stands in a source. -/
structure Gives (part : ν → σ) (p : σ × σ) (e : String × ν) : Prop where
  names : Names p.1 e.1
  value : p.2 = part e.2
  skip : Source.skip p.2 = pure ()

theorem fill_unknown (hkey : Names key name) (hfield : r.field? (.name name) = none)
    (hskip : Source.skip value = pure ()) (rest : List (σ × σ)) :
    r.fill ((key, value) :: rest) seen a = r.fill rest seen a := by
  rw [fill, hkey, pure_bind, hfield]
  dsimp only
  rw [hskip, pure_bind]

theorem fill_duplicate (hkey : Names key name) (hfield : r.field? (.name name) = some f)
    (hseen : f.name ∈ seen) (rest : List (σ × σ)) :
    r.fill ((key, value) :: rest) seen a = throw (.of (.duplicate f.name)) := by
  rw [fill, hkey, pure_bind, hfield]
  dsimp only
  rw [if_pos hseen]

theorem fill_refused (hkey : Names key name) (hfield : r.field? (.name name) = some f)
    (hseen : f.name ∉ seen) (hput : f.put value a = throw p) (rest : List (σ × σ)) :
    r.fill ((key, value) :: rest) seen a = throw p := by
  rw [fill, hkey, pure_bind, hfield]
  dsimp only
  rw [if_neg hseen, hput]
  rfl

/-- Entries that fit behind those that were seen fill a record, and others are a problem. -/
theorem Serves.fill_cases (h : r.Serves part slots) {parts : List (σ × σ)}
    (hparts : List.Forall₂ (Gives part) parts entries) (seen : List String) (a : α) :
    (FitsAfter slots entries seen ∧
      ∃ after b, r.fill parts seen a = pure (after, b) ∧ FilledBy slots entries a b) ∨
    (¬ FitsAfter slots entries seen ∧ ∃ p, r.fill parts seen a = throw p) := by
  -- along the entries; what was seen and filled so far is carried on
  induction hparts generalizing seen a with
  | nil => exact .inl ⟨.empty slots seen, seen, a, rfl, .refl slots a⟩
  | @cons part' entry parts entries hentry _ ih =>
    obtain ⟨key, value⟩ := part'
    obtain ⟨name, v⟩ := entry
    obtain ⟨hkey, rfl, hskip⟩ := hentry
    by_cases hname : name ∈ slots.map Slot.name
    · obtain ⟨s, hs, rfl⟩ := List.mem_map.1 hname
      obtain ⟨f, hfield, hf⟩ := Field.exists_find? h.fields h.distinct hs
      rw [fitsAfter_cons h.distinct hs, ← hf.name]
      by_cases hseen : f.name ∈ seen
      · exact .inr ⟨fun hfits => hfits.1 hseen, _, fill_duplicate hkey hfield hseen parts⟩
      by_cases hvalue : ∃ x, s.Is v x
      · -- from here on the slot counts as seen, so no later entry gives it
        obtain ⟨x, hx⟩ := hvalue
        obtain ⟨b, hput, rfl, hother⟩ := hf.put hx a
        rw [fill_cons hkey hfield hseen hput]
        rcases ih (f.name :: seen) b with ⟨hfits, after, c, hfill, hfilled⟩ | ⟨hfits, hproblem⟩
        · rw [hf.name] at hfits
          refine .inl ⟨⟨hseen, ⟨_, hx⟩, hf.name ▸ hfits⟩, after, c, hfill, ?_⟩
          rw [hf.name]
          exact .cons h.distinct hs hx hother (hfits.not_mem hs) hfilled
        · exact .inr ⟨fun hall => hfits hall.2.2, hproblem⟩
      · obtain ⟨p, hput⟩ := hf.refuse hvalue a
        exact .inr ⟨fun hfits => hvalue hfits.2.1, p, fill_refused hkey hfield hseen hput parts⟩
    · rw [fitsAfter_cons_of_not_mem hname, fill_unknown hkey (Field.find?_eq_none h.fields hname) hskip]
      rcases ih seen a with ⟨hfits, after, b, hfill, hfilled⟩ | hproblem
      · exact .inl ⟨hfits, after, b, hfill, hfilled.cons_of_not_mem hname⟩
      · exact .inr hproblem

/-- A record comes from entries that fit, and from no others. -/
theorem Serves.ofEntries_cases (h : r.Serves part slots) {parts : List (σ × σ)}
    (hparts : List.Forall₂ (Gives part) parts entries) :
    (Fits slots entries ∧ ∃ a, r.ofEntries parts none = pure a ∧ FilledBy slots entries r.start a) ∨
    (¬ Fits slots entries ∧ ∃ p, r.ofEntries parts none = throw p) := by
  rw [← fitsAfter_nil]
  unfold ofEntries
  rcases h.fill_cases hparts [] r.start with ⟨hfits, after, a, hfill, hfilled⟩ | ⟨hfits, p, hfill⟩
  · have hpresent : (r.fields.find? fun f => f.required && !after.contains f.name) = none := by
      rw [List.find?_eq_none]
      intro f hf
      simp [Field.required_eq_false h.fields f hf]
    refine .inl ⟨hfits, a, ?_, hfilled⟩
    rw [hfill, pure_bind]
    dsimp only
    rw [hpresent]
    rfl
  · refine .inr ⟨hfits, p, ?_⟩
    rw [hfill]
    rfl

omit [Source σ] in
theorem Serves.unique (h : r.Serves part slots) (hb : FilledBy slots entries a b)
    (hc : FilledBy slots entries a c) : b = c := by
  refine h.complete fun s hs => ?_
  by_cases hname : s.name ∈ entries.map Prod.fst
  · obtain ⟨⟨_, v⟩, hv, rfl⟩ := List.mem_map.1 hname
    obtain ⟨f, -, hf⟩ := Field.exists_find? h.fields h.distinct hs
    exact hf.unique (hb.given s hs v hv) (hc.given s hs v hv) a
  · rw [hb.kept s hs hname, hc.kept s hs hname]

end Record

end Striker
