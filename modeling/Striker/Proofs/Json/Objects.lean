/-
JSON objects as records. An object is spelled with its members in some order; each has a name for its key,
and any value. A reader of a record finds in it the entries that it has slots for, whatever else there is,
and comes to a record if they fit and to a problem if they do not.
-/
import Striker.Proofs.Datum.Slots
import Striker.Proofs.Json.Reading

namespace Striker.Json

/-! ## Values -/

namespace Node

/-- A whole number: it is spelled with digits alone. -/
def IsWhole (v : Node) (n : Nat) : Prop :=
  ∃ digits, v = .number ⟨false, digits, [], none, none⟩ ∧ Nat.ofDigitChars 10 digits 0 = n

/-- A number that is rounded to this one. A number beyond the largest of 64 bits is rounded to none. -/
def IsReal {f : Format} (v : Node) (x : Binary f) : Prop :=
  ∃ n d, v = .number n ∧ n.value = .ok d ∧ d.real? = some x

/-- A name where there is a choice: a string, or an object of one member whose value is null. -/
def Chooses (v : Node) (name : String) : Prop :=
  ∃ s : StringText, s.value = .ok name ∧
    (v = .string s ∨ v = .object (.member (.string s) .null (.close none)))

end Node

theorem isWhole_nodeOf (n : Nat) : (nodeOf (.natural n)).IsWhole n :=
  ⟨Nat.toDigits 10 n, rfl, Nat.ofDigitChars_ten_toDigits⟩

theorem chooses_nodeOf (s : String) : (nodeOf (.text s)).Chooses s :=
  ⟨stringText s, value_stringText s, .inl rfl⟩

theorem Node.IsWhole.unique {v : Node} {n m : Nat} (hn : v.IsWhole n) (hm : v.IsWhole m) : n = m := by
  obtain ⟨digits, rfl, rfl⟩ := hn
  obtain ⟨_, heq, rfl⟩ := hm
  cases heq
  rfl

theorem Node.Chooses.unique {v : Node} {a b : String} (ha : v.Chooses a) (hb : v.Chooses b) : a = b := by
  obtain ⟨s, hs, rfl | rfl⟩ := ha
  · obtain ⟨t, ht, heq | heq⟩ := hb <;> cases heq
    exact Except.ok.inj (hs.symm.trans ht)
  · obtain ⟨t, ht, heq | heq⟩ := hb <;> cases heq
    exact Except.ok.inj (hs.symm.trans ht)

theorem ofDigitChars_of_takeDigits {cs : List Char} {n m : Nat} (h : takeDigits n cs = (m, [])) :
    Nat.ofDigitChars 10 cs n = m := by
  induction cs generalizing n with
  | nil => exact congrArg Prod.fst h
  | cons c cs ih =>
    unfold takeDigits at h
    dsimp only at h
    split at h
    · rw [Nat.ofDigitChars_cons, Nat.mul_comm 10 n]
      exact ih h
    · cases congrArg Prod.snd h

theorem isReal_nodeOf {f : Format} {n : Nat} (h : n < UInt64.size) :
    (nodeOf (.natural n)).IsReal (Binary.ofNat n : Binary f) :=
  ⟨wholeText false n, .natural n, rfl, value_wholeText h, rfl⟩

/-- A number with a fraction is rounded twice: when all of its digits, as one whole number, are divided by a
power of ten, and then to the format that is asked for. -/
theorem isReal_fraction {f : Format} (negative : Bool) {whole fraction : List Char}
    (hne : fraction ≠ []) (hplaces : fraction.length ≤ 308)
    (hfits : Nat.ofDigitChars 10 (whole ++ fraction) 0 < UInt64.size) :
    let x : Double := .ofNat (Nat.ofDigitChars 10 (whole ++ fraction) 0) / .ofNat (Nat.pow 10 fraction.length)
    (Node.number ⟨negative, whole, fraction, none, none⟩).IsReal
      ((if negative then -x else x).convert : Binary f) :=
  ⟨_, _, rfl, value_fraction negative hne hplaces hfits, rfl⟩

/-- The value of a number is natural only if the number is spelled with digits alone. Otherwise it is
negative, or no integer. -/
theorem value_cases {n : NumberText} {d : Datum} (h : n.value = .ok d) :
    (∃ k, d = .natural k ∧ (Node.number n).IsWhole k) ∨ (∃ i : Int, i < 0 ∧ d = .integer i) ∨
      ∃ x, d = .double x := by
  obtain ⟨negative, digits, fraction, exponent, fault⟩ := n
  unfold NumberText.value at h
  dsimp only at h
  split at h
  · cases h
  split at h
  · next hwhole =>
    obtain ⟨hdigits, hleft, hpositive⟩ := hwhole
    simp only [NumberText.isWhole, Bool.and_eq_true, List.isEmpty_iff, Option.isNone_iff_eq_none] at hdigits
    obtain ⟨rfl, rfl⟩ := hdigits
    obtain rfl : negative = false := by simpa using hpositive
    have htake : takeDigits 0 digits = ((takeDigits 0 digits).1, []) := by rw [← hleft]
    cases h
    exact .inl ⟨_, rfl, digits, rfl, ofDigitChars_of_takeDigits htake⟩
  split at h
  · next hsmall =>
    cases h
    exact .inr (.inl ⟨_, by omega, rfl⟩)
  · split at h <;> cases h
    exact .inr (.inr ⟨_, rfl⟩)

/-! ## Readers -/

namespace Cursor

variable {α : Type} (room : Nat)

theorem mismatch_problem (expected : String) (c : Cursor) :
    ∃ p, (c.mismatch expected : Reading α) = throw p := by
  obtain ⟨room, v⟩ := c
  cases v with
  | number n =>
    show ∃ p, (lift n.value >>= fun d => d.mismatch expected : Reading α) = throw p
    cases n.value <;> exact ⟨_, rfl⟩
  | string s =>
    show ∃ p, (lift s.value >>= fun s => throw (.of (.type (.text s) expected)) : Reading α) = throw p
    cases s.value <;> exact ⟨_, rfl⟩
  | _ => exact ⟨_, rfl⟩

/-- A number is read as what its value is read as, and nothing else is read as a number. -/
theorem reads_number {read : Datum → Reading α} {expected : String} {Is : Node → α → Prop}
    (hvalue : ∀ {v x}, Is v x → ∃ n d, v = .number n ∧ n.value = .ok d ∧ read d = pure x)
    (hproblem : ∀ {n d}, n.value = .ok d → (¬ ∃ x, Is (.number n) x) → ∃ p, read d = throw p) :
    Reads (mk room) (number read expected) Is where
  value h := by
    obtain ⟨n, d, rfl, hd, hread⟩ := hvalue h
    show (lift n.value >>= read) = _
    rw [hd]
    exact hread
  problem {v} h := by
    cases v with
    | number n =>
      show ∃ p, (lift n.value >>= read) = throw p
      cases hd : n.value with
      | error f => exact ⟨_, rfl⟩
      | ok d => exact hproblem hd h
    | _ =>
      unfold number
      exact mismatch_problem expected _

theorem reads_whole {bound : Nat} (hbound : bound ≤ UInt64.size) (expected : String) :
    Reads (mk room) (Source.whole bound expected) fun v n => v.IsWhole n ∧ n < bound := by
  refine reads_number room ?_ ?_
  · rintro _ _ ⟨⟨digits, rfl, rfl⟩, hlt⟩
    exact ⟨_, _, rfl, value_digits (Nat.lt_of_lt_of_le hlt hbound), if_pos hlt⟩
  · intro n d hd hnone
    rcases value_cases hd with ⟨k, rfl, hwhole⟩ | ⟨i, hneg, rfl⟩ | ⟨x, rfl⟩
    · have hlarge : ¬ k < bound := fun hlt => hnone ⟨k, hwhole, hlt⟩
      exact ⟨_, if_neg hlarge⟩
    · exact ⟨_, if_neg fun h => absurd h.1 (Int.not_le.2 hneg)⟩
    · exact ⟨_, rfl⟩

theorem reads_word32 : Reads (mk room) Source.word32 fun v (x : UInt32) => v.IsWhole x.toNat := by
  refine (reads_whole room (by decide) "u32").map UInt32.ofNat fun v x => ?_
  constructor
  · intro h
    exact ⟨_, ⟨h, x.toNat_lt⟩, UInt32.ofNat_toNat⟩
  · rintro ⟨n, ⟨h, hlt⟩, rfl⟩
    rwa [UInt32.toNat_ofNat_of_lt' hlt]

theorem reads_word64 : Reads (mk room) Source.word64 fun v (x : UInt64) => v.IsWhole x.toNat := by
  refine (reads_whole room (Nat.le_refl _) "u64").map UInt64.ofNat fun v x => ?_
  constructor
  · intro h
    exact ⟨_, ⟨h, x.toNat_lt⟩, UInt64.ofNat_toNat⟩
  · rintro ⟨n, ⟨h, hlt⟩, rfl⟩
    rwa [UInt64.toNat_ofNat_of_lt' hlt]

theorem reads_real {f : Format} (expected : String) :
    Reads (mk room) (number (Datum.real expected) expected) fun v (x : Binary f) => v.IsReal x := by
  refine reads_number room ?_ ?_
  · rintro _ x ⟨n, d, rfl, hd, hx⟩
    exact ⟨n, d, rfl, hd, by rw [Datum.real, hx]⟩
  · intro n d hd hnone
    have hx : d.real? = (none : Option (Binary f)) :=
      Option.eq_none_iff_forall_ne_some.2 fun x hx => hnone ⟨x, n, d, rfl, hd, hx⟩
    exact ⟨_, by rw [Datum.real, hx]; rfl⟩

theorem name_cases (expected : String) (v : Node) :
    (∃ s n, v = .string s ∧ s.value = .ok n ∧ name expected ⟨room, v⟩ = pure n) ∨
      ∃ p, name expected ⟨room, v⟩ = throw p := by
  cases v with
  | string s =>
    cases hs : s.value with
    | ok n => exact .inl ⟨s, n, rfl, hs, by simp only [name, hs, lift]⟩
    | error f => exact .inr ⟨_, by simp only [name, hs, lift]; rfl⟩
  | _ =>
    unfold name
    exact .inr (mismatch_problem expected _)

theorem null_cases (v : Node) : v = .null ∨ ∃ p, null ⟨room, v⟩ = throw p := by
  cases v with
  | null => exact .inl rfl
  | _ =>
    unfold null
    exact .inr (mismatch_problem "unit" _)

section Choice

variable {room : Nat} {choices : List (String × α)} {word : α → String}

theorem choice_value (hroom : 1 < room) (hnamed : ∀ a, Datum.variant choices (word a) = pure a) {v : Node}
    {a : α} (h : v.Chooses (word a)) : Source.choice choices (mk room v) = pure a := by
  obtain ⟨s, hs, rfl | rfl⟩ := h
  · rw [choice_string room hs, hnamed]
  · show choice choices _ = _
    unfold choice
    dsimp only
    rw [if_neg (Nat.not_le.2 hroom)]
    simp only [name, hs, lift, pure_bind, hnamed, null, closing]

/-- An object is no choice unless it has one member, which names one and has a null for its value. -/
theorem choice_object_problem (hroom : 1 < room) (hnamed : ∀ a, Datum.variant choices (word a) = pure a)
    (hother : ∀ s, (∀ a, word a ≠ s) → ∃ p, Datum.variant choices s = throw p) {table : Members}
    (h : ¬ ∃ a, (Node.object table).Chooses (word a)) :
    ∃ p, choice choices ⟨room, .object table⟩ = throw p := by
  unfold choice
  dsimp only
  rw [if_neg (Nat.not_le.2 hroom)]
  cases table with
  | close f => exact ⟨_, rfl⟩
  | member key value rest =>
    dsimp only
    rcases name_cases (room - 1) "variant identifier" key with ⟨s, n, rfl, hs, hname⟩ | ⟨p, hname⟩
    · rw [hname, pure_bind]
      by_cases hword : ∃ a, word a = n
      · obtain ⟨a, rfl⟩ := hword
        rw [hnamed, pure_bind]
        rcases null_cases (room - 1) value with rfl | ⟨p, hnull⟩
        · -- all is well with the member, so it is not the only one, or the object breaks off
          match rest with
          | .close none => exact absurd ⟨a, s, hs, .inr rfl⟩ h
          | .close (some f) => exact ⟨_, rfl⟩
          | .member _ _ _ => exact ⟨_, rfl⟩
        · rw [hnull]
          exact ⟨p, rfl⟩
      · obtain ⟨p, hp⟩ := hother n (not_exists.1 hword)
        rw [hp]
        exact ⟨p, rfl⟩
    · rw [hname]
      exact ⟨p, rfl⟩

theorem reads_choice (hroom : 1 < room) (hnamed : ∀ a, Datum.variant choices (word a) = pure a)
    (hother : ∀ s, (∀ a, word a ≠ s) → ∃ p, Datum.variant choices s = throw p) :
    Reads (mk room) (Source.choice choices) fun v a => v.Chooses (word a) where
  value h := choice_value hroom hnamed h
  problem {v} h := by
    show ∃ p, choice choices _ = throw p
    cases v with
    | string s =>
      show ∃ p, (lift s.value >>= Datum.variant choices) = throw p
      cases hs : s.value with
      | ok n => exact hother n fun a hword => h ⟨a, s, hword ▸ hs, .inl rfl⟩
      | error f => exact ⟨_, rfl⟩
    | object table => exact choice_object_problem hroom hnamed hother h
    | _ => exact ⟨_, rfl⟩

end Choice

end Cursor

/-! ## Objects -/

/-- Members with names for their keys, as entries in the same order. -/
inductive Holds : Members → List (String × Node) → Prop
  | close : Holds (.close none) []
  | member {key : StringText} {name : String} {value : Node} {rest : Members}
    {entries : List (String × Node)} : key.value = .ok name → Holds rest entries →
    Holds (.member (.string key) value rest) ((name, value) :: entries)

/-- A text that is an object with these entries, in this order. -/
def IsObject (text : String) (entries : List (String × Node)) : Prop :=
  ∃ before cs after members, text.toList = before ++ (cs ++ after) ∧ IsBlank before ∧ IsBlank after ∧
    Spells cs (.object members) ∧ Holds members entries

theorem holds_membersOf (fields : List (String × Datum)) :
    Holds (membersOf (fields.map fun f => (.text f.1, f.2))) (fields.map fun f => (f.1, nodeOf f.2)) := by
  induction fields with
  | nil => exact .close
  | cons f fields ih => exact .member (value_stringText f.1) ih

/-- The text of a record is an object with the fields of the record. -/
theorem isObject_text {fields : List (String × Datum)} (h : ∀ f ∈ fields, Named f.2) :
    IsObject (text (.record fields)) (fields.map fun f => (f.1, nodeOf f.2)) := by
  have hspells := spells_write (.record fields) ((named_record fields).2 h)
  refine ⟨[], _, [], _, ?_, isBlank_nil, isBlank_nil, hspells, holds_membersOf fields⟩
  simp [text]

variable {α : Type} {r : Record Cursor α} {slots : List (Slot Node α)} {entries : List (String × Node)}

/-- The entries of an object stand in it with their names, and can be read over. -/
theorem exists_members (room : Nat) {members : Members} (hholds : Holds members entries) {first : Bool}
    {cs : List Char} (h : SpellsMembers first cs members) : ∃ parts,
      Cursor.members room members = (parts, none) ∧
        List.Forall₂ (Record.Gives (Cursor.mk room)) parts entries := by
  induction hholds generalizing first cs with
  | close => exact ⟨[], rfl, .nil⟩
  | @member _ name value _ _ hkey _ ih =>
    cases h with
    | member _ _ _ _ hvalue hmore =>
      obtain ⟨parts, hparts, hgives⟩ := ih hmore
      have hentry : Record.Gives (Cursor.mk room) (⟨room, .string _⟩, ⟨room, value⟩) (name, value) :=
        ⟨Cursor.names_string room hkey, rfl, congrArg Cursor.lift hvalue.skip⟩
      refine ⟨_ :: parts, ?_, .cons hentry hgives⟩
      rw [Cursor.members, hparts]

theorem read_object {room : Nat} (hroom : 1 < room) (hr : r.Serves (Cursor.mk (room - 1)) slots)
    {members : Members} (hholds : Holds members entries) {cs : List Char}
    (h : Spells cs (.object members)) :
    (Fits slots entries ∧ ∃ a, r.read ⟨room, .object members⟩ = pure a ∧
      FilledBy slots entries r.start a) ∨
    (¬ Fits slots entries ∧ ∃ p, r.read ⟨room, .object members⟩ = throw p) := by
  -- one level has been opened for the object itself
  obtain ⟨parts, hparts, hgives⟩ : ∃ parts, Cursor.members (room - 1) members = (parts, none) ∧
      List.Forall₂ (Record.Gives (Cursor.mk (room - 1))) parts entries := by
    cases h with
    | object hmembers => exact exists_members (room - 1) hholds hmembers
  have hread : r.read ⟨room, .object members⟩ = r.ofEntries parts none :=
    Cursor.record_object hroom hparts r.title r.ofOpened
  rw [hread]
  exact hr.ofEntries_cases hgives

theorem read_text_object (hr : r.Serves (Cursor.mk (depthLimit - 1)) slots) {text : String}
    (h : IsObject text entries) :
    (Fits slots entries ∧ ∃ a, read r.read text = .ok a ∧ FilledBy slots entries r.start a) ∨
    (¬ Fits slots entries ∧ ∃ p, read r.read text = .error p) := by
  obtain ⟨before, cs, after, members, htext, hbefore, hafter, hspells, hholds⟩ := h
  rw [read_spells r.read htext hbefore hspells hafter]
  rcases read_object (by decide) hr hholds hspells with ⟨hfits, a, hread, hfilled⟩ | ⟨hfits, p, hread⟩
  · rw [hread]
    exact .inl ⟨hfits, a, rfl, hfilled⟩
  · rw [hread]
    exact .inr ⟨hfits, p, rfl⟩

/-- Where one object is read as a record, so is every other that gives the slots the same. -/
theorem read_perm (hr : r.Serves (Cursor.mk (depthLimit - 1)) slots) {text other : String}
    {more : List (String × Node)} (h : IsObject text entries) (hother : IsObject other more)
    (hperm : (known slots entries).Perm (known slots more)) {a : α} (hread : read r.read text = .ok a) :
    read r.read other = .ok a := by
  rcases read_text_object hr h with ⟨hfits, b, hb, hfilled⟩ | ⟨-, p, hp⟩
  · obtain rfl : b = a := Except.ok.inj (hb.symm.trans hread)
    rcases read_text_object hr hother with ⟨-, c, hc, hmore⟩ | ⟨hnot, -⟩
    · rw [hr.unique (hfilled.perm hperm) hmore, hc]
    · exact absurd (hfits.perm hperm) hnot
  · cases hp.symm.trans hread

/-- What a reader makes of an object that may leave out slots. If the object gives no slot twice and only
values that belong there, the outcome is the one that has what is given and else what there is at the
start. It is a problem, wherever it stands, if a slot is given twice, or a value that does not belong there.
Neither the order of the entries nor those without a slot make a difference. -/
structure ReadsPartial {ε : Type} (slots : List (Slot Node α)) (start : α) (read : String → Except ε α)
    (text : String) (entries : List (String × Node)) : Prop where
  filled : Fits slots entries → ∃ a, read text = .ok a ∧ ∀ b, FilledBy slots entries start b ↔ b = a
  twice : ∀ s ∈ slots, ∀ v w, [(s.name, v), (s.name, w)].Sublist entries → ∃ e, read text = .error e
  wrong : ∀ s ∈ slots, ∀ v, (s.name, v) ∈ entries → (¬ ∃ x, s.Is v x) → ∃ e, read text = .error e
  same : ∀ other more, IsObject other more → (known slots entries).Perm (known slots more) →
    ∀ a, read text = .ok a ↔ read other = .ok a

theorem readsPartial (hr : r.Serves (Cursor.mk (depthLimit - 1)) slots) {text : String}
    (h : IsObject text entries) : ReadsPartial slots r.start (read r.read) text entries := by
  have hcases := read_text_object hr h
  have hrefused (hnot : ¬ Fits slots entries) : ∃ p, read r.read text = .error p :=
    (hcases.resolve_left fun hfits => hnot hfits.1).2
  constructor
  · intro hfits
    obtain ⟨a, hread, hfilled⟩ := (hcases.resolve_right fun hnot => hnot.1 hfits).2
    exact ⟨a, hread, fun b => ⟨fun hb => hr.unique hb hfilled, fun hb => hb ▸ hfilled⟩⟩
  · intro s hs v w htwice
    exact hrefused fun hfits => hfits.not_twice hs htwice
  · intro s hs v hv hwrong
    exact hrefused fun hfits => hwrong (hfits.typed s hs v hv)
  · intro other more hother hperm a
    exact ⟨read_perm hr h hother hperm, read_perm hr hother h hperm.symm⟩

theorem mapError_eq_ok {ε ε' : Type} {f : ε → ε'} {x : Except ε α} {a : α} :
    x.mapError f = .ok a ↔ x = .ok a := by
  cases x <;> simp [Except.mapError]

theorem ReadsPartial.mapError {ε ε' : Type} {start : α} {read : String → Except ε α} {text : String}
    (h : ReadsPartial slots start read text entries) (f : ε → ε') :
    ReadsPartial slots start (fun text => (read text).mapError f) text entries where
  filled hfits := by
    obtain ⟨a, hread, hfilled⟩ := h.filled hfits
    exact ⟨a, mapError_eq_ok.2 hread, hfilled⟩
  twice s hs v w htwice := by
    obtain ⟨e, hread⟩ := h.twice s hs v w htwice
    exact ⟨f e, congrArg (Except.mapError f) hread⟩
  wrong s hs v hv hwrong := by
    obtain ⟨e, hread⟩ := h.wrong s hs v hv hwrong
    exact ⟨f e, congrArg (Except.mapError f) hread⟩
  same other more hother hperm a := by
    rw [mapError_eq_ok, mapError_eq_ok]
    exact h.same other more hother hperm a

end Striker.Json
