/-
JSON text read back. What is written of a datum is spelled by the grammar, without any space: it spells one
node. So a reader of the text sees exactly the node of the datum, and nothing behind it.
-/
import Striker.Proofs.Datum.Reading
import Striker.Proofs.Json.Spelling

namespace Striker.Json

/-! ## Values -/

mutual

/-- The node that is read where a datum was written. -/
def nodeOf : Datum → Node
  | .unit => .null
  | .flag b => .flag b
  | .natural n => .number (wholeText false n)
  | .integer i => .number (wholeText (i < 0) i.natAbs)
  | .single x => if x.isFinite then .number (numberText (singleLayout.write x).toList) else .null
  | .double x => if x.isFinite then .number (numberText (doubleLayout.write x).toList) else .null
  | .text s => .string (stringText s)
  | .list items => .array (itemsOf items)
  | .table entries => .object (membersOf entries)

/-- The items that are read of a list. -/
def itemsOf : List Datum → Items
  | [] => .close none
  | d :: rest => .item (nodeOf d) (itemsOf rest)

/-- The members that are read of a table. -/
def membersOf : List (Datum × Datum) → Members
  | [] => .close none
  | (key, d) :: rest => .member (nodeOf key) (nodeOf d) (membersOf rest)

end

mutual

/-- Data whose tables have texts for keys. -/
def Named : Datum → Prop
  | .list items => ItemsNamed items
  | .table entries => EntriesNamed entries
  | _ => True

/-- Items whose tables have texts for keys. -/
def ItemsNamed : List Datum → Prop
  | [] => True
  | d :: rest => Named d ∧ ItemsNamed rest

/-- Entries with texts for keys, in tables within them, too. -/
def EntriesNamed : List (Datum × Datum) → Prop
  | [] => True
  | (key, d) :: rest => (∃ s, key = .text s) ∧ Named d ∧ EntriesNamed rest

end

theorem named_record (fields : List (String × Datum)) :
    Named (.record fields) ↔ ∀ f ∈ fields, Named f.2 := by
  show EntriesNamed _ ↔ _
  induction fields with
  | nil => exact iff_of_true trivial (List.forall_mem_nil _)
  | cons f fields ih =>
    rw [List.forall_mem_cons, ← ih]
    exact and_iff_right ⟨f.1, rfl⟩

/-! ## Layouts of numbers -/

/-- A layout that writes every finite number as a number and every other one as null. -/
structure Suits (l : Layout) : Prop where
  point : l.point = true
  plus : l.plus = true
  nan : l.nan = "null"
  infinity : l.infinity = "null"
  negativeInfinity : l.negativeInfinity = "null"

theorem suits_singleLayout : Suits singleLayout := ⟨rfl, rfl, rfl, rfl, rfl⟩

theorem suits_doubleLayout : Suits doubleLayout := ⟨rfl, rfl, rfl, rfl, rfl⟩

namespace Suits

variable {f : Format} {l : Layout}

theorem exists_signed_eq (h : Suits l) {x : Binary f} (hx : x.isFinite = true) :
    ∃ n : NumberText, n.WellFormed ∧ (l.write x).toList = n.signed := by
  obtain ⟨d, hwrite⟩ := Layout.write_of_isFinite (l := l) hx
  obtain ⟨n, hn, hnegative, hspelling⟩ := exists_spelling_eq h.point h.plus x.isNegative d
  exact ⟨n, hn, by rw [hwrite, NumberText.signed, hnegative, hspelling]⟩

theorem write_eq_null (h : Suits l) {x : Binary f} (hx : x.isFinite = false) : l.write x = "null" := by
  cases x with
  | nan => exact h.nan
  | signed n r =>
    have hr : ¬ r.val < f.top := of_decide_eq_false hx
    cases n
    · simp [Layout.write, hr, h.infinity]
    · simp [Layout.write, hr, h.negativeInfinity]

end Suits

/-! ## Documents -/

theorem write_natural (n : Nat) : write (.natural n) = (wholeText false n).signed := by
  simp [write]

theorem write_integer (i : Int) :
    write (.integer i) = (wholeText (i < 0) i.natAbs).signed := by
  simp [write]

theorem spells_real {f : Format} {l : Layout} (h : Suits l) (x : Binary f) : Spells (l.write x).toList
    (if x.isFinite then .number (numberText (l.write x).toList) else .null) := by
  cases hx : x.isFinite with
  | true =>
    obtain ⟨n, hn, hwrite⟩ := h.exists_signed_eq hx
    rw [hwrite, numberText_signed hn, if_pos rfl]
    exact hn.spells
  | false =>
    rw [h.write_eq_null hx]
    exact .null

/-- What stands before an item or a member that is not the first. -/
def lead (first : Bool) : List Char := if first then [] else [',']

theorem leads_lead (first : Bool) : Leads first (lead first) := by
  cases first with
  | false => exact .next isBlank_nil isBlank_nil
  | true => exact .first isBlank_nil

mutual

/-- What is written of a datum spells its node. -/
theorem spells_write (d : Datum) (hd : Named d) : Spells (write d) (nodeOf d) := by
  match d with
  | .unit => exact .null
  | .flag false => exact .no
  | .flag true => exact .yes
  | .natural n =>
    rw [write_natural]
    exact (wellFormed_wholeText _ _).spells
  | .integer i =>
    rw [write_integer]
    exact (wellFormed_wholeText _ _).spells
  | .single x => exact spells_real suits_singleLayout x
  | .double x => exact spells_real suits_doubleLayout x
  | .text s => exact .string (spellsPieces_escapes s.toList)
  | .list [] => exact .array (.close isBlank_nil)
  | .list (d :: rest) => exact .array (spellsItems_write (d :: rest) (List.cons_ne_nil d rest) hd true)
  | .table [] => exact .object (.close isBlank_nil)
  | .table (e :: rest) => exact .object (spellsMembers_write (e :: rest) (List.cons_ne_nil e rest) hd true)

theorem spellsItems_write (items : List Datum) (hne : items ≠ []) (hitems : ItemsNamed items)
    (first : Bool) : SpellsItems first (lead first ++ writeItems items) (itemsOf items) := by
  match items with
  | [] => exact absurd rfl hne
  | [d] =>
    obtain ⟨hd, -⟩ := hitems
    exact .item (leads_lead first) (spells_write d hd) (.close isBlank_nil)
  | d :: e :: more =>
    -- the comma behind an item leads the next one
    obtain ⟨hd, hmore⟩ := hitems
    have hrest := spellsItems_write (e :: more) (List.cons_ne_nil e more) hmore false
    exact .item (leads_lead first) (spells_write d hd) hrest

theorem spellsMembers_write (entries : List (Datum × Datum)) (hne : entries ≠ [])
    (hentries : EntriesNamed entries) (first : Bool) :
    SpellsMembers first (lead first ++ writeEntries entries) (membersOf entries) := by
  match entries with
  | [] => exact absurd rfl hne
  | [(key, d)] =>
    obtain ⟨⟨s, rfl⟩, hd, -⟩ := hentries
    have htext : writeEntries [(.text s, d)] =
        '"' :: ((s.toList.flatMap escape ++ ['"']) ++ ([] ++ ':' :: ([] ++ (write d ++ ['\x7d'])))) := by
      simp [writeEntries, write, writeString]
    rw [htext]
    exact .member (leads_lead first) (spellsPieces_escapes s.toList) isBlank_nil isBlank_nil
      (spells_write d hd) (.close isBlank_nil)
  | (key, d) :: e :: more =>
    obtain ⟨⟨s, rfl⟩, hd, hmore⟩ := hentries
    have hrest := spellsMembers_write (e :: more) (List.cons_ne_nil e more) hmore false
    have htext : writeEntries ((.text s, d) :: e :: more) = '"' :: ((s.toList.flatMap escape ++ ['"']) ++
        ([] ++ ':' :: ([] ++ (write d ++ (lead false ++ writeEntries (e :: more)))))) := by
      simp [writeEntries, write, writeString, lead]
    rw [htext]
    exact .member (leads_lead first) (spellsPieces_escapes s.toList) isBlank_nil isBlank_nil
      (spells_write d hd) hrest

end

theorem ofText_text {d : Datum} (hd : Named d) : Document.ofText (text d) = ⟨nodeOf d, []⟩ := by
  refine ofText_spells ?_ isBlank_nil (spells_write d hd) isBlank_nil
  simp [text]

/-- A reader of the text of a datum sees its node. -/
theorem read_text {α : Type} (reader : Cursor → Reading α) {d : Datum} (hd : Named d) :
    read reader (text d) = Reading.outcome 0 (reader ⟨depthLimit, nodeOf d⟩) := by
  refine read_spells reader ?_ isBlank_nil (spells_write d hd) isBlank_nil
  simp [text]

/-! ## Readers -/

namespace Cursor

variable {α : Type} (room : Nat)

theorem whole_nodeOf {n bound : Nat} (h : n < bound) (hbound : bound ≤ UInt64.size) (expected : String) :
    Source.whole bound expected (⟨room, nodeOf (.natural n)⟩ : Cursor) = pure n := by
  have hvalue := value_wholeText (Nat.lt_of_lt_of_le h hbound)
  show (lift (wholeText false n).value >>= Datum.whole bound expected) = _
  rw [hvalue]
  show Datum.whole bound expected (.natural n) = _
  rw [Datum.whole, if_pos h]

theorem word32_nodeOf (n : UInt32) :
    Source.word32 (⟨room, nodeOf (.natural n.toNat)⟩ : Cursor) = pure n := by
  unfold Source.word32
  rw [whole_nodeOf room n.toNat_lt_size (by decide), map_pure, UInt32.ofNat_toNat]

/-- A string names what its characters are. -/
theorem label_string {s : StringText} {name : String} (h : s.value = .ok name) (expected : String)
    (read : Label → Reading α) :
    Source.label expected read (⟨room, .string s⟩ : Cursor) = read (.name name) := by
  show (lift s.value >>= fun name => read (.name name)) = _
  rw [h]
  rfl

theorem choice_string {s : StringText} {name : String} (h : s.value = .ok name)
    (choices : List (String × α)) :
    Source.choice choices (⟨room, .string s⟩ : Cursor) = Datum.variant choices name := by
  show (lift s.value >>= Datum.variant choices) = _
  rw [h]
  rfl

theorem names_string {s : StringText} {name : String} (h : s.value = .ok name) :
    Record.Names (⟨room, .string s⟩ : Cursor) name := fun _ => label_string room h _ _

theorem label_nodeOf (s expected : String) (read : Label → Reading α) :
    Source.label expected read (⟨room, nodeOf (.text s)⟩ : Cursor) = read (.name s) :=
  label_string room (value_stringText s) expected read

theorem choice_nodeOf (choices : List (String × α)) (s : String) :
    Source.choice choices (⟨room, nodeOf (.text s)⟩ : Cursor) = Datum.variant choices s :=
  choice_string room (value_stringText s) choices

theorem names_nodeOf {room : Nat} {name : String} :
    Record.Names (⟨room, nodeOf (.text name)⟩ : Cursor) name :=
  names_string room (value_stringText name)

theorem datum_text (s expected : String) :
    Source.datum expected (⟨room, nodeOf (.text s)⟩ : Cursor) = pure (.text s) := by
  show lift (Datum.text <$> (stringText s).value) = _
  rw [value_stringText]
  rfl

theorem datum_natural {n : Nat} (h : n < UInt64.size) (expected : String) :
    Source.datum expected (⟨room, nodeOf (.natural n)⟩ : Cursor) = pure (.natural n) := by
  show lift (wholeText false n).value = _
  rw [value_wholeText h]
  rfl

theorem members_membersOf (entries : List (Datum × Datum)) : members room (membersOf entries) =
    (entries.map fun e => (⟨room, nodeOf e.1⟩, ⟨room, nodeOf e.2⟩), none) := by
  induction entries with
  | nil => rfl
  | cons e rest ih =>
    obtain ⟨key, d⟩ := e
    rw [membersOf, members, ih]
    rfl

/-- An object is read as a record by its members. -/
theorem record_object {room : Nat} (hroom : 1 < room) {table : Members} {parts : List (Cursor × Cursor)}
    {close : Option Fault} (h : members (room - 1) table = (parts, close)) (expected : String)
    (read : Opened Cursor → Reading α) :
    Source.record expected read (⟨room, .object table⟩ : Cursor) = read (.entries parts close) := by
  show opened expected read ⟨room, .object table⟩ = _
  unfold opened
  dsimp only
  rw [if_neg (Nat.not_le.2 hroom), h]

theorem record_nodeOf {room : Nat} (hroom : 1 < room) (entries : List (Datum × Datum))
    (expected : String) (read : Opened Cursor → Reading α) :
    Source.record expected read (⟨room, nodeOf (.table entries)⟩ : Cursor) =
      read (.entries
        (entries.map fun e => (⟨room - 1, nodeOf e.1⟩, ⟨room - 1, nodeOf e.2⟩)) none) :=
  record_object hroom (members_membersOf (room - 1) entries) expected read

theorem read_nodeOf {room : Nat} (hroom : 1 < room) (r : Record Cursor α)
    (fields : List (String × Datum)) : r.read ⟨room, nodeOf (.record fields)⟩ =
      r.ofEntries (fields.map fun e => (⟨room - 1, nodeOf (.text e.1)⟩, ⟨room - 1, nodeOf e.2⟩))
        none := by
  refine (record_nodeOf hroom _ _ _).trans ?_
  simp [Record.ofOpened, Function.comp_def]

/-- Reading a number of a document comes to an end. -/
theorem settled_single (x : Single) :
    (Source.single (⟨room, nodeOf (.single x)⟩ : Cursor)).Settled := by
  show (number (Datum.real "f32") "f32" ⟨room, if x.isFinite then _ else _⟩).Settled
  split
  · show (lift (numberText (singleLayout.write x).toList).value >>= Datum.real "f32").Settled
    cases (numberText (singleLayout.write x).toList).value with
    | ok d => exact Datum.settled_real "f32" d
    | error f => exact .inr ⟨_, rfl⟩
  · exact .inr ⟨_, rfl⟩

/-- A number that is read back alone is read back everywhere. -/
theorem single_nodeOf {x : Single} (h : Json.read Source.single (text (.single x)) = .ok x) :
    Source.single (⟨room, nodeOf (.single x)⟩ : Cursor) = pure x := by
  rw [read_text Source.single (d := .single x) trivial] at h
  have halone : Source.single (⟨depthLimit, nodeOf (.single x)⟩ : Cursor) = pure x :=
    (settled_single depthLimit x).eq_pure h
  exact halone

/-- It is also read back from the datum that is kept of it. -/
theorem exists_datum_single {x : Single} (h : Json.read Source.single (text (.single x)) = .ok x)
    (expected : String) :
    ∃ d, Source.datum expected (⟨room, nodeOf (.single x)⟩ : Cursor) = pure d ∧
      Source.single d = (pure x : Reading Single) := by
  have halone := single_nodeOf room h
  by_cases hx : x.isFinite = true
  · obtain ⟨n, hn⟩ : ∃ n, nodeOf (.single x) = .number n := ⟨_, if_pos hx⟩
    rw [hn] at halone ⊢
    have hsingle : (lift n.value >>= Datum.real "f32") = (pure x : Reading Single) := halone
    have hdatum : Source.datum expected (⟨room, .number n⟩ : Cursor) = lift n.value := rfl
    rw [hdatum]
    cases hvalue : n.value with
    | ok d =>
      rw [hvalue] at hsingle
      exact ⟨d, rfl, hsingle⟩
    | error f =>
      rw [hvalue] at hsingle
      cases congrFun hsingle 0
  · have hn : nodeOf (.single x) = .null := if_neg hx
    rw [hn] at halone
    cases congrFun halone 0

end Cursor

end Striker.Json
