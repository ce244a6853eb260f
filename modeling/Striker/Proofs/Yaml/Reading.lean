/-
Lines read back. The tokens of lines make up a mapping of words, and a reader sees that mapping whole: its
keys as names and its words as what they spell. What a word is read as does not depend on where it stands,
so a number that is read back from a text of its own is read back from a line.
-/
import Striker.Proofs.Datum.Reading
import Striker.Proofs.Number.Spelling
import Striker.Proofs.Yaml.Scanning
import Striker.Yaml.Cursor

namespace Striker.Yaml

/-! ## Documents -/

/-- The node of a word. -/
def wordNode (w : String) : Node := .scalar none ⟨none, w, .plain⟩

/-- The entries of a mapping of words. -/
def entriesOf : List (String × String) → Entries
  | [] => .close true
  | e :: entries => .entry (wordNode e.1) (wordNode e.2) (entriesOf entries)

theorem readNode_word (fuel : Nat) (block loose : Bool) (names : Names) (w : String) (rest : List Token) :
    readNode (fuel + 1) block loose names (.scalar w .plain :: rest) = ⟨wordNode w, names, rest⟩ := by
  simp [readNode, readProperties, Names.anchor, wordNode]

theorem readNode_block (fuel : Nat) (names : Names) (rest : List Token) :
    readNode (fuel + 1) true false names (.blockMapping :: rest) =
      ⟨.mapping none none (readEntries fuel names rest).value, (readEntries fuel names rest).names,
        (readEntries fuel names rest).rest⟩ := by
  simp [readNode, readProperties, Names.anchor]

theorem readPart_word (fuel : Nat) (names : Names) (w : String) (rest : List Token) :
    readPart (fuel + 2) isEntryEnd true names (.scalar w .plain :: rest) = ⟨wordNode w, names, rest⟩ := by
  rw [readPart, readNode_word]
  rfl

theorem readEntries_cons (fuel : Nat) (names : Names) (e : String × String) (rest : List Token) :
    readEntries (fuel + 3) names (lineTokens e ++ rest) =
      ⟨.entry (wordNode e.1) (wordNode e.2) (readEntries (fuel + 2) names rest).value,
        (readEntries (fuel + 2) names rest).names, (readEntries (fuel + 2) names rest).rest⟩ := by
  show readEntries (fuel + 3) names
    (.key :: .scalar e.1 .plain :: .value :: .scalar e.2 .plain :: rest) = _
  rw [readEntries, readPart_word]
  dsimp only
  rw [readPart_word]

/-- The tokens of lines are read as entries. -/
theorem readEntries_lines (entries : List (String × String)) (fuel : Nat) (names : Names)
    (rest : List Token) :
    readEntries (entries.length + fuel + 2) names (entries.flatMap lineTokens ++ .blockEnd :: rest) =
      ⟨entriesOf entries, names, rest⟩ := by
  induction entries with
  | nil => rfl
  | cons e entries ih =>
    have hfuel : (e :: entries).length + fuel + 2 = entries.length + fuel + 3 := by
      rw [List.length_cons]
      omega
    rw [hfuel, List.flatMap_cons, List.append_assoc, readEntries_cons, ih]
    rfl

theorem length_lineTokens (entries : List (String × String)) :
    (entries.flatMap lineTokens).length = 4 * entries.length := by
  have hmap : (entries.map fun e => (lineTokens e).length) = List.replicate entries.length 4 :=
    List.map_eq_replicate_iff.2 fun _ _ => rfl
  rw [List.length_flatMap, hmap, List.sum_replicate_nat, Nat.mul_comm]

/-- The node of a mapping of words. -/
def tableNode (entries : List (String × String)) : Node := .mapping none none (entriesOf entries)

variable {e : String × String} {entries : List (String × String)}

theorem ofText_lines (he : IsEntry e) (h : ∀ e ∈ entries, IsEntry e) :
    Document.ofText (String.ofList ((e :: entries).flatMap line)) =
      ⟨some (tableNode (e :: entries)), true⟩ := by
  have hlength := length_lineTokens (e :: entries)
  -- a line takes one step of the four that its tokens allow for
  obtain ⟨fuel, hfuel⟩ : ∃ fuel, 4 * (Token.blockMapping ::
      ((e :: entries).flatMap lineTokens ++ [.blockEnd, .streamEnd])).length + 4 =
        (e :: entries).length + fuel + 2 + 1 := by
    refine ⟨4 * ((e :: entries).flatMap lineTokens).length + 13 - (e :: entries).length, ?_⟩
    rw [List.length_cons (a := Token.blockMapping), List.length_append]
    show 4 * (_ + 2 + 1) + 4 = _
    omega
  have hread := readEntries_lines (e :: entries) fuel .standard [.streamEnd]
  unfold Document.ofText Document.ofTokens
  rw [tokens_lines he h]
  simp only [isDocumentEnd, Bool.false_eq_true, false_and, if_false]
  rw [hfuel, readNode_block, hread]
  rfl

theorem ofText_word {w : String} (hw : IsWord w.toList) :
    Document.ofText (String.ofList (w.toList ++ ['\n'])) = ⟨some (wordNode w), true⟩ := by
  unfold Document.ofText
  rw [tokens_word hw]
  rfl

/-! ## Readers -/

namespace Cursor

/-- A word of a document without anchors. -/
def word (room : Nat) (place : Place) (w : String) : Cursor := ⟨[], room, place, some (wordNode w), none⟩

/-- A mapping of words that is a whole document. -/
def table (entries : List (String × String)) : Cursor :=
  ⟨[], depthLimit, [], some (tableNode entries), none⟩

variable {α : Type} {room : Nat} {place : Place} {w : String}

theorem follow_word : (word room place w).follow = pure (word room place w) := rfl

theorem node_word : (word room place w).node = some (.scalar none ⟨none, w, .plain⟩) := rfl

theorem scalar_word_eq (kind expected : String) (read : String → Option (Reading α)) :
    scalar kind expected read (word room place w) =
      (read w).elim ((word room place w).mismatch expected) (word room place w).locate := by
  unfold scalar
  rw [follow_word, pure_bind, node_word]
  dsimp only
  cases read w <;> rfl

theorem scalar_word {kind expected : String} {read : String → Option (Reading α)} {a : α}
    (h : read w = some (pure a)) : scalar kind expected read (word room place w) = pure a := by
  rw [scalar_word_eq, h]
  rfl

theorem scalar_word_of_none {kind expected : String} {read : String → Option (Reading α)}
    (h : read w = none) : scalar kind expected read (word room place w) =
      throw (.mismatch (Scalar.mismatch expected ⟨none, w, .plain⟩) (some place)) := by
  rw [scalar_word_eq, h]
  rfl

theorem whole_word {n bound : Nat} (h : natural? w = some n) (hn : n < bound)
    (hbound : bound ≤ UInt64.size) (expected : String) :
    Source.whole bound expected (word room place w) = pure n := by
  have hsmall : n < UInt64.size := Nat.lt_of_lt_of_le hn hbound
  show whole bound expected (word room place w) = pure n
  refine scalar_word ?_
  rw [h]
  simp [Option.filter, hsmall, Datum.whole, hn]

theorem word32_word {n : UInt32} (h : natural? w = some n.toNat) :
    Source.word32 (word room place w) = pure n := by
  unfold Source.word32
  rw [whole_word h n.toNat_lt_size (by decide), map_pure, UInt32.ofNat_toNat]

theorem single_word {y : Double} (h : double? w = some y) :
    Source.single (word room place w) = pure y.convert := by
  show real "f32" (word room place w) = _
  refine scalar_word ?_
  rw [h]
  rfl

theorem single_word_of_none (h : double? w = none) : ∃ p, Source.single (word room place w) = throw p := by
  refine ⟨.mismatch (Scalar.mismatch "f32" ⟨none, w, .plain⟩) (some place), ?_⟩
  show real "f32" (word room place w) = _
  refine scalar_word_of_none ?_
  rw [h]
  rfl

theorem names_word : Record.Names (word room place w) w := fun _ => rfl

theorem choice_word {choices : List (String × α)} {a : α} (h : Datum.variant choices w = pure a) :
    Source.choice choices (word room place w) = pure a := by
  show (word room place w).locate (Datum.variant choices w) = pure a
  rw [h]
  rfl

theorem entries_entriesOf (c : Cursor) (h : c.anchors = []) (entries : List (String × String)) :
    c.entries (entriesOf entries) =
      (entries.map fun e => (word c.room c.place e.1, word c.room (c.place ++ [.key e.1]) e.2), none) := by
  induction entries with
  | nil => rfl
  | cons e entries ih =>
    rw [entriesOf, Cursor.entries, ih]
    simp [part, word, h, stepTo, wordNode]

theorem record_table (expected : String) (read : Opened Cursor → Reading α)
    (entries : List (String × String)) : Source.record expected read (table entries) =
      (table entries).locate (read (.entries (entries.map fun e =>
        (word (depthLimit - 1) [] e.1, word (depthLimit - 1) [.key e.1] e.2)) none)) := by
  have hentries : Cursor.entries ⟨[], depthLimit - 1, [], some (tableNode entries), none⟩
      (entriesOf entries) = (entries.map fun e =>
        (word (depthLimit - 1) [] e.1, word (depthLimit - 1) [.key e.1] e.2), none) :=
    entries_entriesOf _ rfl entries
  show (table entries).locate
    (read (.entries (Cursor.entries ⟨[], depthLimit - 1, [], some (tableNode entries), none⟩
      (entriesOf entries)).1 (Cursor.entries ⟨[], depthLimit - 1, [], some (tableNode entries), none⟩
      (entriesOf entries)).2)) = _
  rw [hentries]

end Cursor

theorem numbered_entriesOf (entries : List (String × String)) : (entriesOf entries).numbered = [] := by
  induction entries with
  | nil => rfl
  | cons e entries ih => exact ih

/-- A reader of lines sees the mapping of their words. -/
theorem read_lines {α : Type} (reader : Cursor → Reading α) (he : IsEntry e)
    (h : ∀ e ∈ entries, IsEntry e) : ∃ repetitions,
      read reader (String.ofList ((e :: entries).flatMap line)) =
        Reading.outcome repetitions (reader (.table (e :: entries))) := by
  have hnumbered : (tableNode (e :: entries)).numbered = [] := numbered_entriesOf (e :: entries)
  refine ⟨100 * (tableNode (e :: entries)).marks, ?_⟩
  unfold read
  rw [ofText_lines he h]
  dsimp only
  rw [hnumbered]
  exact congrArg (Reading.outcome _) (bind_pure _)

theorem read_word {α : Type} (reader : Cursor → Reading α) {w : String} (hw : IsWord w.toList) :
    ∃ repetitions, read reader (String.ofList (w.toList ++ ['\n'])) =
      Reading.outcome repetitions (reader (.word depthLimit [] w)) := by
  refine ⟨100 * (wordNode w).marks, ?_⟩
  unfold read
  rw [ofText_word hw]
  exact congrArg (Reading.outcome _) (bind_pure _)

/-- A number that is read back from a text of its own is what its spelling stands for. -/
theorem exists_double_of_read {w : String} (hw : IsWord w.toList) {x : Single}
    (h : read Source.single (String.ofList (w.toList ++ ['\n'])) = .ok x) :
    ∃ y, double? w = some y ∧ y.convert = x := by
  obtain ⟨repetitions, hread⟩ := read_word Source.single hw
  rw [hread] at h
  cases hdouble : double? w with
  | some y =>
    rw [Cursor.single_word hdouble] at h
    cases h
    exact ⟨y, rfl, rfl⟩
  | none =>
    obtain ⟨p, hp⟩ : ∃ p, Source.single (Cursor.word depthLimit [] w) = throw p :=
      Cursor.single_word_of_none hdouble
    rw [hp] at h
    cases h

/-! ## Spellings -/

theorem isWordChar_of_isDigit {c : Char} (h : c.isDigit = true) : IsWordChar c := by
  refine .inl ?_
  simp [Char.isAlphanum, h]

theorem isWordChar_of_isNumeral {c : Char} (h : IsNumeral c) : IsWordChar c := by
  rcases h with h | h
  · exact isWordChar_of_isDigit h
  · simp only [List.mem_cons, List.not_mem_nil, or_false] at h
    rcases h with rfl | rfl | rfl | rfl <;> simp [IsWordChar]

theorem startsWord_digit {c : Char} (h : c.isDigit = true) (rest : List Char) :
    startsWord (c :: rest) = true := by
  unfold startsWord
  split
  · next heq =>
    obtain ⟨rfl, -⟩ := List.cons.inj heq
    cases h
  · next heq =>
    obtain ⟨rfl, -⟩ := List.cons.inj heq
    simp [Char.isAlphanum, h]
  · next heq => cases heq

theorem isWord_toDigits (n : Nat) : IsWord (Nat.toDigits 10 n) where
  chars c hc := isWordChar_of_isDigit (isDigit_of_mem_toDigits hc)
  start := by
    obtain ⟨c, rest, hdigits, -⟩ := (isWhole_toDigits n).start
    rw [hdigits]
    exact startsWord_digit (isDigit_of_mem_toDigits (n := n) (by simp [hdigits])) rest

theorem isWord_write {f : Format} {l : Layout} (hpoint : l.point = true) {x : Binary f}
    (hx : x.isFinite = true) : IsWord (l.write x).toList where
  chars c hc := isWordChar_of_isNumeral (Layout.isNumeral_write hx c hc)
  start := by
    obtain ⟨d, hwrite⟩ := Layout.write_of_isFinite (l := l) hx
    obtain ⟨c, rest, hdecimal, hc⟩ := l.writeDecimal_start d hpoint
    rw [hwrite, hdecimal]
    cases x.isNegative
    · exact startsWord_digit hc rest
    · simp [startsWord, Char.isAlphanum, hc]

theorem based?_of_isWhole {cs : List Char} (h : IsWhole cs) : based? cs = none := by
  obtain ⟨c, rest, rfl, hzero⟩ := h.start
  unfold based?
  split
  all_goals first
    | rfl
    | next heq =>
      obtain ⟨rfl, rfl⟩ := List.cons.inj heq
      cases hzero rfl

theorem isPadded_of_isWhole {cs : List Char} (h : IsWhole cs) : isPadded (String.ofList cs) = false := by
  obtain ⟨c, rest, rfl, hzero⟩ := h.start
  have hc : c.isDigit = true := h.digits c List.mem_cons_self
  have hpadded : isPadded.padded (c :: rest) = false := by
    unfold isPadded.padded
    split
    · next heq =>
      obtain ⟨rfl, rfl⟩ := List.cons.inj heq
      cases hzero rfl
    · rfl
  unfold isPadded
  rw [String.toList_ofList]
  split
  · next heq =>
    obtain ⟨rfl, -⟩ := List.cons.inj heq
    cases hc
  · next heq =>
    obtain ⟨rfl, -⟩ := List.cons.inj heq
    cases hc
  · exact hpadded

/-- Digits of a whole number are no number in a base, and nothing fills them up. -/
theorem natural?_of_isWhole {cs : List Char} (h : IsWhole cs) :
    natural? (String.ofList cs) = digitsIn? 10 cs := by
  unfold natural?
  rw [String.toList_ofList]
  split
  · have hplus : '+'.isDigit = true := h.digits '+' List.mem_cons_self
    cases hplus
  · dsimp only
    rw [based?_of_isWhole h, isPadded_of_isWhole h]
    rfl

theorem natural?_toDigits (n : Nat) : natural? (String.ofList (Nat.toDigits 10 n)) = some n := by
  rw [natural?_of_isWhole (isWhole_toDigits n), digitsIn?_toDigits]

end Striker.Yaml
