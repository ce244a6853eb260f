/-
The grammar of JSON texts, and that the reader finds in every text of the grammar what the text spells: a
word, a number, a string, a list or an object, with any space between its parts. Numbers have an exponent
in either case and with or without a plus sign, and characters of strings are escaped in any of the ways
there are. A value that is spelled has no fault anywhere, so it can also be read over.
-/
import Striker.Json.Cursor
import Striker.Proofs.Number.Spelling

namespace Striker.Json

/-- Space between the parts of a text. -/
def IsBlank (space : List Char) : Prop := ∀ c ∈ space, isSpace c = true

/-! ## The grammar -/

/-- Digits, of which there has to be one. -/
def IsDigits (cs : List Char) : Prop := cs ≠ [] ∧ ∀ c ∈ cs, c.isDigit = true

/-- The exponent of a number, if it has one. -/
inductive SpellsExponent : List Char → Option (Bool × List Char) → Prop
  | none : SpellsExponent [] none
  | plain {letter : Char} {digits : List Char} : letter = 'e' ∨ letter = 'E' → IsDigits digits →
    SpellsExponent (letter :: digits) (some (false, digits))
  | plus {letter : Char} {digits : List Char} : letter = 'e' ∨ letter = 'E' → IsDigits digits →
    SpellsExponent (letter :: '+' :: digits) (some (false, digits))
  | minus {letter : Char} {digits : List Char} : letter = 'e' ∨ letter = 'E' → IsDigits digits →
    SpellsExponent (letter :: '-' :: digits) (some (true, digits))

/-- The digits after the point of a number, if it has one. -/
inductive SpellsFraction : List Char → List Char → Prop
  | none : SpellsFraction [] []
  | some {digits : List Char} : IsDigits digits → SpellsFraction ('.' :: digits) digits

/-- The pieces of a string, with the quote after them. -/
inductive SpellsPieces : List Char → List Piece → Prop
  | close : SpellsPieces ['"'] []
  | char {c : Char} {cs : List Char} {pieces : List Piece} :
    32 ≤ c.toNat → c ≠ '"' → c ≠ '\\' → SpellsPieces cs pieces →
    SpellsPieces (c :: cs) (.char c :: pieces)
  | escape {letter c : Char} {cs : List Char} {pieces : List Piece} :
    escaped? letter = some c → SpellsPieces cs pieces →
    SpellsPieces ('\\' :: letter :: cs) (.char c :: pieces)
  | unit {a b c d : Char} {n : Nat} {cs : List Char} {pieces : List Piece} :
    codeUnit? a b c d = some n → SpellsPieces cs pieces →
    SpellsPieces ('\\' :: 'u' :: a :: b :: c :: d :: cs) (.unit n :: pieces)

/-- What stands before a part of a list or of an object: space, and a comma unless it is the first. -/
inductive Leads : Bool → List Char → Prop
  | first {space : List Char} : IsBlank space → Leads true space
  | next {before space : List Char} : IsBlank before → IsBlank space → Leads false (before ++ ',' :: space)

mutual

/-- The texts of a value, without space around it. -/
inductive Spells : List Char → Node → Prop
  | null : Spells ['n', 'u', 'l', 'l'] .null
  | yes : Spells ['t', 'r', 'u', 'e'] (.flag true)
  | no : Spells ['f', 'a', 'l', 's', 'e'] (.flag false)
  | number {negative : Bool} {whole point fraction power : List Char} {exponent : Option (Bool × List Char)} :
    IsWhole whole → SpellsFraction point fraction → SpellsExponent power exponent →
    Spells ((if negative then ['-'] else []) ++ (whole ++ (point ++ power)))
      (.number ⟨negative, whole, fraction, exponent, none⟩)
  | string {cs : List Char} {pieces : List Piece} :
    SpellsPieces cs pieces → Spells ('"' :: cs) (.string ⟨pieces, none⟩)
  | array {cs : List Char} {items : Items} : SpellsItems true cs items → Spells ('[' :: cs) (.array items)
  | object {cs : List Char} {members : Members} :
    SpellsMembers true cs members → Spells ('\x7b' :: cs) (.object members)

/-- The texts of what stands after the bracket that opens a list, or after an item of it. -/
inductive SpellsItems : Bool → List Char → Items → Prop
  | close {first : Bool} {space : List Char} :
    IsBlank space → SpellsItems first (space ++ [']']) (.close none)
  | item {first : Bool} {lead cs more : List Char} {value : Node} {items : Items} :
    Leads first lead → Spells cs value → SpellsItems false more items →
    SpellsItems first (lead ++ (cs ++ more)) (.item value items)

/-- The texts of what stands after the brace that opens an object, or after a member of it. -/
inductive SpellsMembers : Bool → List Char → Members → Prop
  | close {first : Bool} {space : List Char} :
    IsBlank space → SpellsMembers first (space ++ ['\x7d']) (.close none)
  | member {first : Bool} {lead key before after cs more : List Char} {pieces : List Piece} {value : Node}
    {members : Members} :
    Leads first lead → SpellsPieces key pieces → IsBlank before → IsBlank after → Spells cs value →
    SpellsMembers false more members →
    SpellsMembers first (lead ++ '"' :: (key ++ (before ++ ':' :: (after ++ (cs ++ more)))))
      (.member (.string ⟨pieces, none⟩) value members)

end

/-! ## Digits -/

/-- Whether a number ends before these characters. -/
def Stops (rest : List Char) : Prop := ∀ c ∈ rest.head?, ¬ IsNumeral c ∧ c ≠ 'E'

namespace Stops

@[simp] theorem nil : Stops [] := by
  intro c hc
  cases hc

@[simp] theorem cons_iff {c : Char} {cs : List Char} : Stops (c :: cs) ↔ ¬ IsNumeral c ∧ c ≠ 'E' := by
  simp [Stops]

theorem isDigit {rest : List Char} (h : Stops rest) : ∀ c ∈ rest.head?, c.isDigit = false :=
  fun c hc => Bool.eq_false_iff.2 fun hd => (h c hc).1 (.of_isDigit hd)

end Stops

theorem span_digits {digits rest : List Char} (hdigits : ∀ c ∈ digits, c.isDigit = true)
    (hrest : ∀ c ∈ rest.head?, c.isDigit = false) :
    (digits ++ rest).takeWhile Char.isDigit = digits ∧
      (digits ++ rest).dropWhile Char.isDigit = rest := by
  rw [List.takeWhile_append_of_pos hdigits, List.dropWhile_append_of_pos hdigits]
  cases rest with
  | nil => simp
  | cons c cs =>
    have hc : c.isDigit = false := hrest c rfl
    simp [hc]

theorem ne_of_isDigit {c d : Char} (hc : c.isDigit = true) (hd : d.isDigit = false) : c ≠ d := by
  rintro rfl
  rw [hc] at hd
  cases hd

/-! ## Space -/

@[simp] theorem isBlank_nil : IsBlank [] := List.forall_mem_nil _

theorem skipSpace_append {space : List Char} (h : IsBlank space) (cs : List Char) :
    skipSpace (space ++ cs) = skipSpace cs := List.dropWhile_append_of_pos h

theorem skipSpace_cons {c : Char} (h : isSpace c = false) (cs : List Char) : skipSpace (c :: cs) = c :: cs :=
  List.dropWhile_cons_of_neg (by simp [h])

theorem Stops.of_isSpace {space : List Char} (h : IsBlank space) {cs : List Char} (hcs : Stops cs) :
    Stops (space ++ cs) := by
  cases space with
  | nil => exact hcs
  | cons c space =>
    have hc : isSpace c = true := h c List.mem_cons_self
    simp only [isSpace, Bool.or_eq_true, decide_eq_true_eq] at hc
    rw [List.cons_append, cons_iff]
    rcases hc with ((rfl | rfl) | rfl) | rfl <;> exact ⟨by simp [IsNumeral], by decide⟩

theorem Leads.stops {lead : List Char} (h : Leads false lead) (rest : List Char) : Stops (lead ++ rest) := by
  cases h with
  | next hbefore _ =>
    rw [List.append_assoc]
    exact .of_isSpace hbefore (by simp [IsNumeral])

theorem SpellsItems.stops {cs : List Char} {items : Items} (h : SpellsItems false cs items)
    (rest : List Char) : Stops (cs ++ rest) := by
  cases h with
  | close hspace =>
    rw [List.append_assoc]
    exact .of_isSpace hspace (by simp [IsNumeral])
  | item hlead _ _ =>
    rw [List.append_assoc]
    exact hlead.stops _

theorem SpellsMembers.stops {cs : List Char} {members : Members} (h : SpellsMembers false cs members)
    (rest : List Char) : Stops (cs ++ rest) := by
  cases h with
  | close hspace =>
    rw [List.append_assoc]
    exact .of_isSpace hspace (by simp [IsNumeral])
  | member hlead _ _ _ _ _ =>
    rw [List.append_assoc]
    exact hlead.stops _

/-! ## Numbers -/

section Number

variable {whole point fraction power rest : List Char} {exponent : Option (Bool × List Char)}

theorem readExponent_spells (negative : Bool) (whole fraction : List Char)
    (h : SpellsExponent power exponent) (hrest : Stops rest) :
    readExponent negative whole fraction (power ++ rest) =
      (⟨negative, whole, fraction, exponent, none⟩, rest) := by
  cases h with
  | none =>
    cases rest with
    | nil => rfl
    | cons c cs =>
      obtain ⟨hc, hupper⟩ := Stops.cons_iff.1 hrest
      have hlower : c ≠ 'e' := by
        rintro rfl
        exact hc (.inr (by decide))
      simp [readExponent, hlower, hupper]
  | @plain letter digits hletter hdigits =>
    obtain ⟨htake, hdrop⟩ := span_digits hdigits.2 hrest.isDigit
    -- the digits come at once, so none of the signs does
    obtain ⟨d, more, rfl⟩ := List.exists_cons_of_ne_nil hdigits.1
    have hd : d.isDigit = true := hdigits.2 d List.mem_cons_self
    have hplus : d ≠ '+' := ne_of_isDigit hd rfl
    have hminus : d ≠ '-' := ne_of_isDigit hd rfl
    simp_all [readExponent]
  | plus hletter hdigits =>
    obtain ⟨htake, hdrop⟩ := span_digits hdigits.2 hrest.isDigit
    simp [readExponent, hletter, htake, hdrop, hdigits.1]
  | minus hletter hdigits =>
    obtain ⟨htake, hdrop⟩ := span_digits hdigits.2 hrest.isDigit
    simp [readExponent, hletter, htake, hdrop, hdigits.1]

/-- Neither an exponent nor what follows a number begins with a digit or a point. -/
theorem SpellsExponent.head (h : SpellsExponent power exponent) (hrest : Stops rest) :
    ∀ c ∈ (power ++ rest).head?, c.isDigit = false ∧ c ≠ '.' := by
  have hletter : ∀ c, c = 'e' ∨ c = 'E' → c.isDigit = false ∧ c ≠ '.' := by
    rintro _ (rfl | rfl) <;> decide
  intro c hc
  cases h with
  | none =>
    refine ⟨hrest.isDigit c hc, ?_⟩
    rintro rfl
    exact (hrest '.' hc).1 (.inr (by decide))
  | plain hc' _ =>
    obtain rfl := Option.some.inj hc
    exact hletter _ hc'
  | plus hc' _ =>
    obtain rfl := Option.some.inj hc
    exact hletter _ hc'
  | minus hc' _ =>
    obtain rfl := Option.some.inj hc
    exact hletter _ hc'

theorem readFraction_of_ne {negative : Bool} {whole cs : List Char} (h : ∀ c ∈ cs.head?, c ≠ '.') :
    readFraction negative whole cs = readExponent negative whole [] cs := by
  unfold readFraction
  split
  · exact absurd rfl (h '.' rfl)
  · rfl

theorem readFraction_spells (negative : Bool) (whole : List Char) (hpoint : SpellsFraction point fraction)
    (h : SpellsExponent power exponent) (hrest : Stops rest) :
    readFraction negative whole (point ++ (power ++ rest)) =
      (⟨negative, whole, fraction, exponent, none⟩, rest) := by
  have hnext := h.head hrest
  cases hpoint with
  | none =>
    rw [List.nil_append, readFraction_of_ne fun c hc => (hnext c hc).2]
    exact readExponent_spells _ _ _ h hrest
  | some hdigits =>
    obtain ⟨htake, hdrop⟩ := span_digits hdigits.2 fun c hc => (hnext c hc).1
    rw [List.cons_append, readFraction, htake, hdrop, if_neg hdigits.1]
    exact readExponent_spells _ _ _ h hrest

theorem readNumber_spells (negative : Bool) (hwhole : IsWhole whole)
    (hpoint : SpellsFraction point fraction) (h : SpellsExponent power exponent) (hrest : Stops rest) :
    readNumber negative (whole ++ (point ++ (power ++ rest))) =
      (⟨negative, whole, fraction, exponent, none⟩, rest) := by
  have hnext : ∀ c ∈ (point ++ (power ++ rest)).head?, c.isDigit = false := by
    intro c hc
    cases hpoint with
    | none => exact (h.head hrest c hc).1
    | some _ =>
      obtain rfl := Option.some.inj hc
      rfl
  obtain ⟨htake, hdrop⟩ := span_digits hwhole.digits hnext
  have hfraction := readFraction_spells negative whole hpoint h hrest
  obtain ⟨c, more, rfl, hzero⟩ := hwhole.start
  unfold readNumber
  rw [htake, hdrop]
  dsimp only
  split
  · next heq => cases heq
  · next heq =>
    obtain ⟨rfl, rfl⟩ := List.cons.inj heq
    cases hzero rfl
  · exact hfraction

end Number

/-! ## Strings -/

theorem readString_spells {cs : List Char} {pieces : List Piece} (h : SpellsPieces cs pieces)
    (rest : List Char) : readString (cs ++ rest) = (⟨pieces, none⟩, rest) := by
  induction h with
  | close => rfl
  | @char c cs pieces hcontrol hquote hback _ ih =>
    have hnot : ¬ c.toNat < 32 := Nat.not_lt.2 hcontrol
    rw [List.cons_append, readString.eq_def]
    split <;> simp_all
  | @escape letter c cs pieces hletter _ ih =>
    have hu : letter ≠ 'u' := by
      rintro rfl
      cases hletter
    simp [readString, hu, hletter, ih]
  | unit hunit _ ih => simp [readString, hunit, ih]

/-! ## Values -/

/-- A character that is no space, and ends or separates nothing. -/
def IsStart (c : Char) : Prop := isSpace c = false ∧ c ≠ ']' ∧ c ≠ ',' ∧ c ≠ '\x7d'

instance (c : Char) : Decidable (IsStart c) := inferInstanceAs (Decidable (_ ∧ _))

/-- Whether the first character is a start. -/
def Starts (cs : List Char) : Prop := ∃ c rest, cs = c :: rest ∧ IsStart c

namespace Starts

theorem cons {c : Char} (h : IsStart c) (cs : List Char) : Starts (c :: cs) := ⟨c, cs, rfl, h⟩

theorem append {cs : List Char} (h : Starts cs) (rest : List Char) : Starts (cs ++ rest) := by
  obtain ⟨c, more, rfl, hc⟩ := h
  exact .cons hc (more ++ rest)

theorem length_pos {cs : List Char} (h : Starts cs) : 0 < cs.length := by
  obtain ⟨c, rest, rfl, -⟩ := h
  exact Nat.succ_pos _

theorem skipSpace {cs : List Char} (h : Starts cs) : skipSpace cs = cs := by
  obtain ⟨c, rest, rfl, hc⟩ := h
  exact List.dropWhile_cons_of_neg (by simp [hc.1])

end Starts

theorem Spells.starts {cs : List Char} {v : Node} (h : Spells cs v) : Starts cs := by
  cases h with
  | @number negative whole _ _ _ _ hwhole _ _ =>
    obtain ⟨c, more, rfl, -⟩ := hwhole.start
    have hc : c.isDigit = true := hwhole.digits c List.mem_cons_self
    cases negative with
    | true => exact .cons (by decide) _
    | false => exact .cons (by simp [IsStart, isSpace, ne_of_isDigit hc]) _
  | _ => exact .cons (by decide) _

theorem readValue_digit {c : Char} (hc : c.isDigit = true) (fuel : Nat) (cs : List Char) :
    readValue (fuel + 1) (c :: cs) =
      (.number (readNumber false (c :: cs)).1, (readNumber false (c :: cs)).2) := by
  have hspace : isSpace c = false := by
    simp [isSpace, ne_of_isDigit hc]
  have hskip : skipSpace (c :: cs) = c :: cs := List.dropWhile_cons_of_neg (by simp [hspace])
  unfold readValue
  rw [hskip]
  split
  case h_1 heq => cases heq
  -- every other node begins with a character of its own
  case h_9 heq =>
    obtain ⟨rfl, rfl⟩ := List.cons.inj heq
    rw [if_pos hc]
  all_goals
    next heq =>
    obtain ⟨rfl, -⟩ := List.cons.inj heq
    cases hc

theorem readValue_number {negative : Bool} {whole : List Char} (hwhole : IsWhole whole) (rest : List Char)
    (fuel : Nat) : readValue (fuel + 1) ((if negative then ['-'] else []) ++ (whole ++ rest)) =
      (.number (readNumber negative (whole ++ rest)).1, (readNumber negative (whole ++ rest)).2) := by
  cases negative with
  | true => rfl
  | false =>
    obtain ⟨c, more, rfl, -⟩ := hwhole.start
    exact readValue_digit (hwhole.digits c List.mem_cons_self) fuel (more ++ rest)

theorem readItems_next {first : Bool} {lead cs : List Char} (hlead : Leads first lead) (h : Starts cs)
    (fuel : Nat) : readItems (fuel + 1) first (lead ++ cs) =
      (.item (readValue fuel cs).1 (readItems fuel false (readValue fuel cs).2).1,
        (readItems fuel false (readValue fuel cs).2).2) := by
  have hskip := h.skipSpace
  obtain ⟨c, rest, rfl, -, hbracket, hcomma, -⟩ := h
  cases hlead with
  | first hspace =>
    rw [readItems, skipSpace_append hspace, hskip]
    split
    · next heq => cases heq
    · next heq => exact absurd (List.cons.inj heq).1 hbracket
    · next heq => exact absurd (List.cons.inj heq).1 hcomma
    · rfl
  | next hbefore hspace =>
    rw [List.append_assoc, List.cons_append, readItems, skipSpace_append hbefore, skipSpace_cons rfl]
    simp only [skipSpace_append hspace, hskip, Bool.false_eq_true, if_false]
    split
    · next heq => exact absurd (List.cons.inj heq).1 hbracket
    · rfl

theorem readMembers_next {first : Bool} {lead key before : List Char} {pieces : List Piece}
    (hlead : Leads first lead) (hkey : SpellsPieces key pieces) (hbefore : IsBlank before) (cs : List Char)
    (fuel : Nat) : readMembers (fuel + 1) first (lead ++ '"' :: (key ++ (before ++ ':' :: cs))) =
      (.member (.string ⟨pieces, none⟩) (readValue fuel cs).1
        (readMembers fuel false (readValue fuel cs).2).1,
        (readMembers fuel false (readValue fuel cs).2).2) := by
  have hstring : readKey ('"' :: (key ++ (before ++ ':' :: cs))) =
      (.string ⟨pieces, none⟩, before ++ ':' :: cs) := by
    have hread := readString_spells hkey (before ++ ':' :: cs)
    rw [readKey, skipSpace_cons rfl]
    simp only [hread]
  have hcolon : skipSpace (before ++ ':' :: cs) = ':' :: cs := by
    rw [skipSpace_append hbefore, skipSpace_cons rfl]
  have hbrace : '"' ≠ '\x7d' := by decide
  have hcomma : '"' ≠ ',' := by decide
  cases hlead with
  | first hspace =>
    rw [readMembers, skipSpace_append hspace, skipSpace_cons rfl]
    split
    · next heq => cases heq
    · next heq => exact absurd (List.cons.inj heq).1 hbrace
    · next heq => exact absurd (List.cons.inj heq).1 hcomma
    · simp only [hstring, hcolon, if_true]
  | next hspace hafter =>
    rw [List.append_assoc, List.cons_append, readMembers, skipSpace_append hspace, skipSpace_cons rfl]
    simp only [skipSpace_append hafter, skipSpace_cons (c := '"') rfl, Bool.false_eq_true, if_false]
    split
    · next heq => exact absurd (List.cons.inj heq).1 hbrace
    · simp only [hstring, hcolon]

theorem SpellsItems.length_pos {first : Bool} {cs : List Char} {items : Items}
    (h : SpellsItems first cs items) : 0 < cs.length := by
  cases h with
  | close _ => simp
  | item _ hvalue _ =>
    have hpos := hvalue.starts.length_pos
    simp only [List.length_append]
    omega

theorem SpellsMembers.length_pos {first : Bool} {cs : List Char} {members : Members}
    (h : SpellsMembers first cs members) : 0 < cs.length := by
  cases h with
  | close _ => simp
  | member _ _ _ _ _ _ =>
    simp only [List.length_append, List.length_cons]
    omega

mutual

/-- A value is read where it stands, up to where it ends. -/
theorem readValue_spells {cs : List Char} {v : Node} (h : Spells cs v) {space : List Char}
    (hspace : IsBlank space) {rest : List Char} (hrest : Stops rest) {fuel : Nat}
    (hfuel : cs.length ≤ fuel) : readValue fuel (space ++ (cs ++ rest)) = (v, rest) := by
  -- the text is longer than the value is deep, so the fuel never runs out
  have hpos := h.starts.length_pos
  obtain ⟨fuel, rfl⟩ := Nat.exists_eq_succ_of_ne_zero (n := fuel) (by omega)
  have hskip : readValue (fuel + 1) (space ++ (cs ++ rest)) = readValue (fuel + 1) (cs ++ rest) := by
    simp only [readValue, skipSpace_append hspace]
  rw [hskip]
  match h with
  | .null => rfl
  | .yes => rfl
  | .no => rfl
  | .number hwhole hpoint hpower =>
    simp only [List.append_assoc]
    rw [readValue_number hwhole, readNumber_spells _ hwhole hpoint hpower hrest]
  | .string hpieces =>
    have hread := readString_spells hpieces rest
    rw [List.cons_append, readValue, skipSpace_cons rfl]
    simp only [hread]
  | .array hitems =>
    have hread := readItems_spells hitems rest (Nat.le_of_succ_le_succ hfuel)
    rw [List.cons_append, readValue, skipSpace_cons rfl]
    simp only [hread]
  | .object hmembers =>
    have hread := readMembers_spells hmembers rest (Nat.le_of_succ_le_succ hfuel)
    rw [List.cons_append, readValue, skipSpace_cons rfl]
    simp only [hread]

theorem readItems_spells {first : Bool} {cs : List Char} {items : Items} (h : SpellsItems first cs items)
    (rest : List Char) {fuel : Nat} (hfuel : cs.length ≤ fuel) :
    readItems fuel first (cs ++ rest) = (items, rest) := by
  have hpos := h.length_pos
  obtain ⟨fuel, rfl⟩ := Nat.exists_eq_succ_of_ne_zero (n := fuel) (by omega)
  match h with
  | .close hspace =>
    rw [List.append_assoc, readItems, skipSpace_append hspace]
    rfl
  | @SpellsItems.item _ lead value more _ _ hlead hvalue hmore =>
    simp only [List.length_append] at hfuel
    have hstart := hvalue.starts
    -- only a comma or the value itself tells the item from what is left of the list
    have hleft : more.length ≤ fuel := by
      have := hstart.length_pos
      omega
    have hroom : value.length ≤ fuel := by
      have := hmore.length_pos
      omega
    have hread := readValue_spells hvalue isBlank_nil (hmore.stops rest) hroom
    have htail := readItems_spells hmore rest hleft
    rw [List.append_assoc, List.append_assoc, readItems_next hlead (hstart.append _)]
    rw [List.nil_append] at hread
    simp only [hread, htail]

theorem readMembers_spells {first : Bool} {cs : List Char} {members : Members}
    (h : SpellsMembers first cs members) (rest : List Char) {fuel : Nat} (hfuel : cs.length ≤ fuel) :
    readMembers fuel first (cs ++ rest) = (members, rest) := by
  have hpos := h.length_pos
  obtain ⟨fuel, rfl⟩ := Nat.exists_eq_succ_of_ne_zero (n := fuel) (by omega)
  match h with
  | .close hspace =>
    rw [List.append_assoc, readMembers, skipSpace_append hspace]
    rfl
  | @SpellsMembers.member _ _ _ _ _ value more _ _ _ hlead hkey hbefore hafter hvalue hmore =>
    simp only [List.length_append, List.length_cons] at hfuel
    have hroom : value.length ≤ fuel := by omega
    have hleft : more.length ≤ fuel := by omega
    have hread := readValue_spells hvalue hafter (hmore.stops rest) hroom
    have htail := readMembers_spells hmore rest hleft
    simp only [List.append_assoc, List.cons_append]
    rw [readMembers_next hlead hkey hbefore]
    simp only [hread, htail]

end

/-! ## Documents -/

/-- A text that is one value, with space around it, is read as that value, and nothing is left of it but the
space. -/
theorem ofText_spells {text : String} {before cs after : List Char} {v : Node}
    (htext : text.toList = before ++ (cs ++ after)) (hbefore : IsBlank before) (h : Spells cs v)
    (hafter : IsBlank after) : Document.ofText text = ⟨v, after⟩ := by
  have hstops : Stops after := by
    have := Stops.of_isSpace hafter .nil
    rwa [List.append_nil] at this
  have hfuel : cs.length ≤ 2 * text.toList.length + 2 := by
    rw [htext]
    simp only [List.length_append]
    omega
  unfold Document.ofText
  dsimp only
  rw [htext] at hfuel ⊢
  rw [readValue_spells h hbefore hstops hfuel]

theorem read_spells {α : Type} (reader : Cursor → Reading α) {text : String} {before cs after : List Char}
    {v : Node} (htext : text.toList = before ++ (cs ++ after)) (hbefore : IsBlank before) (h : Spells cs v)
    (hafter : IsBlank after) : read reader text = Reading.outcome 0 (reader ⟨depthLimit, v⟩) := by
  have hspace : skipSpace after = [] := by
    rw [← List.append_nil after, skipSpace_append hafter]
    rfl
  have hclose : (Document.mk v after).close = none := if_pos hspace
  unfold read
  rw [ofText_spells htext hbefore h hafter]
  dsimp only
  rw [hclose]
  exact congrArg (Reading.outcome 0) (bind_pure _)

/-! ## Reading over -/

mutual

/-- A value that is spelled is read over. -/
theorem Spells.skip {cs : List Char} {v : Node} (h : Spells cs v) : v.skip = .ok () := by
  match h with
  | .null => rfl
  | .yes => rfl
  | .no => rfl
  | .number _ _ _ => rfl
  | .string _ => rfl
  | .array hitems => exact hitems.skip
  | .object hmembers => exact hmembers.skip

theorem SpellsItems.skip {first : Bool} {cs : List Char} {items : Items} (h : SpellsItems first cs items) :
    items.skip = .ok () := by
  match h with
  | .close _ => rfl
  | .item _ hvalue hmore =>
    rw [Items.skip, hvalue.skip]
    exact hmore.skip

theorem SpellsMembers.skip {first : Bool} {cs : List Char} {members : Members}
    (h : SpellsMembers first cs members) : members.skip = .ok () := by
  match h with
  | .close _ => rfl
  | .member _ _ _ _ hvalue hmore =>
    rw [Members.skip, hvalue.skip]
    exact hmore.skip

end

end Striker.Json
