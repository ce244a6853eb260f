/-
The spelling of JSON. The numbers and strings that are written are spelled by the grammar. A whole number that
fits into a word has itself for its value, and a string stands for the characters that were escaped in it.
-/
import Mathlib.Tactic.SplitIfs
import Striker.Json.Text
import Striker.Proofs.Json.Grammar

namespace Striker.Json

/-! ## Numbers -/

namespace NumberText

/-- The point and the digits after it, if there are any. -/
def fractionSpelling : List Char → List Char
  | [] => []
  | digits => '.' :: digits

theorem fractionSpelling_of_ne_nil {digits : List Char} (h : digits ≠ []) :
    fractionSpelling digits = '.' :: digits := by
  cases digits with
  | nil => exact absurd rfl h
  | cons d digits => rfl

/-- The letter, the sign and the digits of an exponent, if there is one. -/
def exponentSpelling : Option (Bool × List Char) → List Char
  | none => []
  | some (minus, digits) => 'e' :: (if minus then '-' else '+') :: digits

/-- The characters of a number after its sign. -/
def spelling (n : NumberText) : List Char :=
  n.whole ++ (fractionSpelling n.fraction ++ exponentSpelling n.exponent)

/-- A number that does not break off: there are digits where there have to be, and no zero stands before
others. -/
structure WellFormed (n : NumberText) : Prop where
  whole : IsWhole n.whole
  fractionDigits : ∀ c ∈ n.fraction, c.isDigit = true
  exponentDigits : ∀ minus digits, n.exponent = some (minus, digits) →
    digits ≠ [] ∧ ∀ c ∈ digits, c.isDigit = true
  fault : n.fault = none

theorem fractionSpelling_spells {digits : List Char} (h : ∀ c ∈ digits, c.isDigit = true) :
    SpellsFraction (fractionSpelling digits) digits := by
  cases digits with
  | nil => exact .none
  | cons d digits => exact .some ⟨List.cons_ne_nil d digits, h⟩

theorem exponentSpelling_spells {exponent : Option (Bool × List Char)}
    (h : ∀ minus digits, exponent = some (minus, digits) → IsDigits digits) :
    SpellsExponent (exponentSpelling exponent) exponent := by
  rcases exponent with - | ⟨minus, digits⟩
  · exact .none
  · have hdigits := h minus digits rfl
    cases minus with
    | false => exact .plus (.inl rfl) hdigits
    | true => exact .minus (.inl rfl) hdigits

end NumberText

theorem wellFormed_of_fraction {whole fraction : List Char} (negative : Bool) (hwhole : IsWhole whole)
    (hfraction : ∀ c ∈ fraction, c.isDigit = true) :
    (⟨negative, whole, fraction, none, none⟩ : NumberText).WellFormed where
  whole := hwhole
  fractionDigits := hfraction
  exponentDigits _ _ h := nomatch h
  fault := rfl

/-- A whole number as written. -/
def wholeText (negative : Bool) (n : Nat) : NumberText :=
  ⟨negative, Nat.toDigits 10 n, [], none, none⟩

theorem wellFormed_wholeText (negative : Bool) (n : Nat) : (wholeText negative n).WellFormed :=
  wellFormed_of_fraction negative (isWhole_toDigits n) (List.forall_mem_nil _)

@[simp] theorem spelling_wholeText (negative : Bool) (n : Nat) :
    (wholeText negative n).spelling = Nat.toDigits 10 n := List.append_nil _

/-- A layout that keeps the point of whole numbers and the sign of exponents writes decimals as numbers. -/
theorem exists_spelling_eq {l : Layout} (hpoint : l.point = true) (hplus : l.plus = true)
    (negative : Bool) (d : Decimal) : ∃ n : NumberText, n.WellFormed ∧ n.negative = negative ∧
      n.spelling = l.writeDecimal d := by
  rcases l.writeDecimal_cases d hpoint with ⟨whole, fraction, hwhole, hne, hfraction, hwrite⟩ |
    ⟨c, rest, hc, hrest, hwrite⟩
  · refine ⟨_, wellFormed_of_fraction negative hwhole hfraction, rfl, ?_⟩
    rw [hwrite]
    simp [NumberText.spelling, NumberText.fractionSpelling_of_ne_nil hne,
      NumberText.exponentSpelling]
  · have hexponent : ∀ minus digits,
        some (decide (d.leading < 0), Nat.toDigits 10 d.leading.natAbs) = some (minus, digits) →
          digits ≠ [] ∧ ∀ c ∈ digits, c.isDigit = true := by
      rintro _ _ ⟨⟩
      exact ⟨Nat.toDigits_ne_nil, fun _ => isDigit_of_mem_toDigits⟩
    refine ⟨⟨negative, [c], rest, some (decide (d.leading < 0), Nat.toDigits 10 d.leading.natAbs),
      none⟩, ⟨.singleton hc, hrest, hexponent, rfl⟩, rfl, ?_⟩
    rw [hwrite]
    -- a sign is written for exponents of either sign
    by_cases hl : d.leading < 0 <;> cases rest <;>
      simp [NumberText.spelling, NumberText.fractionSpelling, NumberText.exponentSpelling, hl, hplus]

namespace NumberText

/-- A number with its sign. -/
def signed (n : NumberText) : List Char := (if n.negative then ['-'] else []) ++ n.spelling

@[simp] theorem signed_wholeText (negative : Bool) (n : Nat) : (wholeText negative n).signed =
    (if negative then ['-'] else []) ++ Nat.toDigits 10 n := by
  rw [signed, spelling_wholeText]
  rfl

theorem readNumber_spelling (n : NumberText) (h : n.WellFormed) :
    readNumber n.negative n.spelling = (n, []) := by
  obtain ⟨negative, whole, fraction, exponent, fault⟩ := n
  obtain rfl : fault = none := h.fault
  have hread := readNumber_spells negative h.whole (fractionSpelling_spells h.fractionDigits)
    (exponentSpelling_spells h.exponentDigits) Stops.nil
  rwa [List.append_nil] at hread

/-- A number that does not break off is spelled with its sign. -/
theorem WellFormed.spells {n : NumberText} (h : n.WellFormed) : Spells n.signed (.number n) := by
  obtain ⟨negative, whole, fraction, exponent, fault⟩ := n
  obtain rfl : fault = none := h.fault
  exact .number h.whole (fractionSpelling_spells h.fractionDigits)
    (exponentSpelling_spells h.exponentDigits)

theorem WellFormed.exists_cons {n : NumberText} (h : n.WellFormed) :
    ∃ c rest, n.spelling = c :: rest ∧ c.isDigit = true := by
  obtain ⟨c, rest, hwhole, -⟩ := h.whole.start
  exact ⟨c, _, by rw [spelling, hwhole]; rfl, h.whole.digits c (by simp [hwhole])⟩

end NumberText

/-- What a spelling is read as. -/
def numberText : List Char → NumberText
  | '-' :: cs => (readNumber true cs).1
  | cs => (readNumber false cs).1

theorem numberText_digit {c : Char} (hc : c.isDigit = true) (cs : List Char) :
    numberText (c :: cs) = (readNumber false (c :: cs)).1 := by
  unfold numberText
  split
  · next heq =>
    obtain ⟨rfl, -⟩ := List.cons.inj heq
    cases hc
  · rfl

@[simp] theorem numberText_signed {n : NumberText} (h : n.WellFormed) : numberText n.signed = n := by
  have hread := n.readNumber_spelling h
  obtain ⟨c, rest, hspelling, hc⟩ := h.exists_cons
  unfold NumberText.signed
  cases hnegative : n.negative <;> rw [hnegative] at hread
  · rw [hspelling] at hread ⊢
    exact (numberText_digit hc rest).trans (congrArg Prod.fst hread)
  · exact congrArg Prod.fst hread

theorem le_ofDigitChars (cs : List Char) (n : Nat) : n ≤ Nat.ofDigitChars 10 cs n := by
  rw [Nat.ofDigitChars_eq_ofDigitChars_zero]
  exact Nat.le_add_right_of_le (Nat.le_mul_of_pos_left _ (Nat.pow_pos (by decide)))

/-- Digits are taken up as long as the number fits into a word. -/
theorem takeDigits_eq {cs : List Char} {n : Nat} (h : Nat.ofDigitChars 10 cs n < UInt64.size) :
    takeDigits n cs = (Nat.ofDigitChars 10 cs n, []) := by
  induction cs generalizing n with
  | nil => simp [takeDigits]
  | cons c cs ih =>
    rw [Nat.ofDigitChars_cons, Nat.mul_comm 10 n] at h ⊢
    have hnext : n * 10 + (c.toNat - '0'.toNat) < UInt64.size :=
      Nat.lt_of_le_of_lt (le_ofDigitChars cs _) h
    unfold takeDigits
    dsimp only
    rw [if_pos hnext, ih h]

/-- Digits alone stand for a natural number, if it fits into a word. -/
theorem value_digits {digits : List Char} (h : Nat.ofDigitChars 10 digits 0 < UInt64.size) :
    NumberText.value ⟨false, digits, [], none, none⟩ = .ok (.natural (Nat.ofDigitChars 10 digits 0)) := by
  simp [NumberText.value, takeDigits_eq h, NumberText.isWhole]

theorem value_wholeText {n : Nat} (h : n < UInt64.size) : (wholeText false n).value = .ok (.natural n) := by
  rw [← Nat.ofDigitChars_ten_toDigits (n := n)] at h
  have hvalue := value_digits h
  rwa [Nat.ofDigitChars_ten_toDigits] at hvalue

/-- A division by a power of ten that is small enough is one step. -/
theorem scale?_neg (x : Double) {places : Nat} (hpos : 0 < places) (hle : places ≤ 308) :
    scale? places x (-(places : Int)) = some (x / .ofNat (Nat.pow 10 places)) := by
  obtain ⟨k, rfl⟩ := Nat.exists_eq_succ_of_ne_zero (Nat.ne_of_gt hpos)
  unfold scale?
  rw [if_pos (by omega), if_neg (by omega), Int.natAbs_neg, Int.natAbs_natCast]

/-- A number with a fraction is the whole number that all of its digits make, divided by a power of ten. -/
theorem value_fraction (negative : Bool) {whole fraction : List Char} (hne : fraction ≠ [])
    (hplaces : fraction.length ≤ 308)
    (hfits : Nat.ofDigitChars 10 (whole ++ fraction) 0 < UInt64.size) :
    let x : Double := .ofNat (Nat.ofDigitChars 10 (whole ++ fraction) 0) / .ofNat (Nat.pow 10 fraction.length)
    NumberText.value ⟨negative, whole, fraction, none, none⟩ =
      .ok (.double (if negative then -x else x)) := by
  intro x
  -- The reader takes the digits of both parts in one pass, and counts those of the second.
  have hall := Nat.ofDigitChars_append (b := 10) (l := whole) (m := fraction) 0
  have hwhole := takeDigits_eq (Nat.lt_of_le_of_lt (hall ▸ le_ofDigitChars fraction _) hfits)
  have hfraction := takeDigits_eq (hall ▸ hfits)
  have hscale := scale?_neg (.ofNat (Nat.ofDigitChars 10 (whole ++ fraction) 0))
    (List.length_pos_iff.2 hne) hplaces
  have hdouble : NumberText.double? ⟨negative, whole, fraction, none, none⟩ =
      some (if negative then -x else x) := by
    simp [NumberText.double?, hwhole, hfraction, ← hall, hscale, x]
  simp [NumberText.value, NumberText.isWhole, hne, hdouble]

/-! ## Strings -/

/-- How a character of a string is read: one that is escaped by its number is a code unit. -/
def pieceOf (c : Char) : Piece :=
  if c.toNat < 32 ∧ c.toNat ∉ [8, 9, 10, 12, 13] then .unit c.toNat else .char c

theorem hexValue?_digitChar : ∀ n < 16, hexValue? (Nat.digitChar n) = some n := by decide

theorem eq_ofNat {c : Char} {n : Nat} (h : c.toNat = n) : c = Char.ofNat n := by
  rw [← h, Char.ofNat_toNat]

/-- An escaped character is spelled as one piece. -/
theorem spellsPieces_escape (c : Char) {cs : List Char} {pieces : List Piece} (h : SpellsPieces cs pieces) :
    SpellsPieces (escape c ++ cs) (pieceOf c :: pieces) := by
  unfold escape
  split_ifs with hquote h8 h9 h10 h12 h13 hcontrol
  · rcases hquote with rfl | rfl <;> exact .escape rfl h
  · rw [eq_ofNat h8]
    exact .escape rfl h
  · rw [eq_ofNat h9]
    exact .escape rfl h
  · rw [eq_ofNat h10]
    exact .escape rfl h
  · rw [eq_ofNat h12]
    exact .escape rfl h
  · rw [eq_ofNat h13]
    exact .escape rfl h
  · -- the other control characters are escaped by their number
    have hhigh := hexValue?_digitChar (c.toNat / 16) (by omega)
    have hlow := hexValue?_digitChar (c.toNat % 16) (by omega)
    have hzero : hexValue? '0' = some 0 := rfl
    have hunit : codeUnit? '0' '0' (Nat.digitChar (c.toNat / 16)) (Nat.digitChar (c.toNat % 16)) =
        some c.toNat := by
      unfold codeUnit?
      rw [hzero, hhigh, hlow]
      refine congrArg some ?_
      omega
    have hpiece : pieceOf c = .unit c.toNat := if_pos ⟨hcontrol, by simp [h8, h9, h10, h12, h13]⟩
    rw [hpiece]
    exact .unit hunit h
  · have hpiece : pieceOf c = .char c := if_neg fun h => hcontrol h.1
    obtain ⟨hdouble, hback⟩ := not_or.1 hquote
    rw [hpiece]
    exact .char (Nat.not_lt.1 hcontrol) hdouble hback h

theorem spellsPieces_escapes (cs : List Char) :
    SpellsPieces (cs.flatMap escape ++ ['"']) (cs.map pieceOf) := by
  induction cs with
  | nil => exact .close
  | cons c cs ih =>
    rw [List.flatMap_cons, List.append_assoc]
    exact spellsPieces_escape c ih

/-- A code unit that is no half of a pair stands for its character. -/
theorem pieceChars_unit {n : Nat} (h : n < 0xd800) (pieces : List Piece) :
    pieceChars none (.unit n :: pieces) = (Char.ofNat n :: ·) <$> pieceChars none pieces := by
  have hhigh : ¬ (0xd800 ≤ n ∧ n ≤ 0xdbff) := by omega
  have hlow : ¬ (0xdc00 ≤ n ∧ n ≤ 0xdfff) := by omega
  have hpair : ¬ (0xd800 ≤ n ∧ n ≤ 0xdfff) := by omega
  rcases pieces with - | ⟨c | m, rest⟩
  · simp [pieceChars, hhigh, hlow]
  · simp [pieceChars, hpair]
  · simp [pieceChars, hhigh, hlow]

theorem pieceChars_pieceOf (cs : List Char) : pieceChars none (cs.map pieceOf) = .ok cs := by
  induction cs with
  | nil => rfl
  | cons c cs ih =>
    rw [List.map_cons]
    by_cases h : c.toNat < 32 ∧ c.toNat ∉ [8, 9, 10, 12, 13]
    · have hunit : c.toNat < 0xd800 := by omega
      rw [pieceOf, if_pos h, pieceChars_unit hunit, ih, Char.ofNat_toNat]
      rfl
    · rw [pieceOf, if_neg h, pieceChars, ih]
      rfl

/-- A text as written. -/
def stringText (s : String) : StringText := ⟨s.toList.map pieceOf, none⟩

@[simp] theorem value_stringText (s : String) : (stringText s).value = .ok s := by
  simp [StringText.value, stringText, pieceChars_pieceOf, Functor.map, Except.map]

end Striker.Json
