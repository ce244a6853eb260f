/-
The spelling of numbers. The digits of a whole number read back as that number, and none is a zero in
front of others. A finite number is spelled with digits, a point, signs and the letter of the exponent,
and after its sign a digit comes first.
-/
import Striker.Number.Notation
import Striker.Number.Numeral

namespace Striker

/-! ## Whole numbers -/

theorem isDigit_of_mem_toDigits {n : Nat} {c : Char} (h : c ∈ Nat.toDigits 10 n) : c.isDigit = true :=
  Nat.isDigit_of_mem_toDigits (by decide) (by decide) h

/-- Only zero begins with a zero. -/
theorem eq_zero_of_toDigits {n : Nat} {rest : List Char} (h : Nat.toDigits 10 n = '0' :: rest) :
    n = 0 := by
  induction n using Nat.strongRecOn generalizing rest with
  | ind n ih =>
    rw [Nat.toDigits_eq_if (by decide)] at h
    split at h
    · obtain ⟨hdigit, -⟩ := List.cons.inj h
      exact Nat.digitChar_eq_zero.1 hdigit
    · -- the first digit is that of a tenth of the number, which is not zero
      next hten =>
      obtain ⟨c, more, hc⟩ := List.exists_cons_of_ne_nil (Nat.toDigits_ne_nil (n := n / 10) (b := 10))
      rw [hc] at h
      obtain ⟨rfl, -⟩ := List.cons.inj h
      have hzero := ih (n / 10) (by omega) hc
      omega

/-- Digits of a whole number: at least one, and no zero in front of others. -/
structure IsWhole (cs : List Char) : Prop where
  start : ∃ c rest, cs = c :: rest ∧ (c = '0' → rest = [])
  digits : ∀ c ∈ cs, c.isDigit = true

theorem IsWhole.singleton {c : Char} (h : c.isDigit = true) : IsWhole [c] where
  start := ⟨c, [], rfl, fun _ => rfl⟩
  digits := List.forall_mem_singleton.2 h

theorem isWhole_toDigits (n : Nat) : IsWhole (Nat.toDigits 10 n) where
  start := by
    obtain ⟨c, rest, h⟩ := List.exists_cons_of_ne_nil (Nat.toDigits_ne_nil (n := n) (b := 10))
    refine ⟨c, rest, h, ?_⟩
    rintro rfl
    obtain rfl := eq_zero_of_toDigits h
    rw [Nat.toDigits_zero] at h
    exact (List.cons.inj h).2.symm
  digits _ := isDigit_of_mem_toDigits

theorem digitIn?_of_isDigit {c : Char} (h : c.isDigit = true) :
    digitIn? 10 c = some (c.toNat - '0'.toNat) := by
  simp only [Char.isDigit, Bool.and_eq_true, decide_eq_true_eq] at h
  have hvalue : digitValue? c = some (c.toNat - '0'.toNat) := if_pos h
  have hhigh : c.toNat ≤ 57 := UInt32.le_iff_toNat_le.1 h.2
  have hlt : c.toNat - 48 < 10 := by omega
  simp [digitIn?, hvalue, Option.filter, hlt]

theorem foldl_digitIn? {cs : List Char} (h : ∀ c ∈ cs, c.isDigit = true) (n : Nat) :
    cs.foldl (fun n c => do return (← n) * 10 + (← digitIn? 10 c)) (some n) =
      some (Nat.ofDigitChars 10 cs n) := by
  induction cs generalizing n with
  | nil => simp
  | cons c cs ih =>
    obtain ⟨hc, hcs⟩ := List.forall_mem_cons.1 h
    rw [List.foldl_cons, digitIn?_of_isDigit hc, Nat.ofDigitChars_cons, Nat.mul_comm 10 n]
    exact ih hcs _

theorem digitsIn?_of_isDigit {cs : List Char} (hne : cs ≠ []) (h : ∀ c ∈ cs, c.isDigit = true) :
    digitsIn? 10 cs = some (Nat.ofDigitChars 10 cs 0) := by
  obtain ⟨c, rest, rfl⟩ := List.exists_cons_of_ne_nil hne
  exact foldl_digitIn? h 0

@[simp] theorem digitsIn?_toDigits (n : Nat) : digitsIn? 10 (Nat.toDigits 10 n) = some n := by
  rw [digitsIn?_of_isDigit Nat.toDigits_ne_nil fun _ => isDigit_of_mem_toDigits,
    Nat.ofDigitChars_ten_toDigits]

theorem isDigit_of_mem_zeros {n : Nat} {c : Char} (h : c ∈ List.replicate n '0') :
    c.isDigit = true := by
  rw [List.eq_of_mem_replicate h]
  rfl

/-! ## Forms of decimals -/

namespace Layout

variable (l : Layout) (d : Decimal)

/-- A decimal without an exponent that keeps its point: there are digits on both sides of it. -/
theorem writePlain_cases (hpoint : l.point = true) (hd : d.coefficient ≠ 0) : ∃ whole fraction,
    IsWhole whole ∧ fraction ≠ [] ∧ (∀ c ∈ fraction, c.isDigit = true) ∧
      l.writePlain d = whole ++ '.' :: fraction := by
  obtain ⟨c, rest, hdigits, -⟩ := (isWhole_toDigits d.coefficient).start
  have hcons : d.digits = c :: rest := hdigits
  have hall : ∀ c ∈ d.digits, c.isDigit = true := fun _ => isDigit_of_mem_toDigits
  have hfirst : c ≠ '0' := by
    rintro rfl
    exact hd (eq_zero_of_toDigits hdigits)
  unfold writePlain
  split
  · -- no digit stands after the point, which a zero follows
    refine ⟨d.digits ++ List.replicate d.exponent.toNat '0', ['0'], ⟨?_, ?_⟩, List.cons_ne_nil _ _,
      List.forall_mem_singleton.2 rfl, by simp⟩
    · exact ⟨c, rest ++ List.replicate d.exponent.toNat '0', by rw [hcons]; rfl, (absurd · hfirst)⟩
    · exact List.forall_mem_append.2 ⟨hall, fun _ => isDigit_of_mem_zeros⟩
  · split
    · next hleading =>
      -- the exponent is negative, so the point stands among the digits
      have hlength : d.leading.toNat + 1 < d.digits.length := by
        simp only [Decimal.leading] at hleading ⊢
        omega
      refine ⟨d.digits.take (d.leading.toNat + 1), d.digits.drop (d.leading.toNat + 1), ⟨?_, ?_⟩, ?_,
        fun c hc => hall c (List.mem_of_mem_drop hc), rfl⟩
      · exact ⟨c, rest.take d.leading.toNat, by rw [hcons]; rfl, (absurd · hfirst)⟩
      · exact fun c hc => hall c (List.mem_of_mem_take hc)
      · rw [ne_eq, List.drop_eq_nil_iff]
        omega
    · -- all digits stand after the point
      refine ⟨['0'], List.replicate (-d.leading - 1).toNat '0' ++ d.digits, .singleton rfl, ?_,
        List.forall_mem_append.2 ⟨fun _ => isDigit_of_mem_zeros, hall⟩, rfl⟩
      simp [hcons]

/-- A decimal with an exponent: a point stands after the first digit if there are more. -/
theorem writeScientific_cases : ∃ c rest, c.isDigit = true ∧ (∀ c ∈ rest, c.isDigit = true) ∧
    l.writeScientific d = c :: (if rest = [] then [] else '.' :: rest) ++
      'e' :: (if d.leading < 0 then ['-'] else if l.plus then ['+'] else []) ++
        Nat.toDigits 10 d.leading.natAbs := by
  obtain ⟨c, rest, hdigits, -⟩ := (isWhole_toDigits d.coefficient).start
  have hcons : d.digits = c :: rest := hdigits
  have hall : ∀ c ∈ d.digits, c.isDigit = true := fun _ => isDigit_of_mem_toDigits
  rw [hcons, List.forall_mem_cons] at hall
  refine ⟨c, rest, hall.1, hall.2, ?_⟩
  unfold writeScientific
  rw [hcons]
  cases rest <;> simp

/-- A decimal is written in one of two forms. -/
theorem writeDecimal_cases (hpoint : l.point = true) :
    (∃ whole fraction, IsWhole whole ∧ fraction ≠ [] ∧ (∀ c ∈ fraction, c.isDigit = true) ∧
      l.writeDecimal d = whole ++ '.' :: fraction) ∨
    ∃ c rest, c.isDigit = true ∧ (∀ c ∈ rest, c.isDigit = true) ∧
      l.writeDecimal d = c :: (if rest = [] then [] else '.' :: rest) ++
        'e' :: (if d.leading < 0 then ['-'] else if l.plus then ['+'] else []) ++
          Nat.toDigits 10 d.leading.natAbs := by
  unfold writeDecimal
  split
  · -- zero has no digits of its own
    exact .inl ⟨['0'], ['0'], .singleton rfl, List.cons_ne_nil _ _, List.forall_mem_singleton.2 rfl,
      rfl⟩
  · next hd =>
    split
    · exact .inl (l.writePlain_cases d hpoint hd)
    · exact .inr (l.writeScientific_cases d)

theorem writeDecimal_start (hpoint : l.point = true) : ∃ c rest, l.writeDecimal d = c :: rest ∧
    c.isDigit = true := by
  rcases l.writeDecimal_cases d hpoint with ⟨whole, fraction, hwhole, -, -, hwrite⟩ |
    ⟨c, rest, hc, -, hwrite⟩
  · obtain ⟨c, rest, rfl, -⟩ := hwhole.start
    exact ⟨c, _, hwrite, hwhole.digits c List.mem_cons_self⟩
  · exact ⟨c, _, hwrite, hc⟩

end Layout

/-! ## Characters of numbers -/

/-- A character that numbers are spelled with. -/
def IsNumeral (c : Char) : Prop := c.isDigit = true ∨ c ∈ ['.', '-', '+', 'e']

theorem IsNumeral.of_isDigit {c : Char} (h : c.isDigit = true) : IsNumeral c := .inl h

theorem isNumeral_toDigits (n : Nat) : ∀ c ∈ Nat.toDigits 10 n, IsNumeral c := fun _ hc =>
  .inl (isDigit_of_mem_toDigits hc)

theorem isNumeral_zeros (n : Nat) : ∀ c ∈ List.replicate n '0', IsNumeral c := fun _ hc =>
  .inl (isDigit_of_mem_zeros hc)

namespace Layout

variable (l : Layout) (d : Decimal)

theorem isNumeral_writePlain : ∀ c ∈ l.writePlain d, IsNumeral c := by
  have hdigits : ∀ c ∈ d.digits, IsNumeral c := isNumeral_toDigits d.coefficient
  have hzero : IsNumeral '0' := .inl rfl
  have hpoint : IsNumeral '.' := .inr (by decide)
  unfold writePlain
  split
  · simp only [List.forall_mem_append]
    refine ⟨⟨hdigits, isNumeral_zeros _⟩, ?_⟩
    split <;> simp [hzero, hpoint]
  · split
    · simp only [List.forall_mem_append, List.forall_mem_cons]
      exact ⟨fun c hc => hdigits c (List.mem_of_mem_take hc), hpoint,
        fun c hc => hdigits c (List.mem_of_mem_drop hc)⟩
    · simp only [List.forall_mem_append, List.forall_mem_cons, List.cons_append]
      exact ⟨hzero, hpoint, isNumeral_zeros _, hdigits⟩

theorem isNumeral_writeScientific : ∀ c ∈ l.writeScientific d, IsNumeral c := by
  have hdigits : ∀ c ∈ d.digits, IsNumeral c := isNumeral_toDigits d.coefficient
  have hpoint : IsNumeral '.' := .inr (by decide)
  have hletter : IsNumeral 'e' := .inr (by decide)
  have hsign : ∀ c ∈ if d.leading < 0 then ['-'] else if l.plus then ['+'] else [], IsNumeral c := by
    split
    · simp [IsNumeral]
    · split <;> simp [IsNumeral]
  have hexponent := isNumeral_toDigits d.leading.natAbs
  unfold writeScientific
  revert hdigits
  -- a point follows the first of several digits
  rcases d.digits with - | ⟨first, - | ⟨second, rest⟩⟩ <;>
    simp +contextual only [List.forall_mem_cons, List.forall_mem_append, hpoint, hletter, hsign,
      hexponent, and_self, implies_true]

theorem isNumeral_writeDecimal : ∀ c ∈ l.writeDecimal d, IsNumeral c := by
  unfold writeDecimal
  split
  · split <;> simp [IsNumeral]
  · split
    · exact l.isNumeral_writePlain d
    · exact l.isNumeral_writeScientific d

variable {l d} {f : Format}

/-- The spelling of a finite number: maybe a minus sign, and a decimal. -/
theorem write_of_isFinite {x : Binary f} (h : x.isFinite = true) : ∃ d,
    (l.write x).toList = (if x.isNegative then ['-'] else []) ++ l.writeDecimal d := by
  cases x with
  | nan => cases h
  | signed n r =>
    have hr : r.val < f.top := of_decide_eq_true h
    refine ⟨f.shortest l.tie r, ?_⟩
    simp only [write, if_pos hr, String.toList_ofList]
    rfl

theorem isNumeral_write {x : Binary f} (h : x.isFinite = true) :
    ∀ c ∈ (l.write x).toList, IsNumeral c := by
  obtain ⟨d, hwrite⟩ := write_of_isFinite (l := l) h
  rw [hwrite, List.forall_mem_append]
  refine ⟨?_, l.isNumeral_writeDecimal d⟩
  split <;> simp [IsNumeral]

end Layout

end Striker
