/-
The lines of a log. JSON text stays on one line: strings escape their control characters, numbers are
spelled with digits, signs, points and the letter of the exponent, and nothing but punctuation is put
between the parts of a list or a table. So no datum, whatever its strings hold, is written with a control
character, and the text of a log, taken apart at the line ends, gives back the text of each entry.
-/
import Mathlib.Tactic.SplitIfs
import Striker.Proofs.Number.Spelling
import Striker.Trace.Log

namespace Striker

/-! ## Characters that stay on a line -/

/-- Text without control characters. -/
def Inline (cs : List Char) : Prop := ∀ c ∈ cs, 32 ≤ c.toNat

namespace Inline

@[simp] theorem nil : Inline [] := List.forall_mem_nil _

@[simp] theorem cons_iff {c : Char} {cs : List Char} : Inline (c :: cs) ↔ 32 ≤ c.toNat ∧ Inline cs :=
  List.forall_mem_cons

@[simp] theorem append_iff {cs ds : List Char} : Inline (cs ++ ds) ↔ Inline cs ∧ Inline ds :=
  List.forall_mem_append

theorem newline {cs : List Char} (h : Inline cs) : '\n' ∉ cs := fun hc =>
  absurd (h '\n' hc) (by decide)

/-- Numbers are spelled on a line. -/
theorem of_isNumeral {cs : List Char} (h : ∀ c ∈ cs, IsNumeral c) : Inline cs := by
  intro c hc
  rcases h c hc with hdigit | hother
  · simp only [Char.isDigit, Bool.and_eq_true, decide_eq_true_eq] at hdigit
    exact Nat.le_trans (by decide) (UInt32.le_iff_toNat_le.1 hdigit.1)
  · have hall : ∀ c ∈ ['.', '-', '+', 'e'], 32 ≤ c.toNat := by simp
    exact hall c hother

theorem digits (n : Nat) : Inline (Nat.toDigits 10 n) := of_isNumeral (isNumeral_toDigits n)

end Inline

/-! ## Numbers -/

/-- A layout whose three words are on a line spells every number on a line. -/
theorem Layout.inline_write {f : Format} {l : Layout} (hnan : Inline l.nan.toList)
    (hinfinity : Inline l.infinity.toList) (hnegative : Inline l.negativeInfinity.toList)
    (x : Binary f) : Inline (l.write x).toList := by
  cases x with
  | nan => exact hnan
  | signed n r =>
    by_cases hr : r.val < f.top
    · exact Inline.of_isNumeral (isNumeral_write (decide_eq_true hr))
    · cases n <;> simp [write, hr, hnegative, hinfinity]

/-! ## Data -/

namespace Json

theorem digitChar_inline : ∀ n < 16, 32 ≤ (Nat.digitChar n).toNat := by decide

theorem inline_escape (c : Char) : Inline (escape c) := by
  unfold escape
  split_ifs with hquote h8 h9 h10 h12 h13 hcontrol
  · rcases hquote with rfl | rfl <;> simp
  · simp
  · simp
  · simp
  · simp
  · simp
  · have hhigh := digitChar_inline (c.toNat / 16) (by omega)
    have hlow := digitChar_inline (c.toNat % 16) (by omega)
    simp [hhigh, hlow]
  · simp [Nat.le_of_not_lt hcontrol]

theorem inline_writeString (s : String) : Inline (writeString s) := by
  have hescaped : Inline (s.toList.flatMap escape) := by
    intro c hc
    obtain ⟨d, -, hd⟩ := List.mem_flatMap.1 hc
    exact inline_escape d c hd
  simp [writeString, hescaped]

mutual

/-- The text of a datum has no control character. -/
theorem inline_write (d : Datum) : Inline (write d) := by
  cases d with
  | unit => simp [write]
  | flag b => cases b <;> simp [write, writeFlag]
  | natural n =>
    unfold write
    exact Inline.digits n
  | integer i =>
    have hsign : Inline (if i < 0 then ['-'] else []) := by
      split <;> simp
    simp [write, hsign, Inline.digits]
  | single x =>
    unfold write
    exact Layout.inline_write (by simp [singleLayout]) (by simp [singleLayout])
      (by simp [singleLayout]) x
  | double x =>
    unfold write
    exact Layout.inline_write (by simp [doubleLayout]) (by simp [doubleLayout])
      (by simp [doubleLayout]) x
  | text s =>
    unfold write
    exact inline_writeString s
  | list items => simp [write, inline_writeItems items]
  | table entries => simp [write, inline_writeEntries entries]

theorem inline_writeItems (items : List Datum) : Inline (writeItems items) := by
  match items with
  | [] => simp [writeItems]
  | [d] => simp [writeItems, inline_write d]
  | d :: e :: rest => simp [writeItems, inline_write d, inline_writeItems (e :: rest)]

theorem inline_writeEntries (entries : List (Datum × Datum)) : Inline (writeEntries entries) := by
  match entries with
  | [] => simp [writeEntries]
  | [(key, d)] => simp [writeEntries, inline_write key, inline_write d]
  | (key, d) :: e :: rest =>
    simp [writeEntries, inline_write key, inline_write d, inline_writeEntries (e :: rest)]

end

end Json

/-! ## Logs -/

namespace Log

variable {σ : Type} (status : σ → Datum)

theorem text_toList (l : Log σ) :
    (l.text status).toList = l.entries.flatMap fun e => Json.write (e.datum status) ++ ['\n'] := by
  simp [text, line, Json.text, List.flatMap_map, String.toList_join]

/-- Between the line ends of a log stand its entries, in order, and nothing after the last. -/
theorem lines_text (l : Log σ) : (l.text status).toList.splitOn '\n' =
    l.entries.map (fun e => Json.write (e.datum status)) ++ [[]] := by
  rw [text_toList]
  induction l.entries with
  | nil => rfl
  | cons e rest ih =>
    have hinline := (Json.inline_write (e.datum status)).newline
    rw [List.flatMap_cons, List.append_assoc, List.singleton_append,
      List.splitOn_append_cons_self_of_not_mem hinline, ih]
    rfl

theorem line_getElem? {l : Log σ} {i : Nat} {e : Entry σ}
    (h : l.entries[i]? = some e) :
    ((l.text status).toList.splitOn '\n')[i]? = some (Json.write (e.datum status)) := by
  have hmap : (l.entries.map fun e => Json.write (e.datum status))[i]? =
      some (Json.write (e.datum status)) := by
    rw [List.getElem?_map, h]
    rfl
  obtain ⟨hi, -⟩ := List.getElem?_eq_some_iff.1 hmap
  rw [lines_text, List.getElem?_append_left hi, hmap]

end Log

end Striker
