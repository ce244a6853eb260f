/-
The order of binary numbers. Numbers compare as their places on the line of ranks do, and a higher
rank has no smaller magnitude. So of two numbers that are not negative, the one that compares as the
larger has at least as many least units.
-/
import Striker.Number.Binary
import Mathlib.Tactic

namespace Striker

/-! ## Magnitudes -/

namespace Format

variable {f : Format}

theorem octave_pos (f : Format) : 0 < f.octave := Nat.pow_pos (by decide)

theorem units_of_lt {rank : Nat} (h : rank < f.octave) : f.units rank = rank := if_pos h

/-- The magnitude of a rank, counted in whole octaves. -/
theorem units_octave (q : Nat) (r : Nat) (hr : r < f.octave) :
    f.units ((q + 1) * f.octave + r) = (f.octave + r) * Nat.pow 2 q := by
  have hdiv : ((q + 1) * f.octave + r) / f.octave = q + 1 := by
    rw [Nat.mul_comm, Nat.mul_add_div f.octave_pos, Nat.div_eq_of_lt hr, Nat.add_zero]
  have hmod : ((q + 1) * f.octave + r) % f.octave = r := by
    rw [Nat.mul_comm, Nat.mul_add_mod, Nat.mod_eq_of_lt hr]
  unfold units
  rw [if_neg, hdiv, hmod, Nat.add_sub_cancel]
  rw [Nat.add_mul, Nat.one_mul]
  omega

/-- The next rank has no smaller magnitude. -/
theorem units_le_succ (rank : Nat) : f.units rank ≤ f.units (rank + 1) := by
  have hpos := f.octave_pos
  rcases Nat.lt_or_ge rank f.octave with hlow | hhigh
  · -- below the first octave a rank is its magnitude, and the first octave goes on with that
    rw [units_of_lt hlow]
    rcases Nat.lt_or_ge (rank + 1) f.octave with hnext | hnext
    · rw [units_of_lt hnext]
      exact Nat.le_succ rank
    · have hfirst : rank + 1 = (0 + 1) * f.octave + 0 := by omega
      rw [hfirst, units_octave 0 0 hpos, Nat.add_zero, Nat.pow_eq, Nat.pow_zero, Nat.mul_one]
      exact Nat.le_of_lt hlow
  · obtain ⟨q, r, hr, rfl⟩ : ∃ q r, r < f.octave ∧ rank = (q + 1) * f.octave + r := by
      refine ⟨rank / f.octave - 1, rank % f.octave, Nat.mod_lt _ hpos, ?_⟩
      rw [Nat.sub_add_cancel ((Nat.one_le_div_iff hpos).2 hhigh)]
      exact (Nat.div_add_mod' rank f.octave).symm
    rw [units_octave q r hr]
    rcases Nat.lt_or_ge (r + 1) f.octave with hnext | hnext
    · rw [Nat.add_assoc, units_octave q (r + 1) hnext]
      exact Nat.mul_le_mul_right _ (Nat.le_succ _)
    · -- the last rank of an octave is one of its steps below the first of the next
      have hlast : (q + 1) * f.octave + r + 1 = (q + 1 + 1) * f.octave + 0 := by
        rw [Nat.succ_mul (q + 1)]; omega
      rw [hlast, units_octave (q + 1) 0 hpos]
      have hpow : Nat.pow 2 (q + 1) = 2 * Nat.pow 2 q := Nat.pow_succ'
      rw [hpow, Nat.add_zero, ← Nat.mul_assoc, Nat.mul_comm f.octave 2]
      exact Nat.mul_le_mul_right _ (by omega)

theorem units_mono : Monotone f.units := monotone_nat_of_le_succ units_le_succ

end Format

/-! ## Comparisons -/

namespace Binary

variable {f : Format} {a b c : Binary f}

theorem less_of_less_of_atMost (hab : a.less b = true) (hbc : b.atMost c = true) : a.less c = true := by
  unfold less at hab ⊢
  unfold atMost at hbc
  cases ha : a.place? <;> cases hb : b.place? <;> cases hc : c.place? <;>
    simp only [ha, hb, hc, decide_eq_true_eq, reduceCtorEq] at hab hbc ⊢
  exact Int.lt_of_lt_of_le hab hbc

theorem atMost_iff : a.atMost b = true ↔ ∃ x y, a.place? = some x ∧ b.place? = some y ∧ x ≤ y := by
  unfold atMost
  cases a.place? <;> cases b.place? <;> simp

/-- A number in a place that is not negative has the magnitude of the rank of the same number. -/
theorem units_of_place {x : Int} (h : a.place? = some x) (h0 : 0 ≤ x) : a.units = f.units x.toNat := by
  cases a with
  | nan => cases h
  | signed n r =>
    obtain rfl : (if n then -(r.val : Int) else r.val) = x := Option.some.inj h
    refine congrArg f.units ?_
    cases n
    · rfl
    · simp only [if_true] at h0 ⊢
      omega

/-- Only the two zeros share a place. -/
theorem eq_of_place {x : Int} (ha : a.place? = some x) (hb : b.place? = some x) (h0 : 0 < x) :
    a = b := by
  have hpositive : ∀ c : Binary f, c.place? = some x → ∃ r, c = signed false r ∧ (r.val : Int) = x := by
    intro c hc
    cases c with
    | nan => cases hc
    | signed n r =>
      have hx := Option.some.inj hc
      cases n
      · exact ⟨r, rfl, hx⟩
      · simp only [if_true] at hx
        omega
  obtain ⟨r, rfl, hr⟩ := hpositive a ha
  obtain ⟨r', rfl, hr'⟩ := hpositive b hb
  rw [Fin.ext (Int.ofNat_inj.1 (hr.trans hr'.symm))]

/-! ## Chances -/

theorem place_zero : (0 : Double).place? = some 0 := by decide +kernel

theorem place_one : (1 : Double).place? = some 4607182418800017408 := by decide +kernel

/-- Of two chances the higher has no smaller magnitude. -/
theorem units_le_of_atMost {p q : Double} (hp : atMost 0 p = true) (hpq : p.atMost q = true) :
    p.units ≤ q.units := by
  obtain ⟨z, x, hz, hx, hle⟩ := atMost_iff.1 hp
  obtain ⟨x', y, hx', hy, hle'⟩ := atMost_iff.1 hpq
  rw [place_zero] at hz
  rw [hx] at hx'
  cases hz
  cases hx'
  rw [units_of_place hx hle, units_of_place hy (Int.le_trans hle hle')]
  exact Format.units_mono (Int.toNat_le_toNat hle')

/-- A chance that is as high as one is one. -/
theorem eq_one_of_atMost {q : Double} (h : atMost 1 q = true) (h' : q.atMost 1 = true) : q = 1 := by
  obtain ⟨one, x, h1, hx, hle⟩ := atMost_iff.1 h
  obtain ⟨x', one', hx', h1', hle'⟩ := atMost_iff.1 h'
  rw [place_one] at h1 h1'
  rw [hx] at hx'
  cases h1
  cases h1'
  cases hx'
  exact eq_of_place (hx.trans (congrArg some (Int.le_antisymm hle' hle))) place_one (by decide)

end Binary

end Striker
