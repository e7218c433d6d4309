import ShaderGraph.Number.Decimal
import Mathlib.Algebra.Order.Field.Power
import Mathlib.Data.Rat.Cast.Order
import Mathlib.Tactic.FieldSimp
import Mathlib.Tactic.Linarith
import Mathlib.Tactic.Positivity
import Mathlib.Tactic.Ring

/-!
# Quotients and magnitudes

The steps of rounding, said about rational numbers: a quotient times a power, the integer next to a
quotient and the power of two below it. A finite magnitude counts the binades below it and the steps
inside its own, and its value is a number of steps times a power of two.
-/
namespace ShaderGraph

/-! ## Quotients -/

theorem scaled_value (base num den : Nat) (e : Int) :
    (((if 0 ≤ e then (num * Nat.pow base e.toNat, den)
        else (num, den * Nat.pow base (-e).toNat)).1 : Nat) : ℚ) /
      ((if 0 ≤ e then (num * Nat.pow base e.toNat, den)
        else (num, den * Nat.pow base (-e).toNat)).2 : Nat) = num / den * base ^ e := by
  split
  · rename_i he
    obtain ⟨k, rfl⟩ := Int.eq_ofNat_of_zero_le he
    simp only [Int.toNat_natCast, Nat.pow_eq, Nat.cast_mul, Nat.cast_pow, zpow_natCast]
    ring
  · rename_i he
    obtain ⟨k, rfl⟩ : ∃ k : Nat, e = -(k : Int) := ⟨(-e).toNat, by omega⟩
    simp only [neg_neg, Int.toNat_natCast, Nat.pow_eq, Nat.cast_mul, Nat.cast_pow, zpow_neg,
      zpow_natCast]
    rw [div_mul_eq_div_div, div_eq_mul_inv _ ((base : ℚ) ^ k)]

theorem scaleRatio_value (num den : Nat) (e : Int) :
    ((scaleRatio num den e).1 : ℚ) / (scaleRatio num den e).2 = num / den * 2 ^ e :=
  scaled_value 2 num den e

theorem scaleRatio_den_pos (num : Nat) {den : Nat} (hden : 0 < den) (e : Int) :
    0 < (scaleRatio num den e).2 := by
  rw [scaleRatio]
  split
  · exact hden
  · exact Nat.mul_pos hden (Nat.pow_pos (by decide))

structure NearInteger (y : ℚ) (m : Nat) : Prop where
  low : (m : ℚ) - 1 / 2 ≤ y
  high : y ≤ m + 1 / 2
  odd : m % 2 = 1 → (m : ℚ) - 1 / 2 < y ∧ y < m + 1 / 2

theorem nearInteger_div {num den m : Nat} (hden : 0 < den) : NearInteger (num / den) m ↔
    2 * (m * den) ≤ 2 * num + den ∧ 2 * num ≤ 2 * (m * den) + den ∧
      (m % 2 = 1 → 2 * (m * den) < 2 * num + den ∧ 2 * num < 2 * (m * den) + den) := by
  have hd : (0 : ℚ) < den := by exact_mod_cast hden
  have hlow : (m : ℚ) - 1 / 2 ≤ num / den ↔ 2 * (m * den) ≤ 2 * num + den := by
    rw [le_div_iff₀ hd, ← Nat.cast_le (α := ℚ)]
    push_cast
    constructor <;> intro h <;> linarith
  have hhigh : (num : ℚ) / den ≤ m + 1 / 2 ↔ 2 * num ≤ 2 * (m * den) + den := by
    rw [div_le_iff₀ hd, ← Nat.cast_le (α := ℚ)]
    push_cast
    constructor <;> intro h <;> linarith
  have hlow' : (m : ℚ) - 1 / 2 < num / den ↔ 2 * (m * den) < 2 * num + den := by
    rw [lt_div_iff₀ hd, ← Nat.cast_lt (α := ℚ)]
    push_cast
    constructor <;> intro h <;> linarith
  have hhigh' : (num : ℚ) / den < m + 1 / 2 ↔ 2 * num < 2 * (m * den) + den := by
    rw [div_lt_iff₀ hd, ← Nat.cast_lt (α := ℚ)]
    push_cast
    constructor <;> intro h <;> linarith
  rw [← hlow, ← hhigh, ← hlow', ← hhigh']
  exact ⟨fun h => ⟨h.low, h.high, h.odd⟩, fun h => ⟨h.1, h.2.1, h.2.2⟩⟩

theorem nearInteger_roundDiv (num : Nat) {den : Nat} (hden : 0 < den) :
    NearInteger (num / den) (roundDiv num den) := by
  have hdiv := Nat.div_add_mod' num den
  have hmod := Nat.mod_lt num hden
  rw [nearInteger_div hden, roundDiv]
  split
  · rw [Nat.succ_mul (num / den)]
    omega
  · omega

theorem floorLog2_spec {num den : Nat} (hnum : 0 < num) (hden : 0 < den) :
    (2 : ℚ) ^ floorLog2 num den ≤ num / den ∧ (num : ℚ) / den < 2 ^ (floorLog2 num den + 1) := by
  have hn : (0 : ℚ) < num := by exact_mod_cast hnum
  have hd : (0 : ℚ) < den := by exact_mod_cast hden
  have hnlow : (2 : ℚ) ^ (Nat.log2 num : ℤ) ≤ num := by exact_mod_cast Nat.log2_self_le hnum.ne'
  have hdlow : (2 : ℚ) ^ (Nat.log2 den : ℤ) ≤ den := by exact_mod_cast Nat.log2_self_le hden.ne'
  have hnhigh : (num : ℚ) < 2 ^ ((Nat.log2 num : ℤ) + 1) := by
    exact_mod_cast (Nat.lt_log2_self (n := num))
  have hdhigh : (den : ℚ) < 2 ^ ((Nat.log2 den : ℤ) + 1) := by
    exact_mod_cast (Nat.lt_log2_self (n := den))
  set guess : ℤ := (Nat.log2 num : ℤ) - Nat.log2 den with hguess
  have hhigh : (num : ℚ) / den < 2 ^ (guess + 1) := by
    rw [div_lt_iff₀ hd]
    calc (num : ℚ) < 2 ^ ((Nat.log2 num : ℤ) + 1) := hnhigh
      _ = 2 ^ (guess + 1) * 2 ^ (Nat.log2 den : ℤ) := by
        rw [← zpow_add₀ (by norm_num)]
        congr 1
        omega
      _ ≤ 2 ^ (guess + 1) * den := by gcongr
  have hlow : (2 : ℚ) ^ (guess - 1) ≤ num / den := by
    rw [le_div_iff₀ hd]
    calc (2 : ℚ) ^ (guess - 1) * den ≤ 2 ^ (guess - 1) * 2 ^ ((Nat.log2 den : ℤ) + 1) := by gcongr
      _ = 2 ^ (Nat.log2 num : ℤ) := by
        rw [← zpow_add₀ (by norm_num)]
        congr 1
        omega
      _ ≤ num := hnlow
  have hdpos := scaleRatio_den_pos num hden (-guess)
  have htest : (scaleRatio num den (-guess)).2 ≤ (scaleRatio num den (-guess)).1 ↔
      (2 : ℚ) ^ guess ≤ num / den := by
    have hv := scaleRatio_value num den (-guess)
    rw [zpow_neg, ← div_eq_mul_inv] at hv
    rw [← one_le_div₀ (by positivity : (0 : ℚ) < 2 ^ guess), ← hv,
      one_le_div₀ (by exact_mod_cast hdpos), Nat.cast_le]
  rw [floorLog2]
  simp only [← hguess]
  split
  · rename_i h
    exact ⟨htest.mp h, hhigh⟩
  · rename_i h
    refine ⟨hlow, ?_⟩
    rw [sub_add_cancel]
    exact lt_of_not_ge fun hge => h (htest.mpr hge)

/-! ## Magnitudes -/

namespace Format

variable {f : Format}

def value (f : Format) (magnitude : Nat) : ℚ := (f.parts magnitude).1 * 2 ^ (f.parts magnitude).2

/-- A magnitude counts the binades below it and the steps inside its own. -/
theorem parts_spec (f : Format) (magnitude : Nat) : ∃ m k : Nat, f.parts magnitude = (m, f.quantum + k) ∧
    magnitude = k * 2 ^ f.fractionBits + m ∧ m < 2 * 2 ^ f.fractionBits ∧
    (k = 0 ∨ 2 ^ f.fractionBits ≤ m) := by
  have hpos : 0 < 2 ^ f.fractionBits := Nat.pow_pos (by decide)
  have hmod := Nat.mod_lt magnitude hpos
  have hdiv := Nat.div_add_mod' magnitude (2 ^ f.fractionBits)
  simp only [parts, Nat.pow_eq]
  split
  · rename_i hfield
    rw [hfield] at hdiv
    exact ⟨magnitude % 2 ^ f.fractionBits, 0, by simp, by omega, by omega, Or.inl rfl⟩
  · rename_i hfield
    obtain ⟨k, hk⟩ := Nat.exists_eq_succ_of_ne_zero hfield
    rw [hk, Nat.succ_mul] at hdiv
    refine ⟨2 ^ f.fractionBits + magnitude % 2 ^ f.fractionBits, k, ?_, by omega, by omega,
      Or.inr (by omega)⟩
    rw [hk]
    simp

theorem parts_eq {m k : Nat} (hm : m < 2 * 2 ^ f.fractionBits) (hk : k = 0 ∨ 2 ^ f.fractionBits ≤ m) :
    f.parts (k * 2 ^ f.fractionBits + m) = (m, f.quantum + k) := by
  have hpos : 0 < 2 ^ f.fractionBits := Nat.pow_pos (by decide)
  rcases Nat.lt_or_ge m (2 ^ f.fractionBits) with hlt | hge
  · obtain rfl : k = 0 := by omega
    simp [parts, Nat.div_eq_of_lt hlt, Nat.mod_eq_of_lt hlt]
  · obtain ⟨r, rfl⟩ := Nat.exists_eq_add_of_le hge
    have hr : r < 2 ^ f.fractionBits := by omega
    have hsum : k * 2 ^ f.fractionBits + (2 ^ f.fractionBits + r) =
        r + 2 ^ f.fractionBits * (k + 1) := by ring
    simp only [parts, Nat.pow_eq, hsum, Nat.add_mul_div_left _ _ hpos, Nat.add_mul_mod_self_left,
      Nat.div_eq_of_lt hr, Nat.mod_eq_of_lt hr]
    simp

theorem parts_pos (f : Format) {magnitude : Nat} (h : 0 < magnitude) :
    0 < (f.parts magnitude).1 := by
  obtain ⟨m, k, hspec, hmag, _, hk⟩ := f.parts_spec magnitude
  have hpos : 0 < 2 ^ f.fractionBits := Nat.pow_pos (by decide)
  rw [hspec]
  rcases hk with rfl | hk <;> omega

theorem value_zero (f : Format) : f.value 0 = 0 := by
  simp [value, parts]

end Format
end ShaderGraph
