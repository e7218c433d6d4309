import ShaderGraph.Proofs.Rounding
import Mathlib.Algebra.Order.Group.Abs
import Mathlib.Order.Monotone.Basic

/-!
# The nearest magnitude

What it means that a magnitude is the one nearest to a number in exact arithmetic: no other finite
magnitude is nearer, of two that are equally near it has the even significand, and it is infinity
from the middle between the greatest finite magnitude and the next power of two on. The numbers
nearest to a magnitude are those in its cell, which ends in the middle to each neighbour. There is
exactly one nearest magnitude for each number, it grows with the number, and `Format.nearest` finds it.
-/
namespace ShaderGraph

namespace Format

variable {f : Format}

/-! ## Values in order -/

/-- The steps of a binade, its end included, are multiples of one power of two. -/
theorem value_eq {m k : Nat} (hm : m ≤ 2 * 2 ^ f.fractionBits)
    (hk : k = 0 ∨ 2 ^ f.fractionBits ≤ m) :
    f.value (k * 2 ^ f.fractionBits + m) = m * 2 ^ (f.quantum + k) := by
  rcases hm.lt_or_eq with hlt | rfl
  · rw [value, parts_eq hlt hk]
  · -- The end is the first step of the next binade.
    have hpos : 0 < 2 ^ f.fractionBits := Nat.pow_pos (by decide)
    have hnext : k * 2 ^ f.fractionBits + 2 * 2 ^ f.fractionBits =
        (k + 1) * 2 ^ f.fractionBits + 2 ^ f.fractionBits := by ring
    rw [value, hnext, parts_eq (by omega) (Or.inr le_rfl)]
    push_cast
    rw [show f.quantum + ((k : ℤ) + 1) = 1 + (f.quantum + k) by ring, zpow_add₀ (by norm_num)]
    ring

theorem exists_steps (f : Format) (n : Nat) : ∃ m k : Nat, n = k * 2 ^ f.fractionBits + m ∧
    m < 2 * 2 ^ f.fractionBits ∧ (k = 0 ∨ 2 ^ f.fractionBits ≤ m) ∧ f.parts n = (m, f.quantum + k) ∧
    f.value n = m * 2 ^ (f.quantum + k) ∧ f.value (n + 1) = (m + 1 : Nat) * 2 ^ (f.quantum + k) := by
  obtain ⟨m, k, hparts, hn, hm, hk⟩ := f.parts_spec n
  refine ⟨m, k, hn, hm, hk, hparts, ?_, ?_⟩
  · rw [hn, value_eq hm.le hk]
  · rw [hn, Nat.add_assoc, value_eq (by omega) (by omega)]

theorem value_strictMono (f : Format) : StrictMono f.value := by
  refine strictMono_nat_of_lt_succ fun n => ?_
  obtain ⟨m, k, _, _, _, _, hn, hnext⟩ := f.exists_steps n
  rw [hn, hnext]
  gcongr
  exact Nat.lt_succ_self m

/-- The point halfway between a magnitude and the next one. Infinity counts as the power of two after
the finite magnitudes. -/
def middle (f : Format) (n : Nat) : ℚ := (f.value n + f.value (n + 1)) / 2

def limit (f : Format) : ℚ := f.middle (f.infinity - 1)

theorem value_lt_middle (f : Format) (n : Nat) : f.value n < f.middle n := by
  have := f.value_strictMono (Nat.lt_succ_self n)
  rw [middle]
  linarith

theorem middle_lt_value (f : Format) (n : Nat) : f.middle n < f.value (n + 1) := by
  have := f.value_strictMono (Nat.lt_succ_self n)
  rw [middle]
  linarith

theorem middle_strictMono (f : Format) : StrictMono f.middle :=
  strictMono_nat_of_lt_succ fun n => (f.middle_lt_value n).trans (f.value_lt_middle (n + 1))

theorem middle_eq {m k : Nat} (hm : m < 2 * 2 ^ f.fractionBits) (hk : k = 0 ∨ 2 ^ f.fractionBits ≤ m) :
    f.middle (k * 2 ^ f.fractionBits + m) = (m + 1 / 2) * 2 ^ (f.quantum + k) := by
  rw [middle, Nat.add_assoc, value_eq hm.le hk, value_eq (by omega) (by omega)]
  push_cast
  ring

/-! ## Cells -/

inductive IsNearest (f : Format) (x : ℚ) : Nat → Prop
  | infinite : f.limit ≤ x → IsNearest f x f.infinity
  | finite {n : Nat} : x < f.limit → n < f.infinity →
      (∀ other < f.infinity, |f.value n - x| ≤ |f.value other - x|) →
      (∀ other < f.infinity, other ≠ n → |f.value n - x| = |f.value other - x| →
        (f.parts n).1 % 2 = 0) →
      IsNearest f x n

/-- The number lies between the middles around the magnitude. They belong to the even magnitudes. -/
structure InCell (f : Format) (x : ℚ) (n : Nat) : Prop where
  bounded : n ≤ f.infinity
  low : ∀ k, k + 1 = n → f.middle k ≤ x ∧ (n % 2 = 1 → f.middle k < x)
  high : n < f.infinity → x ≤ f.middle n ∧ (n % 2 = 1 → x < f.middle n)

section Cells

variable {x y : ℚ} {n n' : Nat}

theorem InCell.mono (h : f.InCell x n) (h' : f.InCell y n') (hxy : x ≤ y) : n ≤ n' := by
  by_contra hlt
  obtain ⟨k, rfl⟩ : ∃ k, n = k + 1 := ⟨n - 1, by omega⟩
  have hbounded := h.bounded
  obtain ⟨hlow, hlow'⟩ := h.low k rfl
  obtain ⟨hhigh, hhigh'⟩ := h'.high (by omega)
  -- Between the two there is one middle, and of its two magnitudes only the even one has it.
  obtain rfl : k = n' := by
    have hle : f.middle k ≤ f.middle n' := (hlow.trans hxy).trans hhigh
    have := f.middle_strictMono.le_iff_le.mp hle
    omega
  rcases Nat.mod_two_eq_zero_or_one k with heven | hodd
  · have := hlow' (by omega)
    linarith
  · have := hhigh' hodd
    linarith

theorem InCell.unique (h : f.InCell x n) (h' : f.InCell x n') : n = n' :=
  le_antisymm (h.mono h' le_rfl) (h'.mono h le_rfl)

theorem inCell_value (hn : n ≤ f.infinity) : f.InCell (f.value n) n := by
  refine ⟨hn, ?_, fun _ => ⟨(f.value_lt_middle n).le, fun _ => f.value_lt_middle n⟩⟩
  rintro k rfl
  exact ⟨(f.middle_lt_value k).le, fun _ => f.middle_lt_value k⟩

/-- Every other magnitude lies beyond one of the two middles, so it is not nearer. -/
theorem InCell.closest (h : f.InCell x n) (hlt : n < f.infinity) {other : Nat} (hne : other ≠ n) :
    |f.value n - x| ≤ |f.value other - x| ∧
      (n % 2 = 1 → |f.value n - x| < |f.value other - x|) := by
  obtain ⟨hhigh, hhigh'⟩ := h.high hlt
  have hn := f.value_lt_middle n
  have hmiddle : 2 * f.middle n = f.value n + f.value (n + 1) := by rw [middle]; ring
  rcases Nat.lt_or_gt_of_ne hne with hless | hmore
  · obtain ⟨k, rfl⟩ : ∃ k, n = k + 1 := ⟨n - 1, by omega⟩
    obtain ⟨hlow, hlow'⟩ := h.low k rfl
    have hk : f.value other ≤ f.value k := f.value_strictMono.monotone (by omega)
    have hkm := f.value_lt_middle k
    have hmk : 2 * f.middle k = f.value k + f.value (k + 1) := by rw [middle]; ring
    rw [abs_of_nonpos (by linarith : f.value other - x ≤ 0)]
    constructor
    · rw [abs_le]
      constructor <;> linarith
    · intro hodd
      have := hlow' hodd
      rw [abs_lt]
      constructor <;> linarith
  · have hk : f.value (n + 1) ≤ f.value other := f.value_strictMono.monotone hmore
    have hm := f.middle_lt_value n
    rw [abs_of_nonneg (by linarith : 0 ≤ f.value other - x)]
    constructor
    · rw [abs_le]
      constructor <;> linarith
    · intro hodd
      have := hhigh' hodd
      rw [abs_lt]
      constructor <;> linarith

end Cells

/-! ## Steps of a binade -/

section Steps

variable {y : ℚ} {m k : Nat}

theorem steps_of_near (hnear : NearInteger y m) (hbottom : k = 0 ∨ (2 ^ f.fractionBits : ℚ) ≤ y)
    (htop : y < 2 * 2 ^ f.fractionBits) :
    m ≤ 2 * 2 ^ f.fractionBits ∧ (k = 0 ∨ 2 ^ f.fractionBits ≤ m) := by
  constructor
  · have hlow := hnear.low
    have hlt : (m : ℚ) < (2 * 2 ^ f.fractionBits + 1 : Nat) := by
      push_cast
      linarith
    exact Nat.lt_succ_iff.mp (Nat.cast_lt.mp hlt)
  · refine hbottom.imp_right fun hle => ?_
    have hhigh := hnear.high
    have hlt : ((2 ^ f.fractionBits : Nat) : ℚ) < (m + 1 : Nat) := by
      push_cast
      linarith
    exact Nat.lt_succ_iff.mp (Nat.cast_lt.mp hlt)

theorem middle_le_of_near (hnear : NearInteger y m) (hbottom : k = 0 ∨ (2 ^ f.fractionBits : ℚ) ≤ y)
    (htop : y < 2 * 2 ^ f.fractionBits) {j : Nat} (hj : j + 1 = k * 2 ^ f.fractionBits + m) :
    f.middle j ≤ y * 2 ^ (f.quantum + k) ∧
      (m % 2 = 1 → f.middle j < y * 2 ^ (f.quantum + k)) := by
  obtain ⟨hm, hmk⟩ := steps_of_near hnear hbottom htop
  by_cases hfirst : k ≠ 0 ∧ m = 2 ^ f.fractionBits
  · -- Below its first step the binade ends, and the number is not below it.
    have hle : f.value (j + 1) ≤ y * 2 ^ (f.quantum + k) := by
      rw [hj, value_eq hm hmk, hfirst.2]
      push_cast
      have := hbottom.resolve_left hfirst.1
      gcongr
    have hlt := (f.middle_lt_value j).trans_le hle
    exact ⟨hlt.le, fun _ => hlt⟩
  · obtain ⟨i, rfl⟩ : ∃ i, m = i + 1 := by
      have hpos : 0 < 2 ^ f.fractionBits := Nat.pow_pos (by decide)
      refine ⟨m - 1, ?_⟩
      rcases hmk with rfl | hmk <;> omega
    obtain rfl : j = k * 2 ^ f.fractionBits + i := by omega
    have hhalf : ((i : ℚ) + 1 / 2) = (i + 1 : Nat) - 1 / 2 := by
      push_cast
      ring
    rw [middle_eq (by omega) (by omega), hhalf]
    have hlow := hnear.low
    refine ⟨by gcongr, fun hodd => ?_⟩
    have := (hnear.odd hodd).1
    gcongr

theorem le_middle_of_near (hnear : NearInteger y m) (hbottom : k = 0 ∨ (2 ^ f.fractionBits : ℚ) ≤ y)
    (htop : y < 2 * 2 ^ f.fractionBits) :
    y * 2 ^ (f.quantum + k) ≤ f.middle (k * 2 ^ f.fractionBits + m) ∧
      (m % 2 = 1 → y * 2 ^ (f.quantum + k) < f.middle (k * 2 ^ f.fractionBits + m)) := by
  obtain ⟨hm, hmk⟩ := steps_of_near hnear hbottom htop
  rcases hm.lt_or_eq with hlt | rfl
  · rw [middle_eq hlt hmk]
    have hhigh := hnear.high
    refine ⟨by gcongr, fun hodd => ?_⟩
    have := (hnear.odd hodd).2
    gcongr
  · -- The last step is the next power of two, which the number does not reach.
    have hlt : y * 2 ^ (f.quantum + k) < f.value (k * 2 ^ f.fractionBits + 2 * 2 ^ f.fractionBits) := by
      rw [value_eq hm hmk]
      push_cast
      gcongr
    have hmiddle := hlt.trans (f.value_lt_middle _)
    exact ⟨hmiddle.le, fun _ => hmiddle⟩

end Steps

/-! ## Nearest magnitudes are those of the cells -/

class Proper (f : Format) : Prop where
  fraction : 1 ≤ f.fractionBits
  exponent : 1 ≤ f.exponentBits

instance : Proper .binary16 := ⟨by decide, by decide⟩
instance : Proper .binary32 := ⟨by decide, by decide⟩
instance : Proper .binary64 := ⟨by decide, by decide⟩

section Proper

variable [hf : f.Proper] {x : ℚ} {n : Nat}

theorem two_dvd_binade : 2 ∣ 2 ^ f.fractionBits := dvd_pow_self 2 (by have := hf.fraction; omega)

theorem infinity_even : f.infinity % 2 = 0 :=
  Nat.mod_eq_zero_of_dvd (Dvd.dvd.mul_left two_dvd_binade _)

theorem infinity_positive : 0 < f.infinity := by
  have htwo : 2 ^ 1 ≤ 2 ^ f.exponentBits := Nat.pow_le_pow_right (by decide) hf.exponent
  exact Nat.mul_pos (by simp only [Nat.pow_eq]; omega) (Nat.pow_pos (by decide))

theorem steps_mod_two (m k : Nat) : (k * 2 ^ f.fractionBits + m) % 2 = m % 2 := by
  obtain ⟨c, hc⟩ := two_dvd_binade (f := f)
  have hk : k * 2 ^ f.fractionBits = 2 * (k * c) := by rw [hc]; ring
  omega

theorem parts_mod_two (n : Nat) : (f.parts n).1 % 2 = n % 2 := by
  obtain ⟨m, k, hparts, hn, _, _⟩ := f.parts_spec n
  rw [hparts, hn, steps_mod_two]

theorem InCell.isNearest (h : f.InCell x n) : f.IsNearest x n := by
  have hpos := infinity_positive (f := f)
  have heven := infinity_even (f := f)
  rcases h.bounded.lt_or_eq with hlt | rfl
  · obtain ⟨hhigh, hhigh'⟩ := h.high hlt
    have hlimit : x < f.limit := by
      rcases (Nat.le_sub_one_of_lt hlt).lt_or_eq with hn | hn
      · exact hhigh.trans_lt (f.middle_strictMono hn)
      · rw [limit, ← hn]
        exact hhigh' (by omega)
    refine .finite hlimit hlt (fun other _ => ?_) fun other _ hne htie => ?_
    · by_cases hne : other = n
      · rw [hne]
      · exact (h.closest hlt hne).1
    · rw [parts_mod_two]
      by_contra hodd
      exact absurd htie ((h.closest hlt hne).2 (by omega)).ne
  · exact .infinite (h.low _ (Nat.sub_add_cancel hpos)).1

theorem IsNearest.inCell (h : f.IsNearest x n) : f.InCell x n := by
  have hpos := infinity_positive (f := f)
  have heven := infinity_even (f := f)
  cases h with
  | infinite hlimit =>
    refine ⟨le_rfl, fun k hk => ⟨?_, by omega⟩, fun h => absurd h (lt_irrefl _)⟩
    rw [limit, ← hk] at hlimit
    exact hlimit
  | finite hlimit hlt hnear htie =>
    refine ⟨hlt.le, fun k hk => ?_, fun _ => ?_⟩
    · have hmk : 2 * f.middle k = f.value k + f.value n := by rw [middle, hk]; ring
      have hvalues : f.value k < f.value n := f.value_strictMono (by omega)
      have hle : f.middle k ≤ x := by
        by_contra hx
        have hd := hnear k (by omega)
        rw [abs_of_nonneg (by linarith : 0 ≤ f.value n - x)] at hd
        rcases abs_cases (f.value k - x) with ⟨habs, _⟩ | ⟨habs, _⟩ <;> linarith
      refine ⟨hle, fun hodd => lt_of_le_of_ne hle fun hx => ?_⟩
      have := htie k (by omega) (by omega) (by
        rw [abs_of_nonneg (by linarith : 0 ≤ f.value n - x),
          abs_of_nonpos (by linarith : f.value k - x ≤ 0)]
        linarith)
      rw [parts_mod_two] at this
      omega
    · rcases (show n + 1 ≤ f.infinity from hlt).lt_or_eq with hnext | hnext
      · have hmn : 2 * f.middle n = f.value n + f.value (n + 1) := by rw [middle]; ring
        have hvalues : f.value n < f.value (n + 1) := f.value_strictMono (Nat.lt_succ_self n)
        have hle : x ≤ f.middle n := by
          by_contra hx
          have hd := hnear (n + 1) hnext
          rw [abs_of_nonpos (by linarith : f.value n - x ≤ 0)] at hd
          rcases abs_cases (f.value (n + 1) - x) with ⟨habs, _⟩ | ⟨habs, _⟩ <;> linarith
        refine ⟨hle, fun hodd => lt_of_le_of_ne hle fun hx => ?_⟩
        have := htie (n + 1) hnext (by omega) (by
          rw [abs_of_nonpos (by linarith : f.value n - x ≤ 0),
            abs_of_nonneg (by linarith : 0 ≤ f.value (n + 1) - x)]
          linarith)
        rw [parts_mod_two] at this
        omega
      · rw [limit, ← hnext, Nat.add_sub_cancel] at hlimit
        exact ⟨hlimit.le, fun _ => hlimit⟩

theorem isNearest_iff : f.IsNearest x n ↔ f.InCell x n := ⟨IsNearest.inCell, InCell.isNearest⟩

/-! ## The search for it -/

/-- The binade that `nearest` rounds in: there the number has at most one digit more than the
fraction, and no digit less unless the binade is the least one. -/
theorem exists_binade (f : Format) {num den : Nat} (hnum : 0 < num) (hden : 0 < den) :
    ∃ k : Nat, max (floorLog2 num den - f.fractionBits) f.quantum = f.quantum + k ∧
      (k = 0 ∨ (2 ^ f.fractionBits : ℚ) ≤ num / den * 2 ^ (-(f.quantum + k))) ∧
      (num : ℚ) / den * 2 ^ (-(f.quantum + k)) < 2 * 2 ^ f.fractionBits := by
  obtain ⟨k, hk⟩ : ∃ k : Nat, max (floorLog2 num den - f.fractionBits) f.quantum = f.quantum + k :=
    ⟨(max (floorLog2 num den - f.fractionBits) f.quantum - f.quantum).toNat, by omega⟩
  obtain ⟨hlogLow, hlogHigh⟩ := floorLog2_spec hnum hden
  have hpow : (0 : ℚ) < 2 ^ (f.quantum + k) := by positivity
  refine ⟨k, hk, ?_⟩
  rw [zpow_neg, ← div_eq_mul_inv]
  constructor
  · by_cases h0 : k = 0
    · exact Or.inl h0
    · refine Or.inr ?_
      rw [le_div_iff₀ hpow, ← zpow_natCast, ← zpow_add₀ (by norm_num)]
      calc (2 : ℚ) ^ ((f.fractionBits : ℤ) + (f.quantum + k)) ≤ 2 ^ floorLog2 num den :=
          zpow_le_zpow_right₀ (by norm_num) (by omega)
        _ ≤ num / den := hlogLow
  · rw [div_lt_iff₀ hpow]
    calc (num : ℚ) / den < 2 ^ (floorLog2 num den + 1) := hlogHigh
      _ ≤ 2 ^ (1 + (f.fractionBits : ℤ) + (f.quantum + k)) :=
        zpow_le_zpow_right₀ (by norm_num) (by omega)
      _ = 2 * 2 ^ f.fractionBits * 2 ^ (f.quantum + k) := by
        rw [zpow_add₀ (by norm_num), zpow_add₀ (by norm_num), zpow_one, zpow_natCast]

theorem inCell_nearest (num : Nat) {den : Nat} (hden : 0 < den) :
    f.InCell (num / den) (f.nearest num den) := by
  have heven := infinity_even (f := f)
  rcases Nat.eq_zero_or_pos num with rfl | hnum
  · rw [nearest, if_pos rfl, Nat.cast_zero, zero_div, ← f.value_zero]
    exact inCell_value (Nat.zero_le _)
  obtain ⟨k, hk, hbottom, htop⟩ := f.exists_binade hnum hden
  have hnear := nearInteger_roundDiv (scaleRatio num den (-(f.quantum + k))).1
    (scaleRatio_den_pos num hden (-(f.quantum + k)))
  rw [scaleRatio_value] at hnear
  have hscale : (num : ℚ) / den * 2 ^ (-(f.quantum + k)) * 2 ^ (f.quantum + k) = num / den := by
    rw [mul_assoc, ← zpow_add₀ (by norm_num), neg_add_cancel, zpow_zero, mul_one]
  rw [nearest, if_neg hnum.ne']
  simp only [hk, Nat.pow_eq]
  rw [show (f.quantum + k - f.quantum).toNat = k by omega]
  generalize roundDiv (scaleRatio num den (-(f.quantum + k))).1
    (scaleRatio num den (-(f.quantum + k))).2 = m at hnear
  have hcell (j : Nat) (hj : j + 1 = k * 2 ^ f.fractionBits + m) :=
    middle_le_of_near hnear hbottom htop hj
  rw [hscale] at hcell
  rcases Nat.le_total (k * 2 ^ f.fractionBits + m) f.infinity with hle | hge
  · have hcell' := le_middle_of_near hnear hbottom htop
    rw [hscale] at hcell'
    rw [Nat.min_eq_right hle]
    exact ⟨hle, fun j hj => by rw [steps_mod_two]; exact hcell j hj,
      fun _ => by rw [steps_mod_two]; exact hcell'⟩
  · rw [Nat.min_eq_left hge]
    refine ⟨le_rfl, fun j hj => ⟨?_, by omega⟩, fun h => absurd h (lt_irrefl _)⟩
    obtain ⟨i, hi⟩ : ∃ i, i + 1 = k * 2 ^ f.fractionBits + m := ⟨k * 2 ^ f.fractionBits + m - 1, by omega⟩
    have hji : f.middle j ≤ f.middle i := f.middle_strictMono.monotone (by omega)
    exact hji.trans (hcell i hi).1

theorem nearest_of_inCell {num den : Nat} (hden : 0 < den) (h : f.InCell (num / den) n) :
    f.nearest num den = n := (inCell_nearest num hden).unique h

theorem nearest_of_value {num den : Nat} (hn : n < f.infinity) (hden : 0 < den)
    (h : (num : ℚ) / den = f.value n) : f.nearest num den = n :=
  nearest_of_inCell hden (h ▸ inCell_value hn.le)

theorem isNearest_nearest (num : Nat) {den : Nat} (hden : 0 < den) :
    f.IsNearest (num / den) (f.nearest num den) := (inCell_nearest num hden).isNearest

end Proper

end Format
end ShaderGraph
