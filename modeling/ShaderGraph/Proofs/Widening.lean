import ShaderGraph.Proofs.Nearest

/-!
# Conversions between formats

A format holds an integer times a power of two if its digits and its exponent fit, so it holds every
finite value of a narrower format. What a format holds is its own nearest magnitude there. Therefore
converting to a wider format and back is the identity, and integers of few digits can be read off the
numbers that hold them.
-/
namespace ShaderGraph

namespace Format

variable {f g : Format}

theorem exists_value {m : Nat} {e : Int} (hm : 0 < m) (hbits : m < 2 * 2 ^ g.fractionBits)
    (hlow : g.quantum + g.fractionBits ≤ e + Nat.log2 m)
    (hhigh : e + Nat.log2 m + 3 ≤ g.quantum + g.fractionBits + 2 ^ g.exponentBits) :
    ∃ magnitude < g.infinity, g.value magnitude = m * 2 ^ e := by
  have hlogLow := Nat.log2_self_le hm.ne'
  have hlogHigh := Nat.lt_log2_self (n := m)
  have hlog : Nat.log2 m ≤ g.fractionBits := by
    have : Nat.log2 m < g.fractionBits + 1 := (Nat.log2_lt hm.ne').mpr (by rw [Nat.pow_succ]; omega)
    omega
  obtain ⟨s, hs⟩ := Nat.exists_eq_add_of_le hlog
  obtain ⟨k, hk⟩ : ∃ k : Nat, e + Nat.log2 m = g.quantum + g.fractionBits + k :=
    ⟨(e + Nat.log2 m - (g.quantum + g.fractionBits)).toNat, by omega⟩
  have hshift : 2 ^ g.fractionBits = 2 ^ Nat.log2 m * 2 ^ s := by rw [hs, Nat.pow_add]
  have hge : 2 ^ g.fractionBits ≤ m * 2 ^ s := by
    rw [hshift]
    exact Nat.mul_le_mul_right _ hlogLow
  have hlt : m * 2 ^ s < 2 * 2 ^ g.fractionBits := by
    rw [hshift, ← Nat.mul_assoc, ← Nat.pow_succ']
    exact Nat.mul_lt_mul_of_pos_right hlogHigh (Nat.pow_pos (by decide))
  refine ⟨k * 2 ^ g.fractionBits + m * 2 ^ s, ?_, ?_⟩
  · have hk2 : k + 2 ≤ 2 ^ g.exponentBits - 1 := by
      have : ((k + 3 : Nat) : ℤ) ≤ (2 ^ g.exponentBits : Nat) := by
        push_cast
        omega
      omega
    have := Nat.mul_le_mul_right (2 ^ g.fractionBits) hk2
    rw [infinity, Nat.pow_eq, Nat.pow_eq]
    rw [Nat.add_mul] at this
    omega
  · rw [value, parts_eq hlt (Or.inr hge)]
    push_cast
    rw [mul_assoc, ← zpow_natCast, ← zpow_add₀ (by norm_num)]
    congr 2
    omega

structure Embeds (f g : Format) : Prop where
  exponents : 2 ≤ f.exponentBits
  fractions : f.fractionBits ≤ g.fractionBits
  quanta : g.quantum + g.fractionBits ≤ f.quantum
  ranges : f.quantum + f.fractionBits + 2 ^ f.exponentBits ≤
    g.quantum + g.fractionBits + 2 ^ g.exponentBits

theorem half_embeds : Embeds .binary16 .binary32 := ⟨by decide, by decide, by decide, by decide⟩

theorem single_embeds : Embeds .binary32 .binary64 := ⟨by decide, by decide, by decide, by decide⟩

theorem Embeds.exists_value [g.Proper] (h : Embeds f g) {magnitude : Nat}
    (hfinite : magnitude < f.infinity) :
    ∃ magnitude' < g.infinity, g.value magnitude' = f.value magnitude := by
  have hquanta := h.quanta
  have hranges := h.ranges
  have hfour : 2 ^ 2 ≤ 2 ^ f.exponentBits := Nat.pow_le_pow_right (by decide) h.exponents
  rcases Nat.eq_zero_or_pos magnitude with rfl | hpos
  · exact ⟨0, infinity_positive, by rw [value_zero, value_zero]⟩
  · have hm := f.parts_pos hpos
    obtain ⟨m, k, hspec, hmag, hlt, hk⟩ := f.parts_spec magnitude
    rw [hspec] at hm
    change 0 < m at hm
    have hlog : Nat.log2 m < f.fractionBits + 1 :=
      (Nat.log2_lt hm.ne').mpr (by rw [Nat.pow_succ]; omega)
    have hwide : 2 ^ f.fractionBits ≤ 2 ^ g.fractionBits := Nat.pow_le_pow_right (by decide) h.fractions
    have hexp : k + 3 ≤ 2 ^ f.exponentBits := by
      rcases hk with rfl | hk
      · omega
      · have hmul : (k + 1) * 2 ^ f.fractionBits < (2 ^ f.exponentBits - 1) * 2 ^ f.fractionBits := by
          rw [Nat.succ_mul]
          simp only [infinity, Nat.pow_eq] at hfinite
          omega
        have := Nat.lt_of_mul_lt_mul_right hmul
        omega
    have hexpZ : (k : ℤ) + 3 ≤ 2 ^ f.exponentBits := by exact_mod_cast hexp
    rw [value, hspec]
    exact Format.exists_value (m := m) (e := f.quantum + k) hm (by omega) (by omega) (by omega)

end Format

namespace Binary

variable {f g : Format}

theorem ratio_den_pos (x : Binary f) : 0 < x.ratio.2 := scaleRatio_den_pos _ Nat.one_pos _

theorem ratio_value (x : Binary f) : (x.ratio.1 : ℚ) / x.ratio.2 = f.value x.magnitude := by
  simp only [ratio, scaleRatio_value, Format.value, Nat.cast_one, div_one]

theorem ofRatio_of_value [f.Proper] {num den magnitude : Nat} (negative : Bool)
    (hfinite : magnitude < f.infinity) (hden : 0 < den) (h : (num : ℚ) / den = f.value magnitude) :
    (ofRatio negative num den : Binary f) = ⟨negative, magnitude⟩ := by
  rw [ofRatio, Format.nearest_of_value hfinite hden h]

theorem convert_of_value [g.Proper] {x : Binary f} {magnitude : Nat} (hx : x.magnitude < f.infinity)
    (hfinite : magnitude < g.infinity) (h : g.value magnitude = f.value x.magnitude) :
    x.convert g = ⟨x.negative, magnitude⟩ := by
  have hnan : x.isNaN = false := by simp [isNaN, hx.le]
  have hinf : x.isInfinite = false := by simp [isInfinite, hx.ne]
  rw [convert, hnan, hinf]
  exact ofRatio_of_value _ hfinite x.ratio_den_pos (x.ratio_value.trans h.symm)

theorem convert_inCell [g.Proper] {x : Binary f} (hx : x.magnitude < f.infinity) :
    (x.convert g).negative = x.negative ∧
      g.InCell (f.value x.magnitude) (x.convert g).magnitude := by
  have hnan : x.isNaN = false := by simp [isNaN, hx.le]
  have hinf : x.isInfinite = false := by simp [isInfinite, hx.ne]
  have hcell := Format.inCell_nearest (f := g) x.ratio.1 x.ratio_den_pos
  rw [x.ratio_value] at hcell
  rw [convert, hnan, hinf]
  exact ⟨rfl, hcell⟩

theorem isNaN_nan : (nan : Binary f).isNaN = true := by
  have : 0 < 2 ^ (f.fractionBits - 1) := Nat.pow_pos (by decide)
  simp [isNaN, nan]

theorem convert_of_isNaN {x : Binary f} (h : x.isNaN = true) : x.convert g = nan := by
  rw [convert, if_pos h]

theorem convert_infinite (negative : Bool) : (infinite negative : Binary f).convert g = infinite negative := by
  simp [convert, infinite, isNaN, isInfinite]

theorem cases_magnitude (x : Binary f) :
    x.isNaN = true ∨ x = infinite x.negative ∨ x.magnitude < f.infinity := by
  obtain ⟨negative, magnitude⟩ := x
  rcases Nat.lt_trichotomy magnitude f.infinity with h | h | h
  · exact Or.inr (Or.inr h)
  · exact Or.inr (Or.inl (by rw [infinite, h]))
  · exact Or.inl (by simp [isNaN, h])

theorem convert_convert [f.Proper] [g.Proper] (h : Format.Embeds f g) (x : Binary f) :
    (x.convert g).convert f = if x.isNaN then nan else x := by
  rcases x.cases_magnitude with hx | hx | hx
  · rw [convert_of_isNaN hx, convert_of_isNaN isNaN_nan, if_pos hx]
  · rw [hx, convert_infinite, convert_infinite, if_neg]
    simp [isNaN, infinite]
  · obtain ⟨magnitude, hfinite, hvalue⟩ := h.exists_value hx
    rw [convert_of_value hx hfinite hvalue, convert_of_value hfinite hx hvalue.symm, if_neg]
    simp [isNaN, hx.le]

theorem toInt?_ofInt [f.Proper] {n : Int} (hbits : n.natAbs < 2 * 2 ^ f.fractionBits)
    (hlow : f.quantum + f.fractionBits ≤ 0)
    (hhigh : (Nat.log2 n.natAbs : Int) + 3 ≤ f.quantum + f.fractionBits + 2 ^ f.exponentBits) :
    (ofInt n : Binary f).toInt? = some n := by
  obtain ⟨magnitude, hfinite, hvalue⟩ : ∃ magnitude < f.infinity, f.value magnitude = n.natAbs := by
    rcases Nat.eq_zero_or_pos n.natAbs with hzero | hpos
    · exact ⟨0, Format.infinity_positive, by rw [Format.value_zero, hzero, Nat.cast_zero]⟩
    · obtain ⟨magnitude, hfinite, hvalue⟩ := Format.exists_value (g := f) (e := 0) hpos hbits
        (by omega) (by omega)
      exact ⟨magnitude, hfinite, by rw [hvalue, zpow_zero, mul_one]⟩
  have hratio : ((n.natAbs : ℚ)) / (1 : Nat) = f.value magnitude := by
    rw [hvalue, Nat.cast_one, div_one]
  rw [ofInt, ofRatio_of_value _ hfinite Nat.one_pos hratio]
  generalize hx : (⟨decide (n < 0), magnitude⟩ : Binary f) = x
  obtain ⟨hsign, hmag⟩ : x.negative = decide (n < 0) ∧ x.magnitude = magnitude := by simp [← hx]
  have hden := x.ratio_den_pos
  have hvalue' := x.ratio_value
  rcases hr : x.ratio with ⟨num, den⟩
  rw [hr, hmag, hvalue] at hvalue'
  rw [hr] at hden
  have hnum : num = n.natAbs * den := by
    have hd : (den : ℚ) ≠ 0 := by exact_mod_cast hden.ne'
    rw [div_eq_iff hd] at hvalue'
    exact_mod_cast hvalue'
  have hfin : x.isFinite = true := by simp [isFinite, hmag, hfinite]
  rw [toInt?, if_pos hfin]
  simp only [hr, hnum, Nat.mul_mod_left, if_true, Nat.mul_div_cancel _ hden, hsign, decide_eq_true_eq,
    Option.some.injEq]
  omega

end Binary
end ShaderGraph
