import ShaderGraph.Proofs.Digits
import ShaderGraph.Proofs.Nearest

/-!
# The shortest decimal rounds back

The value of a decimal, and that the shortest decimal of a finite magnitude rounds to the magnitude.
The interval that is searched is the cell of the magnitude. The search looks at the two neighbours of
the value on ever finer grids; once a step of the grid is at most half of the gap above the magnitude,
one of the two is a hit.
-/
namespace ShaderGraph.Decimal

/-- The rational number lies in the interval, whose ends are in quarters of two to the power `e`. -/
def Interval.Holds (iv : Interval) (e : Int) (x : ℚ) : Prop :=
  if iv.closed then (iv.low : ℚ) / 4 * 2 ^ e ≤ x ∧ x ≤ iv.high / 4 * 2 ^ e
  else (iv.low : ℚ) / 4 * 2 ^ e < x ∧ x < iv.high / 4 * 2 ^ e

/-! ## The interval of a magnitude -/

section Cell

variable {f : Format} {n m : Nat} {e : Int}

theorem interval_high (hparts : f.parts n = (m, e)) :
    ((interval f m e).high : ℚ) / 4 * 2 ^ e = f.middle n := by
  obtain ⟨m', k, hspec, hn, hlt, hk⟩ := f.parts_spec n
  obtain ⟨rfl, rfl⟩ := Prod.mk.inj (hparts.symm.trans hspec)
  rw [hn, Format.middle_eq hlt hk, interval]
  push_cast
  ring

theorem interval_low (hparts : f.parts (n + 1) = (m, e)) :
    ((interval f m e).low : ℚ) / 4 * 2 ^ e = f.middle n := by
  obtain ⟨m', k, hspec, hn, hlt, hk⟩ := f.parts_spec (n + 1)
  obtain ⟨rfl, rfl⟩ := Prod.mk.inj (hparts.symm.trans hspec)
  have hpos : 0 < 2 ^ f.fractionBits := Nat.pow_pos (by decide)
  obtain ⟨i, rfl⟩ : ∃ i, m = i + 1 := by
    refine ⟨m - 1, ?_⟩
    rcases hk with rfl | hk <;> omega
  simp only [interval, Nat.pow_eq]
  split
  · -- Below a power of two stands the last step of the binade before.
    rename_i hnarrow
    obtain ⟨hpower, hquantum⟩ := hnarrow
    obtain ⟨j, rfl⟩ : ∃ j, k = j + 1 := ⟨k - 1, by omega⟩
    rw [Nat.succ_mul] at hn
    obtain rfl : n = j * 2 ^ f.fractionBits + (2 * i + 1) := by omega
    rw [Format.middle_eq (by omega) (by omega), show 4 * (i + 1) - 1 = 4 * i + 3 by omega,
      show f.quantum + ((j + 1 : Nat) : ℤ) = f.quantum + j + 1 by push_cast; ring,
      zpow_add_one₀ (by norm_num)]
    push_cast
    ring
  · obtain rfl : n = k * 2 ^ f.fractionBits + i := by omega
    rw [Format.middle_eq (by omega) (by omega), show 4 * (i + 1) - 2 = 4 * i + 2 by omega]
    push_cast
    ring

theorem inCell_of_holds [f.Proper] {x : ℚ} (hparts : f.parts n = (m, e)) (hn : n < f.infinity)
    (hx : (interval f m e).Holds e x) : f.InCell x n := by
  have hparity : m % 2 = n % 2 := by simpa [hparts] using Format.parts_mod_two (f := f) n
  have hclosed : (interval f m e).closed = decide (n % 2 = 0) := by rw [← hparity, interval]
  rw [Interval.Holds, hclosed, interval_high hparts] at hx
  have hlow (k : Nat) (hk : k + 1 = n) : (interval f m e).low / 4 * 2 ^ e = f.middle k :=
    interval_low (hk ▸ hparts)
  rcases Nat.mod_two_eq_zero_or_one n with heven | hodd
  · rw [heven] at hx
    exact ⟨hn.le, fun k hk => ⟨hlow k hk ▸ hx.1, by omega⟩, fun _ => ⟨hx.2, by omega⟩⟩
  · rw [hodd] at hx
    exact ⟨hn.le, fun k hk => ⟨hlow k hk ▸ hx.1.le, fun _ => hlow k hk ▸ hx.1⟩,
      fun _ => ⟨hx.2.le, fun _ => hx.2⟩⟩

theorem low_lt_mid (hm : 0 < m) : (interval f m e).low < (interval f m e).mid := by
  simp only [interval]
  split <;> omega

theorem mid_lt_high : (interval f m e).mid < (interval f m e).high := by
  simp only [interval]
  omega

theorem interval_mid : ((interval f m e).mid : ℚ) / 4 * 2 ^ e = m * 2 ^ e := by
  simp only [interval]
  push_cast
  ring

theorem upper_part : (((interval f m e).high : ℚ) - (interval f m e).mid) / 4 * 2 ^ e = 2 ^ e / 2 := by
  simp only [interval]
  push_cast
  ring

end Cell

/-! ## Values -/

def value (d : Decimal) : ℚ :=
  d.coefficient * 10 ^ (d.point - ((Text.ofNat d.coefficient).length : Int))

theorem scaleTen_value (num den : Nat) (e : Int) :
    ((scaleTen num den e).1 : ℚ) / (scaleTen num den e).2 = num / den * 10 ^ e :=
  scaled_value 10 num den e

theorem scaleTen_den (num num' den : Nat) (e : Int) :
    (scaleTen num den e).2 = (scaleTen num' den e).2 := by
  rw [scaleTen, scaleTen]
  split <;> rfl

theorem scaleTen_den_pos (num : Nat) {den : Nat} (hden : 0 < den) (e : Int) :
    0 < (scaleTen num den e).2 := by
  rw [scaleTen]
  split
  · exact hden
  · exact Nat.mul_pos hden (Nat.pow_pos (by decide))

/-! ## The place of the point -/

theorem length_ofNat_bounds {n : Nat} (hn : 0 < n) :
    10 ^ ((Text.ofNat n).length - 1) ≤ n ∧ n < 10 ^ (Text.ofNat n).length := by
  have hlen : 0 < (Text.ofNat n).length := List.length_pos_iff.mpr (Text.ofNat_ne_nil n)
  refine ⟨?_, (Text.length_ofNat_le_iff hlen).mp le_rfl⟩
  by_contra hlt
  rcases Nat.eq_zero_or_pos ((Text.ofNat n).length - 1) with h | h
  · rw [h, Nat.pow_zero] at hlt
    omega
  · have := (Text.length_ofNat_le_iff h).mpr (Nat.lt_of_not_ge hlt)
    omega

theorem pointOf_spec {num den : Nat} (hnum : 0 < num) (hden : 0 < den) :
    (10 : ℚ) ^ (pointOf num den - 1) ≤ num / den ∧ (num : ℚ) / den < 10 ^ pointOf num den := by
  have hd : (0 : ℚ) < den := by exact_mod_cast hden
  rw [le_div_iff₀ hd, div_lt_iff₀ hd, pointOf]
  split
  · rename_i hle
    have hlen : (Nat.toDigits 10 (num / den)).length = (Text.ofNat (num / den)).length := by
      rw [Text.ofNat, List.length_map]
    obtain ⟨hlow, hhigh⟩ := length_ofNat_bounds (Nat.div_pos hle hden)
    have hpos : 0 < (Text.ofNat (num / den)).length := List.length_pos_iff.mpr (Text.ofNat_ne_nil _)
    rw [hlen]
    generalize (Text.ofNat (num / den)).length = k at *
    constructor
    · have h : 10 ^ (k - 1) * den ≤ num := (Nat.le_div_iff_mul_le hden).mp hlow
      rw [show (k : ℤ) - 1 = ((k - 1 : Nat) : ℤ) by omega, zpow_natCast]
      exact_mod_cast h
    · have h : num < 10 ^ k * den := (Nat.div_lt_iff_lt_mul hden).mp hhigh
      rw [zpow_natCast]
      exact_mod_cast h
  · rename_i hlt
    -- The first power of ten that lifts the numerator to the denominator is found.
    cases hfind : (List.range ((Nat.toDigits 10 den).length + 1)).find?
        (fun j => den ≤ num * Nat.pow 10 j) with
    | none =>
      have hlen : (Nat.toDigits 10 den).length = (Text.ofNat den).length := by
        rw [Text.ofNat, List.length_map]
      have hlast := List.find?_range_eq_none.mp hfind (Nat.toDigits 10 den).length (by omega)
      have hbound := (length_ofNat_bounds hden).2
      have hmul := Nat.le_mul_of_pos_left (10 ^ (Text.ofNat den).length) hnum
      simp only [hlen, Nat.pow_eq, Bool.not_eq_eq_eq_not, Bool.not_true, decide_eq_false_iff_not] at hlast
      omega
    | some j =>
      obtain ⟨hhit, _, hbefore⟩ := List.find?_range_eq_some.mp hfind
      have hhit' : den ≤ num * 10 ^ j := by simpa using hhit
      have hj : j ≠ 0 := by
        rintro rfl
        rw [Nat.pow_zero] at hhit'
        omega
      obtain ⟨i, rfl⟩ := Nat.exists_eq_succ_of_ne_zero hj
      have hmiss : num * 10 ^ i < den := by simpa using hbefore i (Nat.lt_succ_self i)
      simp only [hfind, Nat.succ_eq_add_one]
      constructor
      · rw [show (1 : ℤ) - ((i + 1 : Nat) : ℤ) - 1 = -((i + 1 : Nat) : ℤ) by omega, zpow_neg,
          zpow_natCast, inv_mul_le_iff₀ (by positivity), mul_comm]
        exact_mod_cast hhit'
      · rw [show (1 : ℤ) - ((i + 1 : Nat) : ℤ) = -(i : ℤ) by push_cast; ring, zpow_neg, zpow_natCast,
          lt_inv_mul_iff₀ (by positivity), mul_comm]
        exact_mod_cast hmiss

/-! ## Neighbours on a grid -/

theorem grid_scale (e shift : Int) : ∃ d : Nat, 0 < d ∧ ∀ x : Nat, ∃ n : Nat,
    scaleTen (scaleRatio x 4 e).1 (scaleRatio x 4 e).2 shift = (n, d) ∧
      (n : ℚ) = x / 4 * 2 ^ e * 10 ^ shift * d := by
  have hden (x : Nat) : (scaleRatio x 4 e).2 = (scaleRatio 0 4 e).2 := by
    rw [scaleRatio, scaleRatio]
    split <;> rfl
  have hpos := scaleTen_den_pos 0 (scaleRatio_den_pos 0 (by decide : 0 < 4) e) shift
  refine ⟨_, hpos, fun x => ⟨_, Prod.ext rfl ?_, ?_⟩⟩
  · rw [hden, scaleTen_den _ 0]
  · have hv := scaleTen_value (scaleRatio x 4 e).1 (scaleRatio x 4 e).2 shift
    rw [scaleRatio_value] at hv
    have hd : ((scaleTen 0 (scaleRatio 0 4 e).2 shift).2 : ℚ) ≠ 0 := by exact_mod_cast hpos.ne'
    rw [hden x, scaleTen_den _ 0, div_eq_iff hd, ← hden x] at hv
    rw [hv, hden x]
    push_cast
    rfl

/-- The choice between the two integers next to `n / d`, where multiples of `d` have to lie between
`lo` and `hi`. -/
def pick (closed : Bool) (lo n hi d : Nat) : Option Nat :=
  let downOk := if closed then lo ≤ n / d * d else lo < n / d * d
  let upOk := if closed then (n / d + 1) * d ≤ hi else (n / d + 1) * d < hi
  if downOk then
    if upOk then some (roundDiv n d) else some (n / d)
  else if upOk then some (n / d + 1) else none

def Between (closed : Bool) (lo hi d c : Nat) : Prop :=
  if closed then lo ≤ c * d ∧ c * d ≤ hi else lo < c * d ∧ c * d < hi

theorem roundDiv_cases (n d : Nat) : roundDiv n d = n / d ∨ roundDiv n d = n / d + 1 := by
  rw [roundDiv]
  split
  · exact Or.inr rfl
  · exact Or.inl rfl

theorem lt_next_mul {n d : Nat} (hd : 0 < d) : n < (n / d + 1) * d := by
  have hmod := Nat.mod_lt n hd
  have hdiv := Nat.div_add_mod' n d
  rw [Nat.succ_mul]
  omega

theorem pick_eq_some {closed : Bool} {lo n hi d c : Nat} (hd : 0 < d) (hlo : lo < n) (hhi : n < hi)
    (h : pick closed lo n hi d = some c) :
    (c = n / d ∨ c = n / d + 1) ∧ Between closed lo hi d c := by
  have hdown : n / d * d ≤ n := Nat.div_mul_le_self n d
  have hup : n < (n / d + 1) * d := lt_next_mul hd
  have hbelow (hok : if closed then lo ≤ n / d * d else lo < n / d * d) :
      Between closed lo hi d (n / d) := by
    cases closed <;> simp only [Between, if_true, if_false, Bool.false_eq_true] at hok ⊢ <;> omega
  have habove (hok : if closed then (n / d + 1) * d ≤ hi else (n / d + 1) * d < hi) :
      Between closed lo hi d (n / d + 1) := by
    cases closed <;> simp only [Between, if_true, if_false, Bool.false_eq_true] at hok ⊢ <;> omega
  simp only [pick] at h
  by_cases hdownOk : if closed then lo ≤ n / d * d else lo < n / d * d
  · rw [if_pos hdownOk] at h
    by_cases hupOk : if closed then (n / d + 1) * d ≤ hi else (n / d + 1) * d < hi
    · rw [if_pos hupOk] at h
      obtain rfl := Option.some.inj h
      rcases roundDiv_cases n d with hr | hr <;> rw [hr]
      · exact ⟨Or.inl rfl, hbelow hdownOk⟩
      · exact ⟨Or.inr rfl, habove hupOk⟩
    · rw [if_neg hupOk] at h
      obtain rfl := Option.some.inj h
      exact ⟨Or.inl rfl, hbelow hdownOk⟩
  · rw [if_neg hdownOk, Option.ite_none_right_eq_some] at h
    obtain ⟨hupOk, hc⟩ := h
    obtain rfl := Option.some.inj hc
    exact ⟨Or.inr rfl, habove hupOk⟩

theorem isSome_pick (closed : Bool) {lo n hi d : Nat} (hd : 0 < d) (hlo : lo < n) (hhi : n + d ≤ hi) :
    (pick closed lo n hi d).isSome = true := by
  have hdiv := Nat.div_add_mod' n d
  have hmod := Nat.mod_lt n hd
  simp only [pick]
  rcases Nat.eq_zero_or_pos (n % d) with hexact | hpos
  · have hdownOk : if closed then lo ≤ n / d * d else lo < n / d * d := by
      cases closed <;> simp only [if_true, if_false, Bool.false_eq_true] <;> omega
    rw [if_pos hdownOk, ← apply_ite some]
    rfl
  · have hupOk : if closed then (n / d + 1) * d ≤ hi else (n / d + 1) * d < hi := by
      rw [Nat.succ_mul]
      cases closed <;> simp only [if_true, if_false, Bool.false_eq_true] <;> omega
    rw [if_pos hupOk, if_pos hupOk, ← apply_ite some]
    rfl

theorem holds_iff_on_grid {iv : Interval} {e point : Int} {count d lo hi : Nat} (hd : 0 < d)
    (hlo : (lo : ℚ) = iv.low / 4 * 2 ^ e * 10 ^ (count - point) * d)
    (hhi : (hi : ℚ) = iv.high / 4 * 2 ^ e * 10 ^ (count - point) * d) (c : Nat) :
    iv.Holds e (c * 10 ^ (point - count)) ↔ Between iv.closed lo hi d c := by
  have hu : (0 : ℚ) < 10 ^ (count - point) * d := by positivity
  have hc : ((c * d : Nat) : ℚ) = c * 10 ^ (point - count) * (10 ^ (count - point) * d) := by
    rw [← mul_assoc, mul_assoc (c : ℚ), ← zpow_add₀ (by norm_num)]
    simp
  rw [mul_assoc _ _ (d : ℚ)] at hlo hhi
  rw [Interval.Holds, Between]
  have hlole : lo ≤ c * d ↔ (iv.low : ℚ) / 4 * 2 ^ e ≤ c * 10 ^ (point - count) := by
    rw [← Nat.cast_le (α := ℚ), hlo, hc, mul_le_mul_iff_of_pos_right hu]
  have hlolt : lo < c * d ↔ (iv.low : ℚ) / 4 * 2 ^ e < c * 10 ^ (point - count) := by
    rw [← Nat.cast_lt (α := ℚ), hlo, hc, mul_lt_mul_iff_of_pos_right hu]
  have hhile : c * d ≤ hi ↔ c * 10 ^ (point - count) ≤ (iv.high : ℚ) / 4 * 2 ^ e := by
    rw [← Nat.cast_le (α := ℚ), hhi, hc, mul_le_mul_iff_of_pos_right hu]
  have hhilt : c * d < hi ↔ c * 10 ^ (point - count) < (iv.high : ℚ) / 4 * 2 ^ e := by
    rw [← Nat.cast_lt (α := ℚ), hhi, hc, mul_lt_mul_iff_of_pos_right hu]
  rw [hlole, hlolt, hhile, hhilt]

/-- The ends of the interval and its middle, counted in steps of a grid over one denominator. -/
structure Gridded (iv : Interval) (e point : Int) (count lo n hi d : Nat) : Prop where
  den : 0 < d
  low : (lo : ℚ) = iv.low / 4 * 2 ^ e * 10 ^ (count - point) * d
  mid : (n : ℚ) = iv.mid / 4 * 2 ^ e * 10 ^ (count - point) * d
  high : (hi : ℚ) = iv.high / 4 * 2 ^ e * 10 ^ (count - point) * d
  taken : onGrid? iv e point count = pick iv.closed lo n hi d

theorem exists_gridded (iv : Interval) (e point : Int) (count : Nat) :
    ∃ lo n hi d, Gridded iv e point count lo n hi d := by
  obtain ⟨d, hd, hscale⟩ := grid_scale e (count - point)
  obtain ⟨lo, hlo, hlow⟩ := hscale iv.low
  obtain ⟨n, hn, hmid⟩ := hscale iv.mid
  obtain ⟨hi, hhi, hhigh⟩ := hscale iv.high
  refine ⟨lo, n, hi, d, hd, hlow, hmid, hhigh, ?_⟩
  simp only [onGrid?, hlo, hn, hhi]
  rfl

section Grid

variable {iv : Interval} {e point : Int} {count lo n hi d : Nat}

theorem Gridded.low_lt_mid (h : Gridded iv e point count lo n hi d) (hlow : iv.low < iv.mid) : lo < n := by
  have hd : (0 : ℚ) < d := by exact_mod_cast h.den
  have hq : (iv.low : ℚ) < iv.mid := by exact_mod_cast hlow
  rw [← Nat.cast_lt (α := ℚ), h.low, h.mid]
  gcongr

theorem Gridded.mid_lt_high (h : Gridded iv e point count lo n hi d) (hhigh : iv.mid < iv.high) :
    n < hi := by
  have hd : (0 : ℚ) < d := by exact_mod_cast h.den
  have hq : (iv.mid : ℚ) < iv.high := by exact_mod_cast hhigh
  rw [← Nat.cast_lt (α := ℚ), h.mid, h.high]
  gcongr

/-- What is taken from a grid lies in the interval and is a neighbour of the value. -/
theorem onGrid?_eq_some {c : Nat} (hlow : iv.low < iv.mid) (hhigh : iv.mid < iv.high)
    (h : onGrid? iv e point count = some c) : iv.Holds e (c * 10 ^ (point - count)) ∧
      (c : ℚ) ≤ iv.mid / 4 * 2 ^ e * 10 ^ (count - point) + 1 ∧
      (iv.mid : ℚ) / 4 * 2 ^ e * 10 ^ (count - point) < c + 1 := by
  obtain ⟨lo, n, hi, d, hgrid⟩ := exists_gridded iv e point count
  have hd : (0 : ℚ) < d := by exact_mod_cast hgrid.den
  rw [hgrid.taken] at h
  obtain ⟨hc, hbetween⟩ := pick_eq_some hgrid.den (hgrid.low_lt_mid hlow) (hgrid.mid_lt_high hhigh) h
  have hvalue : (iv.mid : ℚ) / 4 * 2 ^ e * 10 ^ (count - point) = n / d := by
    rw [eq_div_iff hd.ne', hgrid.mid]
  have hdown : n / d * d ≤ n := Nat.div_mul_le_self n d
  have hup : n < (n / d + 1) * d := lt_next_mul hgrid.den
  rw [hvalue, div_lt_iff₀ hd, ← sub_le_iff_le_add, le_div_iff₀ hd]
  refine ⟨(holds_iff_on_grid hgrid.den hgrid.low hgrid.high c).mpr hbetween, ?_, ?_⟩
  · have hle : c * d ≤ n + d := by
      rcases hc with rfl | rfl
      · omega
      · rw [Nat.succ_mul]
        omega
    have hq : (c * d : ℚ) ≤ n + d := by exact_mod_cast hle
    linarith
  · have hlt : n < (c + 1) * d := by
      rcases hc with rfl | rfl
      · exact hup
      · rw [Nat.succ_mul]
        omega
    exact_mod_cast hlt

theorem isSome_onGrid? (hlow : iv.low < iv.mid)
    (hstep : (10 : ℚ) ^ (point - count) ≤ (iv.high - iv.mid) / 4 * 2 ^ e) :
    (onGrid? iv e point count).isSome = true := by
  obtain ⟨lo, n, hi, d, hgrid⟩ := exists_gridded iv e point count
  have hd : (0 : ℚ) < d := by exact_mod_cast hgrid.den
  rw [hgrid.taken]
  refine isSome_pick iv.closed hgrid.den (hgrid.low_lt_mid hlow) ?_
  have hinv : (10 : ℚ) ^ (point - count) * 10 ^ (count - point) = 1 := by
    rw [← zpow_add₀ (by norm_num)]
    simp
  have hone : 1 * (d : ℚ) ≤ (iv.high - iv.mid) / 4 * 2 ^ e * 10 ^ (count - point) * d := by
    rw [← hinv]
    gcongr
  rw [← Nat.cast_le (α := ℚ), Nat.cast_add, hgrid.mid, hgrid.high]
  linarith

end Grid

/-! ## The search -/

theorem exists_stripZeros (fuel n : Nat) : ∃ k, n = stripZeros fuel n * 10 ^ k := by
  induction fuel generalizing n with
  | zero => exact ⟨0, by simp [stripZeros]⟩
  | succ fuel ih =>
    rw [stripZeros]
    split
    · rename_i h
      obtain ⟨k, hk⟩ := ih (n / 10)
      refine ⟨k + 1, ?_⟩
      rw [Nat.pow_succ, ← Nat.mul_assoc, ← hk]
      omega
    · exact ⟨0, by simp⟩

theorem length_ofNat_mul_pow {n : Nat} (hn : 0 < n) (k : Nat) :
    (Text.ofNat (n * 10 ^ k)).length = (Text.ofNat n).length + k := by
  induction k with
  | zero => simp
  | succ k ih =>
    have hpos : 0 < n * 10 ^ k := Nat.mul_pos hn (Nat.pow_pos (by decide))
    rw [Nat.pow_succ, ← Nat.mul_assoc, Text.ofNat_of_le (by omega), List.length_append,
      Nat.mul_div_cancel _ (by decide), ih]
    rfl

theorem length_ofNat_eq {n count : Nat} (hcount : 0 < count) (hlow : 10 ^ (count - 1) ≤ n)
    (hhigh : n < 10 ^ count) : (Text.ofNat n).length = count := by
  have hle := (Text.length_ofNat_le_iff hcount).mpr hhigh
  have hpos : 0 < (Text.ofNat n).length := List.length_pos_iff.mpr (Text.ofNat_ne_nil n)
  by_contra hne
  have hlt : n < 10 ^ (count - 1) := (Text.length_ofNat_le_iff (by omega)).mp (by omega)
  omega

theorem value_stripZeros (fuel : Nat) {c : Nat} (hc : 0 < c) (point : Int) :
    0 < stripZeros fuel c ∧ value ⟨stripZeros fuel c, point⟩ = value ⟨c, point⟩ := by
  obtain ⟨k, hk⟩ := exists_stripZeros fuel c
  generalize stripZeros fuel c = n at hk
  have hn : 0 < n := by
    rcases Nat.eq_zero_or_pos n with rfl | h
    · omega
    · exact h
  refine ⟨hn, ?_⟩
  rw [value, value, hk, length_ofNat_mul_pow hn]
  push_cast
  rw [mul_assoc, ← zpow_natCast, ← zpow_add₀ (by norm_num)]
  congr 2
  omega

theorem value_of_grid (point : Int) {count c : Nat} (hcount : 0 < count) (hlow : 10 ^ (count - 1) ≤ c)
    {d : Decimal} (hd : d = if c = Nat.pow 10 count then ⟨1, point + 1⟩ else ⟨stripZeros count c, point⟩)
    (hhigh : c ≤ 10 ^ count) :
    0 < d.coefficient ∧ d.value = c * 10 ^ (point - count) := by
  rw [hd, Nat.pow_eq]
  split
  · rename_i hcarry
    have hlen : (Text.ofNat 1).length = 1 := rfl
    refine ⟨Nat.one_pos, ?_⟩
    rw [value, hlen, hcarry]
    push_cast
    rw [← zpow_natCast, ← zpow_add₀ (by norm_num)]
    ring_nf
  · have hc : 0 < c := Nat.lt_of_lt_of_le (Nat.pow_pos (by decide)) hlow
    obtain ⟨hpos, hvalue⟩ := value_stripZeros count hc point
    refine ⟨hpos, ?_⟩
    rw [hvalue, value, length_ofNat_eq hcount hlow (by omega)]

theorem pointOf_scaled {m : Nat} {e : Int} (hm : 0 < m) :
    (10 : ℚ) ^ (pointOf (scaleRatio m 1 e).1 (scaleRatio m 1 e).2 - 1) ≤ m * 2 ^ e ∧
      (m : ℚ) * 2 ^ e < 10 ^ pointOf (scaleRatio m 1 e).1 (scaleRatio m 1 e).2 := by
  have hratio := scaleRatio_value m 1 e
  rw [Nat.cast_one, div_one] at hratio
  have hnum : (scaleRatio m 1 e).1 ≠ 0 := by
    intro hzero
    have hvalue : (0 : ℚ) < m * 2 ^ e := by positivity
    rw [← hratio, hzero, Nat.cast_zero, zero_div] at hvalue
    exact lt_irrefl _ hvalue
  rw [← hratio]
  exact pointOf_spec (Nat.pos_of_ne_zero hnum) (scaleRatio_den_pos m Nat.one_pos e)

theorem digits_bounds {v : ℚ} {point : Int} {count c : Nat} (hcount : 0 < count)
    (hlow : 10 ^ (point - 1) ≤ v) (hhigh : v < 10 ^ point)
    (hupper : (c : ℚ) ≤ v * 10 ^ (count - point) + 1) (hlower : v * 10 ^ (count - point) < c + 1) :
    10 ^ (count - 1) ≤ c ∧ c ≤ 10 ^ count := by
  have hscale : (0 : ℚ) < 10 ^ ((count : ℤ) - point) := by positivity
  constructor
  · have hmul := mul_le_mul_of_nonneg_right hlow hscale.le
    rw [← zpow_add₀ (by norm_num), show point - 1 + ((count : ℤ) - point) = ((count - 1 : Nat) : ℤ) by
      omega, zpow_natCast] at hmul
    have hlt : ((10 ^ (count - 1) : Nat) : ℚ) < (c + 1 : Nat) := by
      push_cast
      linarith
    exact Nat.lt_succ_iff.mp (Nat.cast_lt.mp hlt)
  · have hmul := mul_lt_mul_of_pos_right hhigh hscale
    rw [← zpow_add₀ (by norm_num), show point + ((count : ℤ) - point) = (count : ℤ) by omega,
      zpow_natCast] at hmul
    have hlt : (c : ℚ) < (10 ^ count + 1 : Nat) := by
      push_cast
      linarith
    exact Nat.lt_succ_iff.mp (Nat.cast_lt.mp hlt)

/-- With seventeen digits a step of the grid is at most half of the gap above the magnitude. -/
theorem isSome_seventeen {f : Format} {m : Nat} {e point : Int} (hm : 0 < m)
    (hlt : m < 2 * 2 ^ f.fractionBits) (hbits : 2 ^ (f.fractionBits + 2) ≤ 10 ^ 16)
    (hpoint : (10 : ℚ) ^ (point - 1) ≤ m * 2 ^ e) :
    (onGrid? (interval f m e) e point 17).isSome = true := by
  refine isSome_onGrid? (low_lt_mid hm) ?_
  have hmq : (m : ℚ) * 2 ≤ 10 ^ 16 := by
    rw [Nat.pow_add] at hbits
    exact_mod_cast (by omega : m * 2 ≤ 10 ^ 16)
  have hpow : (0 : ℚ) < 2 ^ e := by positivity
  have hsplit : (10 : ℚ) ^ (point - (17 : Nat)) * 10 ^ 16 = 10 ^ (point - 1) := by
    rw [← zpow_natCast, ← zpow_add₀ (by norm_num)]
    congr 1
    omega
  have hmul := mul_le_mul_of_nonneg_right hmq hpow.le
  rw [upper_part]
  generalize (10 : ℚ) ^ (point - (17 : Nat)) = step at hsplit ⊢
  linarith

theorem shortest_inCell {f : Format} [f.Proper] {n : Nat} (hpos : 0 < n) (hn : n < f.infinity)
    (hbits : 2 ^ (f.fractionBits + 2) ≤ 10 ^ 16) :
    0 < (shortest f n).coefficient ∧ f.InCell (shortest f n).value n := by
  obtain ⟨m, k, hparts, _, hlt, _⟩ := f.parts_spec n
  generalize f.quantum + (k : ℤ) = e at hparts
  have hm : 0 < m := by simpa [hparts] using f.parts_pos hpos
  obtain ⟨hplow, hphigh⟩ := pointOf_scaled (e := e) hm
  have hseventeen := isSome_seventeen (f := f) hm hlt hbits hplow
  simp only [shortest, hparts]
  generalize pointOf (scaleRatio m 1 e).1 (scaleRatio m 1 e).2 = point at hplow hphigh hseventeen ⊢
  split
  · rename_i count c hfind
    obtain ⟨count', hmem, hhit⟩ := List.exists_of_findSome?_eq_some hfind
    obtain ⟨c', hc', hpair⟩ := Option.map_eq_some_iff.mp hhit
    obtain ⟨rfl, rfl⟩ := Prod.mk.inj hpair
    have hcount : 0 < count' := (List.mem_range'_1.mp hmem).1
    obtain ⟨hholds, hupper, hlower⟩ := onGrid?_eq_some (low_lt_mid hm) mid_lt_high hc'
    rw [interval_mid] at hupper hlower
    obtain ⟨hlow, hhigh⟩ := digits_bounds hcount hplow hphigh hupper hlower
    obtain ⟨hcoefficient, hvalue⟩ := value_of_grid point hcount hlow rfl hhigh
    refine ⟨hcoefficient, ?_⟩
    rw [hvalue]
    exact inCell_of_holds hparts hn hholds
  · rename_i hfind
    have hnone := List.findSome?_eq_none_iff.mp hfind 17 (by decide)
    rw [Option.map_eq_none_iff] at hnone
    rw [hnone] at hseventeen
    simp at hseventeen

end ShaderGraph.Decimal
