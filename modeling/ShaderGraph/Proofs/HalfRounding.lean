import ShaderGraph.Proofs.Widening

/-!
# Rounding to half precision

`Binary.roundHalf` treats three ranges of numbers in three ways: it compares with a limit, it rounds a
multiple of a unit to an integer, and it adds to a bit pattern and clears its end. All three give the
half nearest to the number. In the last range the bit patterns of singles are those of halves, moved
and made finer, so that comparing patterns is comparing values.
-/
namespace ShaderGraph

namespace Format

/-- From the least normal half on, the pattern of a half is that of a single but for thirteen zeros
and the bias. -/
theorem single_value_of_half {n : Nat} (hn : 1024 ≤ n) :
    binary32.value ((n + 114688) * 8192) = binary16.value n ∧
      binary32.value ((n + 114688) * 8192 + 4096) = binary16.middle n := by
  obtain ⟨m, k, hk, hm, hmk, _, hvalue, hnext⟩ := binary16.exists_steps n
  have hbits : binary16.fractionBits = 10 := rfl
  have hbits' : binary32.fractionBits = 23 := rfl
  have hquantum : binary16.quantum = -24 := by decide
  have hquantum' : binary32.quantum = -149 := by decide
  rw [hbits] at hk hm hmk
  have hbinade (r : Nat) (hr : m * 8192 + r ≤ 16777216) :
      binary32.value ((n + 114688) * 8192 + r) = (m * 8192 + r : Nat) * 2 ^ (-37 + k : ℤ) := by
    have hsteps := value_eq (f := binary32) (m := m * 8192 + r) (k := k + 112)
      (by rw [hbits']; omega) (by rw [hbits']; omega)
    rw [hbits', hquantum'] at hsteps
    rw [show (n + 114688) * 8192 + r = (k + 112) * 2 ^ 23 + (m * 8192 + r) by omega, hsteps]
    congr 2
    push_cast
    ring
  have hunit : (2 : ℚ) ^ (binary16.quantum + k) = 8192 * 2 ^ (-37 + k : ℤ) := by
    rw [hquantum, show (-24 + k : ℤ) = 13 + (-37 + k) by ring, zpow_add₀ (by norm_num)]
    norm_num
  constructor
  · have := hbinade 0 (by omega)
    rw [Nat.add_zero, Nat.add_zero] at this
    rw [this, hvalue, hunit]
    push_cast
    ring
  · rw [hbinade 4096 (by omega), middle, hvalue, hnext, hunit]
    push_cast
    ring

theorem half_units {m : Nat} (hm : m ≤ 1024) : binary16.value m = m * 2 ^ (-24 : ℤ) := by
  have hsteps := value_eq (f := binary16) (m := m) (k := 0) (by change m ≤ 2 * 2 ^ 10; omega)
    (Or.inl rfl)
  rw [Nat.zero_mul, Nat.zero_add] at hsteps
  exact hsteps

theorem binary16_limit : binary16.limit = binary32.value 1199566848 :=
  (single_value_of_half (n := 31743) (by decide)).2.symm

theorem binary16_limit_eq : binary16.limit = 65520 := by
  have hparts : binary32.parts 1199566848 = (16773120, -8) := by decide
  rw [binary16_limit, value, hparts]
  norm_num

theorem value_leastNormal : binary32.value 947912704 = 2 ^ (-14 : ℤ) := by
  have hparts : binary32.parts 947912704 = (8388608, -37) := by decide
  rw [value, hparts]
  norm_num

theorem exists_double {m : Nat} {e : ℤ} (hm : m < 2 ^ 53) (hlow : -1022 ≤ e) (hhigh : e ≤ 900) :
    ∃ n < binary64.infinity, binary64.value n = m * 2 ^ e := by
  rcases Nat.eq_zero_or_pos m with rfl | hpos
  · exact ⟨0, by decide, by rw [value_zero, Nat.cast_zero, zero_mul]⟩
  · have hlog : Nat.log2 m < 53 := (Nat.log2_lt hpos.ne').mpr hm
    have hbits : binary64.fractionBits = 52 := rfl
    have hquantum : binary64.quantum = -1074 := by decide
    have hexponent : binary64.exponentBits = 11 := rfl
    refine exists_value hpos ?_ ?_ ?_ <;> simp only [hbits, hquantum, hexponent] <;> omega

end Format

namespace Binary

variable {f g : Format}

def SameNumber (x : Binary f) (y : Binary g) : Prop :=
  x.negative = y.negative ∧
    (x.isInfinite = true ∧ y.isInfinite = true ∨
      x.isFinite = true ∧ y.isFinite = true ∧ f.value x.magnitude = g.value y.magnitude)

theorem SameNumber.eq_convert [f.Proper] {x : Binary f} {y : Binary g} (h : x.SameNumber y) :
    x = y.convert f := by
  obtain ⟨negative, magnitude⟩ := x
  obtain ⟨negative', magnitude'⟩ := y
  obtain ⟨rfl, ⟨hx, hy⟩ | ⟨hx, hy, hvalue⟩⟩ := h
  · obtain rfl : magnitude = f.infinity := by simpa [isInfinite] using hx
    obtain rfl : magnitude' = g.infinity := by simpa [isInfinite] using hy
    exact (convert_infinite negative).symm
  · simp only [isFinite, decide_eq_true_eq] at hx hy
    exact (convert_of_value hy hx hvalue).symm

theorem scale_of_value [f.Proper] {x : Binary f} {e : ℤ} {n : Nat} (hx : x.magnitude < f.infinity)
    (hn : n < f.infinity) (h : f.value n = f.value x.magnitude * 2 ^ e) :
    x.scale e = ⟨x.negative, n⟩ := by
  have hvalue : ((scaleRatio x.ratio.1 x.ratio.2 e).1 : ℚ) / (scaleRatio x.ratio.1 x.ratio.2 e).2 =
      f.value n := by
    rw [scaleRatio_value, x.ratio_value, h]
  rw [scale, if_pos (by simp [isFinite, hx])]
  exact ofRatio_of_value _ hn (scaleRatio_den_pos _ x.ratio_den_pos e) hvalue

theorem roundInteger_of_value [f.Proper] {x : Binary f} {n : Nat} (hx : x.magnitude < f.infinity)
    (hn : n < f.infinity) (h : f.value n = roundDiv x.ratio.1 x.ratio.2) :
    x.roundInteger = ⟨x.negative, n⟩ := by
  have hvalue : ((roundDiv x.ratio.1 x.ratio.2 : Nat) : ℚ) / (1 : Nat) = f.value n := by
    rw [h, Nat.cast_one, div_one]
  rw [roundInteger, if_pos (by simp [isFinite, hx])]
  exact ofRatio_of_value _ hn Nat.one_pos hvalue

theorem abs_lessThan {x y : Binary f} (hx : x.isNaN = false) (hy : y.isNaN = false)
    (hpos : y.negative = false) : x.abs.lessThan y = decide (x.magnitude < y.magnitude) := by
  have hx' : x.abs.isNaN = false := hx
  have hkey : x.abs.key = x.magnitude := rfl
  have hkey' : y.key = y.magnitude := by simp [key, hpos]
  simp only [lessThan, hx', hy, Bool.not_false, Bool.true_and, hkey, hkey', Int.ofNat_lt]

/-! ## Small numbers -/

theorem exists_scaled {x : Single} (hx : x.magnitude < 947912704) :
    ∃ scaled < Format.binary64.infinity, (x.abs.convert .binary64).scale 24 = ⟨false, scaled⟩ ∧
      Format.binary64.value scaled = Format.binary32.value x.magnitude * 2 ^ (24 : ℤ) ∧
      Format.binary64.value scaled < 1024 := by
  have hfinite : x.magnitude < Format.binary32.infinity := hx.trans (by decide)
  obtain ⟨m, k, hparts, hmag, hm, hk⟩ := Format.binary32.parts_spec x.magnitude
  have hvalue : Format.binary32.value x.magnitude = m * 2 ^ (-149 + k : ℤ) := by
    rw [Format.value, hparts]
    rfl
  have hbits : Format.binary32.fractionBits = 23 := rfl
  rw [hbits] at hm hmag hk
  obtain ⟨wide, hwide, hwideValue⟩ := Format.single_embeds.exists_value hfinite
  obtain ⟨scaled, hscaled, hscaledValue⟩ := Format.exists_double (m := m) (e := -125 + k)
    (by omega) (by omega) (by omega)
  have hunits : Format.binary64.value scaled = Format.binary32.value x.magnitude * 2 ^ (24 : ℤ) := by
    rw [hscaledValue, hvalue, mul_assoc, ← zpow_add₀ (by norm_num)]
    congr 2
    ring
  have hconvert : x.abs.convert .binary64 = ⟨false, wide⟩ :=
    convert_of_value (x := x.abs) hfinite hwide hwideValue
  refine ⟨scaled, hscaled, ?_, hunits, ?_⟩
  · rw [hconvert]
    exact scale_of_value hwide hscaled (by rw [hunits, hwideValue])
  · have hlt := Format.binary32.value_strictMono hx
    rw [Format.value_leastNormal] at hlt
    calc Format.binary64.value scaled = Format.binary32.value x.magnitude * 2 ^ (24 : ℤ) := hunits
      _ < 2 ^ (-14 : ℤ) * 2 ^ (24 : ℤ) := by gcongr
      _ = 1024 := by norm_num

theorem exists_back {u : Double} (hu : u.magnitude < Format.binary64.infinity)
    (hr : roundDiv u.ratio.1 u.ratio.2 ≤ 1024) : ∃ n < Format.binary32.infinity,
      (u.roundInteger.scale (-24)).convert .binary32 = (⟨u.negative, n⟩ : Single) ∧
      Format.binary32.value n = Format.binary16.value (roundDiv u.ratio.1 u.ratio.2) := by
  generalize hrounded : roundDiv u.ratio.1 u.ratio.2 = r at hr
  obtain ⟨whole, hwhole, hwholeValue⟩ := Format.exists_double (m := r) (e := 0) (by omega) (by omega)
    (by omega)
  obtain ⟨back, hback, hbackValue⟩ := Format.exists_double (m := r) (e := -24) (by omega) (by omega)
    (by omega)
  rw [zpow_zero, mul_one] at hwholeValue
  obtain ⟨n, hn, hnValue⟩ := Format.half_embeds.exists_value
    (hr.trans_lt (by decide) : r < Format.binary16.infinity)
  refine ⟨n, hn, ?_, hnValue⟩
  rw [roundInteger_of_value hu hwhole (by rw [hwholeValue, hrounded]),
    scale_of_value (n := back) hwhole hback (by rw [hbackValue, hwholeValue])]
  exact convert_of_value hback hn (by rw [hnValue, Format.half_units hr, hbackValue])

theorem exists_units {x : Single} (hx : x.magnitude < 947912704) :
    ∃ n h, (((((x.abs.convert .binary64).scale 24).roundInteger).scale (-24)).convert .binary32 :
        Single).magnitude = n ∧ n < Format.binary32.infinity ∧ h < Format.binary16.infinity ∧
      Format.binary32.value n = Format.binary16.value h ∧
      Format.binary16.InCell (Format.binary32.value x.magnitude) h := by
  obtain ⟨scaled, hscaled, hscale, hunits, hsmall⟩ := exists_scaled hx
  set u : Double := ⟨false, scaled⟩ with hu
  have hnear := nearInteger_roundDiv u.ratio.1 u.ratio_den_pos
  rw [u.ratio_value] at hnear
  have htop : Format.binary64.value scaled < 2 * 2 ^ Format.binary16.fractionBits := by
    refine hsmall.trans ?_
    norm_num [Format.binary16]
  have hle : roundDiv u.ratio.1 u.ratio.2 ≤ 1024 := by
    have hlow := hnear.low
    have hlt : (roundDiv u.ratio.1 u.ratio.2 : ℚ) < (1025 : Nat) := by
      push_cast
      linarith
    exact Nat.lt_succ_iff.mp (Nat.cast_lt.mp hlt)
  have hhalf : roundDiv u.ratio.1 u.ratio.2 < Format.binary16.infinity := hle.trans_lt (by decide)
  obtain ⟨n, hn, hback, hvalue⟩ := exists_back (u := u) hscaled hle
  refine ⟨n, _, by rw [hscale, hback], hn, hhalf, hvalue, ?_⟩
  have hx : Format.binary32.value x.magnitude =
      Format.binary64.value scaled * 2 ^ (Format.binary16.quantum + (0 : Nat)) := by
    rw [hunits, mul_assoc, ← zpow_add₀ (by norm_num), show
      (24 : ℤ) + (Format.binary16.quantum + (0 : Nat)) = 0 by decide, zpow_zero, mul_one]
  have hhigh := Format.le_middle_of_near (f := .binary16) (k := 0) hnear (Or.inl rfl) htop
  rw [Nat.zero_mul, Nat.zero_add] at hhigh
  rw [hx]
  refine ⟨hhalf.le, fun j hj => ?_, fun _ => hhigh⟩
  exact Format.middle_le_of_near hnear (Or.inl rfl) htop (by rw [Nat.zero_mul, Nat.zero_add, hj])

/-! ## Bit patterns -/

theorem land_clear (n : Nat) (hn : n < 2 ^ 32) : n &&& 4294959104 = n / 8192 * 8192 := by
  have hmask : 4294959104 = (2 ^ 19 - 1) * 2 ^ 13 := by decide
  rw [hmask, ← Nat.shiftLeft_eq]
  apply Nat.eq_of_testBit_eq
  intro i
  rw [Nat.testBit_and, Nat.testBit_shiftLeft, Nat.testBit_two_pow_sub_one,
    show n / 8192 * 8192 = (n >>> 13) <<< 13 by rw [Nat.shiftLeft_eq, Nat.shiftRight_eq_div_pow],
    Nat.testBit_shiftLeft, Nat.testBit_shiftRight]
  by_cases hi : 13 ≤ i
  · by_cases hi' : i < 32
    · simp [hi, show i - 13 < 19 by omega, show 13 + (i - 13) = i by omega]
    · have hzero : n.testBit i = false :=
        Nat.testBit_lt_two_pow (hn.trans_le (Nat.pow_le_pow_right (by decide) (by omega)))
      simp [hi, show 13 + (i - 13) = i by omega, hzero]
  · simp [hi]

/-- Adding almost half of the step, and the last bit that is kept, rounds to the nearest step. -/
theorem round_bits {bits : UInt32} {sign magnitude : Nat}
    (hbits : bits.toNat = sign * 2147483648 + magnitude) (hmagnitude : magnitude < 2139095040) :
    ((bits + ((0xfff : UInt32) + ((bits >>> 13) &&& 1))) &&& ~~~(0x1fff : UInt32)).toNat =
      sign * 2147483648 + roundDiv magnitude 8192 * 8192 := by
  have hlt := bits.toNat_lt
  have hodd : ((bits >>> 13) &&& 1).toNat = bits.toNat / 8192 % 2 := by
    rw [UInt32.toNat_and, UInt32.toNat_shiftRight]
    simp [Nat.shiftRight_eq_div_pow]
  have hmask : (~~~0x1fff : UInt32).toNat = 4294959104 := by decide
  have hfill : (0xfff : UInt32).toNat = 4095 := by decide
  have hparity : bits.toNat / 8192 % 2 = magnitude / 8192 % 2 := by omega
  have hsum : (bits.toNat + (4095 + magnitude / 8192 % 2) % 2 ^ 32) % 2 ^ 32 / 8192 =
      sign * 262144 + (magnitude + 4095 + magnitude / 8192 % 2) / 8192 := by omega
  have hround : roundDiv magnitude 8192 = (magnitude + 4095 + magnitude / 8192 % 2) / 8192 := by
    rw [roundDiv]
    split <;> omega
  rw [UInt32.toNat_and, UInt32.toNat_add, UInt32.toNat_add, hodd, hmask, hfill,
    land_clear _ (Nat.mod_lt _ (by decide)), hparity, hsum, hround]
  omega

theorem toBits_eq (x : Single) :
    x.toBits = (if x.negative then 1 else 0) * 2147483648 + x.magnitude := by
  rw [toBits]
  cases x.negative <;> rfl

theorem ofBits_eq {sign magnitude : Nat} (hsign : sign < 2) (hmagnitude : magnitude < 2147483648) :
    (ofBits (sign * 2147483648 + magnitude) : Single) = ⟨decide (sign = 1), magnitude⟩ := by
  have htop : Nat.pow 2 (Format.binary32.exponentBits + Format.binary32.fractionBits) = 2147483648 := by
    decide
  have hdiv : (sign * 2147483648 + magnitude) / 2147483648 % 2 = sign := by omega
  have hmod : (sign * 2147483648 + magnitude) % 2147483648 = magnitude := by omega
  rw [ofBits]
  simp only [htop, hdiv, hmod]

theorem inCell_steps {magnitude : Nat} (hlow : 947912704 ≤ magnitude) (hhigh : magnitude < 1199566848) :
    ∃ h, h < Format.binary16.infinity ∧ roundDiv magnitude 8192 = h + 114688 ∧
      Format.binary32.value (roundDiv magnitude 8192 * 8192) = Format.binary16.value h ∧
      Format.binary16.InCell (Format.binary32.value magnitude) h := by
  have hinfinity : Format.binary16.infinity = 31744 := by decide
  obtain ⟨h, hh⟩ : ∃ h, roundDiv magnitude 8192 = h + 114688 := by
    refine ⟨roundDiv magnitude 8192 - 114688, ?_⟩
    rw [roundDiv]
    split <;> omega
  -- The distances of the patterns say it all.
  have hsteps : h < 31744 ∧ 1024 ≤ h ∧ (h + 114688) * 8192 ≤ magnitude + 4096 ∧
      magnitude ≤ (h + 114688) * 8192 + 4096 ∧
      (h % 2 = 1 → (h + 114688) * 8192 < magnitude + 4096 ∧
        magnitude < (h + 114688) * 8192 + 4096) := by
    rw [roundDiv] at hh
    split at hh <;> omega
  obtain ⟨hlt, hnormal, hbelow, habove, hodd⟩ := hsteps
  have hmono := Format.binary32.value_strictMono
  generalize roundDiv magnitude 8192 = r at hh
  subst hh
  refine ⟨h, by omega, rfl, ?_, by omega, ?_, fun _ => ?_⟩
  · exact (Format.single_value_of_half hnormal).1
  · intro k hkh
    rcases Nat.lt_or_ge k 1024 with hk | hk
    · -- The least normal half, and the number is not below it.
      obtain rfl : k = 1023 := by omega
      have hfirst := (Format.single_value_of_half (n := 1024) le_rfl).1
      have hle : Format.binary16.value 1024 ≤ Format.binary32.value magnitude := by
        rw [← hfirst]
        exact hmono.monotone hlow
      have hmiddle := Format.binary16.middle_lt_value 1023
      exact ⟨by linarith, fun _ => by linarith⟩
    · rw [← (Format.single_value_of_half hk).2]
      refine ⟨hmono.monotone (by linarith), fun h => hmono ?_⟩
      linarith [(hodd h).1]
  · rw [← (Format.single_value_of_half hnormal).2]
    exact ⟨hmono.monotone habove, fun h => hmono (hodd h).2⟩

/-! ## All numbers -/

theorem halfLimit_magnitude : halfLimit.magnitude = 1199566848 := by decide +kernel

theorem leastNormalHalf_magnitude : leastNormalHalf.magnitude = 947912704 := by decide +kernel

theorem roundHalf_of_not_finite {x : Single} (hx : x.isFinite = false) : x.roundHalf = x := by
  have hx' : Format.binary32.infinity ≤ x.magnitude := by simpa [isFinite] using hx
  rw [roundHalf, if_pos]
  rcases hx'.lt_or_eq with hlt | heq
  · simp [isNaN, hlt]
  · simp [isInfinite, heq]

theorem not_nan_of_finite {x : Single} (hx : x.isFinite = true) :
    x.isNaN = false ∧ x.isInfinite = false := by
  have hlt : x.magnitude < Format.binary32.infinity := by simpa [isFinite] using hx
  exact ⟨by simp [isNaN, hlt.le], by simp [isInfinite, hlt.ne]⟩

theorem lessThan_halfLimit {x : Single} (hx : x.isFinite = true) :
    x.abs.lessThan halfLimit = decide (x.magnitude < 1199566848) := by
  rw [abs_lessThan (not_nan_of_finite hx).1 (by decide +kernel) (by decide +kernel),
    halfLimit_magnitude]

theorem lessThan_leastNormalHalf {x : Single} (hx : x.isFinite = true) :
    x.abs.lessThan leastNormalHalf = decide (x.magnitude < 947912704) := by
  rw [abs_lessThan (not_nan_of_finite hx).1 (by decide +kernel) (by decide +kernel),
    leastNormalHalf_magnitude]

/-- What a finite number becomes: the half in whose cell it lies. -/
def RoundsTo (x : Single) (h : Binary .binary16) : Prop :=
  h.negative = x.negative ∧
    Format.binary16.InCell (Format.binary32.value x.magnitude) h.magnitude ∧
    x.roundHalf.SameNumber h

theorem roundsTo_of_small {x : Single} (hx : x.isFinite = true) (hsmall : x.magnitude < 947912704) :
    ∃ h, x.RoundsTo h := by
  obtain ⟨hnan, hinf⟩ := not_nan_of_finite hx
  obtain ⟨n, h, hresult, hn, hh, hvalue, hcell⟩ := exists_units hsmall
  refine ⟨⟨x.negative, h⟩, rfl, hcell, ?_⟩
  have hround : x.roundHalf = ⟨x.negative, n⟩ := by
    rw [roundHalf, hnan, hinf, lessThan_halfLimit hx, lessThan_leastNormalHalf hx,
      decide_eq_true (by omega : x.magnitude < 1199566848), decide_eq_true hsmall, ← hresult]
    rfl
  rw [hround]
  exact ⟨rfl, Or.inr ⟨by simp [isFinite, hn], by simp [isFinite, hh], hvalue⟩⟩

theorem roundsTo_of_normal {x : Single} (hx : x.isFinite = true) (hlow : 947912704 ≤ x.magnitude)
    (hhigh : x.magnitude < 1199566848) : ∃ h, x.RoundsTo h := by
  obtain ⟨hnan, hinf⟩ := not_nan_of_finite hx
  have hinfinity : Format.binary32.infinity = 2139095040 := by decide
  have hinfinity' : Format.binary16.infinity = 31744 := by decide
  obtain ⟨h, hh, hround, hvalue, hcell⟩ := inCell_steps hlow hhigh
  refine ⟨⟨x.negative, h⟩, rfl, hcell, ?_⟩
  have hsteps : roundDiv x.magnitude 8192 * 8192 < 2139095040 := by omega
  have hsign : (if x.negative then 1 else 0 : Nat) < 2 := by split <;> decide
  have hbits : (UInt32.ofNat x.toBits).toNat =
      (if x.negative then 1 else 0) * 2147483648 + x.magnitude := by
    rw [UInt32.toNat_ofNat', toBits_eq]
    omega
  have hresult : x.roundHalf = ⟨x.negative, roundDiv x.magnitude 8192 * 8192⟩ := by
    rw [roundHalf, hnan, hinf, lessThan_halfLimit hx, lessThan_leastNormalHalf hx,
      decide_eq_true hhigh, decide_eq_false (by omega : ¬ x.magnitude < 947912704)]
    simp only [Bool.or_self, Bool.false_eq_true, if_false, Bool.not_true]
    rw [round_bits hbits (by omega), ofBits_eq hsign (by omega)]
    cases x.negative <;> rfl
  rw [hresult]
  refine ⟨rfl, Or.inr ⟨?_, by simp [isFinite, hh], hvalue⟩⟩
  simp [isFinite, hinfinity, hsteps]

theorem roundsTo_of_large {x : Single} (hx : x.isFinite = true)
    (hlarge : 1199566848 ≤ x.magnitude) : ∃ h, x.RoundsTo h := by
  obtain ⟨hnan, hinf⟩ := not_nan_of_finite hx
  refine ⟨infinite x.negative, rfl, ?_, ?_⟩
  · refine (Format.IsNearest.infinite ?_).inCell
    rw [Format.binary16_limit]
    exact Format.binary32.value_strictMono.monotone hlarge
  · have hresult : x.roundHalf = infinite x.negative := by
      rw [roundHalf, hnan, hinf, lessThan_halfLimit hx,
        decide_eq_false (by omega : ¬ x.magnitude < 1199566848)]
      rfl
    rw [hresult]
    exact ⟨rfl, Or.inl ⟨by simp [infinite, isInfinite], by simp [infinite, isInfinite]⟩⟩

theorem exists_half {x : Single} (hx : x.isFinite = true) : ∃ h, x.RoundsTo h := by
  rcases Nat.lt_or_ge x.magnitude 1199566848 with hbelow | hbeyond
  · rcases Nat.lt_or_ge x.magnitude 947912704 with hsmall | hnormal
    · exact roundsTo_of_small hx hsmall
    · exact roundsTo_of_normal hx hnormal hbelow
  · exact roundsTo_of_large hx hbeyond

theorem roundHalf_eq_convert {x : Single} (hx : x.isNaN = false) :
    x.roundHalf = (x.convert .binary16).convert .binary32 := by
  rcases x.cases_magnitude with hnan | hinf | hlt
  · rw [hx] at hnan
    cases hnan
  · rw [hinf, convert_infinite, convert_infinite]
    exact roundHalf_of_not_finite (by simp [isFinite, infinite])
  · obtain ⟨h, hsign, hcell, hsame⟩ := exists_half (x := x) (by simp [isFinite, hlt])
    have hnearest : x.convert .binary16 = h := by
      obtain ⟨hsign', hcell'⟩ := convert_inCell (g := .binary16) hlt
      have hmagnitude := hcell'.unique hcell
      generalize x.convert .binary16 = y at hsign' hmagnitude
      obtain ⟨negative, magnitude⟩ := y
      obtain ⟨negative', magnitude'⟩ := h
      obtain rfl : negative = negative' := hsign'.trans hsign.symm
      rw [show magnitude = magnitude' from hmagnitude]
    rw [hnearest]
    exact hsame.eq_convert

theorem roundHalf_of_half (h : Binary .binary16) :
    (h.convert .binary32).roundHalf = h.convert .binary32 := by
  by_cases hnan : h.isNaN = true
  · rw [convert_of_isNaN hnan]
    exact roundHalf_of_not_finite (by decide)
  · have hnan' : (h.convert .binary32).isNaN = false := by
      rcases h.cases_magnitude with h' | h' | h'
      · exact absurd h' hnan
      · rw [h', convert_infinite]
        simp [isNaN, infinite]
      · obtain ⟨n, hn, hvalue⟩ := Format.half_embeds.exists_value h'
        rw [convert_of_value h' hn hvalue]
        simp [isNaN, hn.le]
    rw [roundHalf_eq_convert hnan', convert_convert Format.half_embeds, if_neg hnan]

theorem roundHalf_negative (x : Single) : x.roundHalf.negative = x.negative := by
  cases hx : x.isFinite with
  | false => rw [roundHalf_of_not_finite hx]
  | true =>
    obtain ⟨h, hsign, _, hsame⟩ := exists_half hx
    rw [hsame.1, hsign]

theorem roundHalf_roundHalf (x : Single) : x.roundHalf.roundHalf = x.roundHalf := by
  cases hx : x.isFinite with
  | false => rw [roundHalf_of_not_finite hx, roundHalf_of_not_finite hx]
  | true =>
    obtain ⟨h, _, _, hsame⟩ := exists_half hx
    rw [hsame.eq_convert, roundHalf_of_half]

theorem SameNumber.magnitude_le {x : Binary f} {y : Binary g} (h : x.SameNumber y) :
    x.magnitude ≤ f.infinity := by
  obtain ⟨_, ⟨hx, _⟩ | ⟨hx, _⟩⟩ := h
  · exact (by simpa [isInfinite] using hx : x.magnitude = f.infinity).le
  · exact (by simpa [isFinite] using hx : x.magnitude < f.infinity).le

theorem roundHalf_magnitude_mono {x y : Single} (h : x.magnitude ≤ y.magnitude) :
    x.roundHalf.magnitude ≤ y.roundHalf.magnitude := by
  cases hyf : y.isFinite with
  | false =>
    rw [roundHalf_of_not_finite hyf]
    cases hxf : x.isFinite with
    | false => rwa [roundHalf_of_not_finite hxf]
    | true =>
      obtain ⟨_, _, _, hsame⟩ := exists_half hxf
      exact hsame.magnitude_le.trans (by simpa [isFinite] using hyf)
  | true =>
    have hlt : y.magnitude < Format.binary32.infinity := by simpa [isFinite] using hyf
    obtain ⟨a, _, hcell, hsame⟩ := exists_half (x := x) (by simpa [isFinite] using h.trans_lt hlt)
    obtain ⟨b, _, hcell', hsame'⟩ := exists_half hyf
    have hab : a.magnitude ≤ b.magnitude :=
      hcell.mono hcell' (Format.binary32.value_strictMono.monotone h)
    rcases hsame'.2 with ⟨hinf, _⟩ | ⟨_, hb, hvalue'⟩
    · rw [show y.roundHalf.magnitude = Format.binary32.infinity by simpa [isInfinite] using hinf]
      exact hsame.magnitude_le
    · have hb' : b.magnitude < Format.binary16.infinity := by simpa [isFinite] using hb
      rcases hsame.2 with ⟨_, hinf⟩ | ⟨_, _, hvalue⟩
      · have ha : a.magnitude = Format.binary16.infinity := by simpa [isInfinite] using hinf
        omega
      · rw [← Format.binary32.value_strictMono.le_iff_le, hvalue, hvalue']
        exact Format.binary16.value_strictMono.monotone hab

theorem roundHalf_key_mono {x y : Single} (h : x.key ≤ y.key) :
    x.roundHalf.key ≤ y.roundHalf.key := by
  have hzero : (zero : Single).roundHalf.magnitude = 0 := by decide +kernel
  simp only [key, roundHalf_negative] at h ⊢
  cases hxn : x.negative <;> cases hyn : y.negative <;>
    simp only [hxn, hyn, Bool.false_eq_true, if_true, if_false] at h ⊢
  · exact_mod_cast roundHalf_magnitude_mono (by omega)
  · -- Only the two zeros are ordered this way.
    have hx0 : x.magnitude ≤ (zero : Single).magnitude := by
      change x.magnitude ≤ 0
      omega
    have hy0 : y.magnitude ≤ (zero : Single).magnitude := by
      change y.magnitude ≤ 0
      omega
    have hx1 := roundHalf_magnitude_mono hx0
    have hy1 := roundHalf_magnitude_mono hy0
    omega
  · omega
  · have := roundHalf_magnitude_mono (x := y) (y := x) (by omega)
    omega

/-- Rounding to half precision is correct: numbers that are not finite stay as they are, and every
finite number becomes the nearest half, with its sign. Every half stays as it is, and numbers keep
their order. -/
theorem roundHalf_isNearest (x : Single) :
    (x.isFinite = false → x.roundHalf = x) ∧
    (x.isFinite = true → ∃ h : Binary .binary16, h.negative = x.negative ∧
      Format.binary16.IsNearest (Format.binary32.value x.magnitude) h.magnitude ∧
      x.roundHalf.SameNumber h) ∧
    Format.binary16.limit = 65520 ∧
    x.roundHalf.roundHalf = x.roundHalf ∧
    ∀ y : Single, x.roundHalf.lessThan y.roundHalf = true → x.lessThan y = true := by
  refine ⟨roundHalf_of_not_finite, fun hx => ?_, Format.binary16_limit_eq, roundHalf_roundHalf x,
    fun y hlt => ?_⟩
  · obtain ⟨h, hsign, hcell, hsame⟩ := exists_half hx
    exact ⟨h, hsign, hcell.isNearest, hsame⟩
  · have hnumber : ∀ z : Single, z.roundHalf.isNaN = false → z.isNaN = false := by
      intro z hz
      by_contra hnan
      have hnan' : Format.binary32.infinity < z.magnitude := by simpa [isNaN] using hnan
      rw [roundHalf_of_not_finite (by simpa [isFinite] using hnan'.le)] at hz
      exact hnan hz
    simp only [lessThan, Bool.and_eq_true, Bool.not_eq_true', decide_eq_true_eq] at hlt ⊢
    obtain ⟨⟨hx, hy⟩, hkey⟩ := hlt
    refine ⟨⟨hnumber x hx, hnumber y hy⟩, lt_of_not_ge fun hge => ?_⟩
    exact absurd (roundHalf_key_mono hge) (not_le.mpr hkey)

-- A tie goes down to an even half and up to one, and a carry leaves the fraction.
example : (ofBits 0x3f801000 : Single).roundHalf = ofBits 0x3f800000 ∧
    (ofBits 0x3f803000 : Single).roundHalf = ofBits 0x3f804000 ∧
    (ofBits 0xbffff000 : Single).roundHalf = ofBits 0xc0000000 ∧
    (ofBits 0x33000001 : Single).roundHalf = ofBits 0x33800000 := by
  decide +kernel

end Binary
end ShaderGraph
