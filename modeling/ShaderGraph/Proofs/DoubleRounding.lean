import ShaderGraph.Constant.Basic
import ShaderGraph.Proofs.HalfRounding
import Mathlib.Data.List.Forall2

/-!
# Rounding twice

The halves of a constant come from numbers in double precision, which are rounded to single precision
first. Every middle between two halves is a single, so the first rounding takes no number across such a
middle. It may take one onto a middle, and then the second rounding goes to the even half also
where the odd one was nearer. In every other case the result is the nearest half.
-/
namespace ShaderGraph

namespace Format

theorem exists_single_middle {n : Nat} (hn : n < binary16.infinity) :
    ∃ m < binary32.infinity, binary32.value m = binary16.middle n := by
  have hinfinity : binary16.infinity = 31744 := by decide
  have hinfinity' : binary32.infinity = 2139095040 := by decide
  rcases Nat.lt_or_ge n 1024 with hsmall | hlarge
  · have hlog : Nat.log2 (2 * n + 1) < 11 := (Nat.log2_lt (by omega)).mpr (by omega)
    have hbits : binary32.fractionBits = 23 := rfl
    have hquantum : binary32.quantum = -149 := by decide
    have hexponent : binary32.exponentBits = 8 := rfl
    obtain ⟨m, hm, hvalue⟩ := exists_value (g := binary32) (m := 2 * n + 1) (e := -25) (by omega)
      (by rw [hbits]; omega) (by rw [hbits, hquantum]; omega) (by rw [hbits, hquantum, hexponent]; omega)
    refine ⟨m, hm, ?_⟩
    rw [hvalue, middle, half_units (by omega), half_units (by omega),
      show (-24 : ℤ) = 1 + -25 by norm_num, zpow_add₀ (by norm_num)]
    push_cast
    ring
  · exact ⟨_, by omega, (single_value_of_half hlarge).2⟩

variable {x : ℚ} {m n h : Nat}

/-- The first rounding does not cross a middle between halves. -/
theorem InCell.not_crossed (hm : binary32.InCell x m) (hn : n < binary16.infinity) :
    (binary32.value m < binary16.middle n → x < binary16.middle n) ∧
      (binary16.middle n < binary32.value m → binary16.middle n < x) := by
  obtain ⟨k, hk, hvalue⟩ := exists_single_middle hn
  have hcell := inCell_value (f := binary32) hk.le
  rw [← hvalue]
  constructor <;> intro hlt <;> by_contra hge <;>
    refine absurd (binary32.value_strictMono.lt_iff_lt.mp hlt) (not_lt.mpr ?_)
  · exact hcell.mono hm (not_lt.mp hge)
  · exact hm.mono hcell (not_lt.mp hge)

/-- The single nearest to the number is the middle between two neighbouring halves, and the number
itself lies on the side of the odd one. -/
def Tips (x : ℚ) : Prop :=
  ∃ m n, binary32.IsNearest x m ∧ n < binary16.infinity ∧ binary32.value m = binary16.middle n ∧
    (n % 2 = 0 ∧ binary16.middle n < x ∨ n % 2 = 1 ∧ x < binary16.middle n)

/-- The half nearest to the nearest single is the nearest half, unless the number tips. -/
theorem isNearest_of_single_iff (hm : binary32.InCell x m) (hh : binary16.InCell (binary32.value m) h) :
    binary16.IsNearest x h ↔ ¬ Tips x := by
  rw [isNearest_iff]
  constructor
  · rintro hx ⟨m', n, hm', hn, hmiddle, htips⟩
    obtain rfl := hm.unique hm'.inCell
    rw [hmiddle] at hh
    -- The even half has the middle, so it is the result, and the number is beyond the middle.
    rcases htips with ⟨heven, hlt⟩ | ⟨hodd, hlt⟩
    · have hcell : binary16.InCell (binary16.middle n) n := by
        refine ⟨hn.le, fun k hk => ⟨?_, by omega⟩, fun _ => ⟨le_rfl, by omega⟩⟩
        exact (binary16.middle_strictMono (by omega)).le
      obtain rfl := hh.unique hcell
      exact absurd hlt (not_lt.mpr (hx.high hn).1)
    · have hcell : binary16.InCell (binary16.middle n) (n + 1) := by
        refine ⟨hn, fun k hk => ⟨?_, by omega⟩, fun _ => ⟨?_, by omega⟩⟩
        · obtain rfl : k = n := by omega
          exact le_rfl
        · exact (binary16.middle_strictMono (Nat.lt_succ_self n)).le
      obtain rfl := hh.unique hcell
      exact absurd hlt (not_lt.mpr (hx.low n rfl).1)
  · intro hnot
    have htips : ∀ n, n < binary16.infinity → binary32.value m = binary16.middle n →
        (n % 2 = 0 → x ≤ binary16.middle n) ∧ (n % 2 = 1 → binary16.middle n ≤ x) := by
      intro n hn hmiddle
      constructor <;> intro hparity <;> by_contra hlt <;>
        refine hnot ⟨m, n, hm.isNearest, hn, hmiddle, ?_⟩
      · exact Or.inl ⟨hparity, not_le.mp hlt⟩
      · exact Or.inr ⟨hparity, not_le.mp hlt⟩
    refine ⟨hh.bounded, fun k hk => ?_, fun hlt => ?_⟩
    · have hk' : k < binary16.infinity := by
        have := hh.bounded
        omega
      obtain ⟨hlow, hlow'⟩ := hh.low k hk
      rcases hlow.lt_or_eq with hlt | heq
      · have := (hm.not_crossed hk').2 hlt
        exact ⟨this.le, fun _ => this⟩
      · have heven : h % 2 = 0 := by
          by_contra hodd
          exact absurd heq (hlow' (by omega)).ne
        exact ⟨(htips k hk' heq.symm).2 (by omega), by omega⟩
    · obtain ⟨hhigh, hhigh'⟩ := hh.high hlt
      rcases hhigh.lt_or_eq with hless | heq
      · have := (hm.not_crossed hlt).1 hless
        exact ⟨this.le, fun _ => this⟩
      · have heven : h % 2 = 0 := by
          by_contra hodd
          exact absurd heq (hhigh' (by omega)).ne
        exact ⟨(htips h hlt heq).1 heven, by omega⟩

end Format

namespace Constant

open Binary

theorem single_inCell {x : Double} (hx : x.isFinite = true) :
    (single x).negative = x.negative ∧
      Format.binary32.InCell (Format.binary64.value x.magnitude) (single x).magnitude := by
  have hlt : x.magnitude < Format.binary64.infinity := by simpa [isFinite] using hx
  exact convert_inCell hlt

structure HalfMade (x : Double) (y : Single) (s : Nat) (h : Binary .binary16) : Prop where
  single : Format.binary32.IsNearest (Format.binary64.value x.magnitude) s
  half : Format.binary16.IsNearest (Format.binary32.value s) h.magnitude
  sign : h.negative = x.negative
  held : y.SameNumber h

theorem exists_halfMade {x : Double} (hx : x.isFinite = true) : ∃ s h, HalfMade x (halfOf x) s h := by
  obtain ⟨hsign, hcell⟩ := single_inCell hx
  cases hs : (single x).isFinite with
  | true =>
    obtain ⟨h, hsign', hcell', hsame⟩ := exists_half hs
    exact ⟨_, h, hcell.isNearest, hcell'.isNearest, hsign'.trans hsign, hsame⟩
  | false =>
    -- A number beyond the singles is also beyond the halves.
    have hinf : (single x).magnitude = Format.binary32.infinity :=
      le_antisymm hcell.bounded (by simpa [isFinite] using hs)
    refine ⟨_, infinite x.negative, hcell.isNearest, ?_, rfl, ?_⟩
    · refine .infinite ?_
      rw [Format.binary16_limit, hinf]
      exact Format.binary32.value_strictMono.monotone (by decide)
    · rw [halfOf, roundHalf_of_not_finite hs]
      exact ⟨hsign, Or.inl ⟨by simp [isInfinite, hinf], by simp [infinite, isInfinite]⟩⟩

theorem vector?_eq {α : Type} {n : Nat} {xs : List α} (h : xs.length = n) :
    ∃ v : Vector α n, vector? n xs = some v ∧ v.toList = xs :=
  ⟨⟨xs.toArray, by simpa using h⟩, by rw [vector?, dif_pos h], rfl⟩

/-- A half constant holds, for each of its components, the half nearest to the single that is nearest
to the component. This is the half nearest to the component itself unless the component tips. -/
theorem halves_nearest_iff {l : Lanes} {xs : List Double} (hcount : xs.length = l.count)
    (hfinite : ∀ x ∈ xs, x.isFinite = true) :
    ∃ v, ofComponents (DataType.half l) xs = .ok (.half l v) ∧
      List.Forall₂ (fun x y => ∃ s h, HalfMade x y s h ∧
        (Format.binary16.IsNearest (Format.binary64.value x.magnitude) h.magnitude ↔
          ¬ Format.Tips (Format.binary64.value x.magnitude))) xs v.toList := by
  obtain ⟨v, hv, hlist⟩ := vector?_eq hcount
  refine ⟨v.map halfOf, ?_, ?_⟩
  · simp only [ofComponents, TypeTag.dataType?_ofDataType, ofVector, hv]
  · rw [Vector.toList_map, hlist, List.forall₂_map_right_iff, List.forall₂_same]
    intro x hx
    obtain ⟨s, h, hmade⟩ := exists_halfMade (hfinite x hx)
    exact ⟨s, h, hmade, Format.isNearest_of_single_iff hmade.single.inCell hmade.half.inCell⟩

def pastMiddle : Double := .ofBits 0x3ff0020000001000

theorem pastMiddle_tips : Format.Tips (Format.binary64.value pastMiddle.magnitude) := by
  have hsingle : (single pastMiddle).magnitude = 1065357312 := by decide +kernel
  have hcell := (single_inCell (x := pastMiddle) (by decide +kernel)).2
  have hmiddle := (Format.single_value_of_half (n := 15360) (by decide)).2
  have hparts : Format.binary32.parts 1065357312 = (8392704, -23) := by decide +kernel
  have hparts' : Format.binary64.parts pastMiddle.magnitude = (4505798650630144, -52) := by
    decide +kernel
  rw [hsingle] at hcell
  refine ⟨1065357312, 15360, hcell.isNearest, by decide, hmiddle, Or.inl ⟨by decide, ?_⟩⟩
  rw [← hmiddle, Format.value, Format.value, hparts', hparts]
  norm_num

theorem pastMiddle_not_nearest : ∃ v,
    ofComponents (DataType.half .one) [pastMiddle] = .ok (.half .one v) ∧ v.toList = [one] ∧
      (∃ h : Binary .binary16, one.SameNumber h ∧
        ¬ Format.binary16.IsNearest (Format.binary64.value pastMiddle.magnitude) h.magnitude) ∧
      Format.binary16.IsNearest (Format.binary64.value pastMiddle.magnitude) 15361 := by
  have hcount : [pastMiddle].length = Lanes.one.count := rfl
  have hfinite : ∀ x ∈ [pastMiddle], x.isFinite = true := by
    simpa using (by decide +kernel : pastMiddle.isFinite = true)
  obtain ⟨v, hv, hall⟩ := halves_nearest_iff hcount hfinite
  have hone : ofComponents (DataType.half .one) [pastMiddle] = .ok (.half .one #v[one]) := by
    decide +kernel
  obtain rfl : v = #v[one] := eq_of_heq (Constant.half.inj (Except.ok.inj (hv.symm.trans hone))).2
  obtain ⟨s, h, hmade, hiff⟩ := (List.forall₂_cons.mp hall).1
  refine ⟨_, hone, rfl, ⟨h, hmade.held, fun hnearest => hiff.mp hnearest pastMiddle_tips⟩, ?_⟩
  have hnext : Format.binary16.nearest pastMiddle.ratio.1 pastMiddle.ratio.2 = 15361 := by
    decide +kernel
  have hnearest := Format.isNearest_nearest (f := .binary16) pastMiddle.ratio.1
    pastMiddle.ratio_den_pos
  rwa [hnext, pastMiddle.ratio_value] at hnearest

end Constant
end ShaderGraph
