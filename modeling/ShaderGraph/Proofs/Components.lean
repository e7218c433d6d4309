import ShaderGraph.Proofs.DoubleRounding
import ShaderGraph.Proofs.Outcome
import ShaderGraph.Proofs.RoundTrip

/-!
# Constants and their components

A numeric constant is made of a list of numbers in double precision, and it lists its components in
single precision. The two directions are stated in exact arithmetic: which lists make a constant, what
each component of it is, and which constants are made again of the components that they list. Only
integers can be lost on the way, those that no single holds.
-/
namespace ShaderGraph

namespace Binary

variable {f g : Format}

def toRat (x : Binary f) : ℚ := if x.negative then -f.value x.magnitude else f.value x.magnitude

/-- `y` is `x` rounded to another format, to the nearest number and of two to the even one. -/
inductive IsRounded (x : Binary f) (y : Binary g) : Prop
  | nan : x.isNaN = true → y.isNaN = true → IsRounded x y
  | infinite : x.isInfinite = true → y = .infinite x.negative → IsRounded x y
  | finite : x.isFinite = true → y.negative = x.negative →
      g.IsNearest (f.value x.magnitude) y.magnitude → IsRounded x y

def SameValue (x : Binary f) (y : Binary g) : Prop :=
  x.isNaN = true ∧ y.isNaN = true ∨ x.SameNumber y

theorem isRounded_convert [g.Proper] (x : Binary f) : x.IsRounded (x.convert g) := by
  rcases x.cases_magnitude with hx | hx | hx
  · refine .nan hx ?_
    rw [convert_of_isNaN hx]
    exact isNaN_nan
  · refine .infinite ?_ ?_
    · rw [hx]
      simp [isInfinite, infinite]
    · conv_lhs => rw [hx, convert_infinite]
  · obtain ⟨hsign, hcell⟩ := convert_inCell (g := g) hx
    exact .finite (by simp [isFinite, hx]) hsign hcell.isNearest

theorem exists_rounded_half (x : Single) :
    ∃ h : Binary .binary16, x.IsRounded h ∧ x.roundHalf.SameValue h := by
  rcases x.cases_magnitude with hx | hx | hx
  · have hnot : x.isFinite = false := by
      simp only [isNaN, decide_eq_true_eq] at hx
      simp [isFinite, hx.le]
    rw [roundHalf_of_not_finite hnot]
    exact ⟨.nan, .nan hx isNaN_nan, Or.inl ⟨hx, isNaN_nan⟩⟩
  · have hinf : x.isInfinite = true := by
      rw [hx]
      simp [isInfinite, infinite]
    have hnot : x.isFinite = false := by
      rw [hx]
      simp [isFinite, infinite]
    rw [roundHalf_of_not_finite hnot]
    exact ⟨.infinite x.negative, .infinite hinf rfl,
      Or.inr ⟨rfl, Or.inl ⟨hinf, by simp [isInfinite, infinite]⟩⟩⟩
  · have hfinite : x.isFinite = true := by simp [isFinite, hx]
    obtain ⟨h, hsign, hcell, hsame⟩ := exists_half hfinite
    exact ⟨h, .finite hfinite hsign hcell.isNearest, Or.inr hsame⟩

/-! ## Integers among the numbers -/

theorem value_eq_natAbs {x : Binary f} {n : ℤ} (h : x.toRat = n) :
    f.value x.magnitude = n.natAbs ∧ (f.value x.magnitude ≠ 0 → x.negative = decide (n < 0)) := by
  have hpos : 0 ≤ f.value x.magnitude := by
    rw [Format.value]
    positivity
  have habs : ((n.natAbs : ℕ) : ℚ) = |(n : ℚ)| := by
    rw [Nat.cast_natAbs, Int.cast_abs]
  rw [habs]
  rw [toRat] at h
  split at h
  · rename_i hneg
    refine ⟨by rw [← h, abs_neg, abs_of_nonneg hpos], fun hne => ?_⟩
    have hlt : (n : ℚ) < 0 := by
      rw [← h]
      exact neg_lt_zero.mpr (lt_of_le_of_ne hpos (Ne.symm hne))
    rw [hneg, eq_comm, decide_eq_true_eq]
    exact_mod_cast hlt
  · rename_i hneg
    refine ⟨by rw [← h, abs_of_nonneg hpos], fun _ => ?_⟩
    have hle : (0 : ℚ) ≤ n := by rwa [← h]
    have hle' : 0 ≤ n := by exact_mod_cast hle
    rw [Bool.not_eq_true] at hneg
    rw [hneg, eq_comm, decide_eq_false_iff_not]
    omega

theorem toInt?_eq_some {x : Binary f} {n : ℤ} :
    x.toInt? = some n ↔ x.isFinite = true ∧ x.toRat = n := by
  have hden := x.ratio_den_pos
  have hvalue := x.ratio_value
  rw [toInt?, Option.ite_none_right_eq_some]
  refine and_congr_right fun _ => ?_
  rcases hratio : x.ratio with ⟨num, den⟩
  rw [hratio] at hden hvalue
  have hd : (den : ℚ) ≠ 0 := by exact_mod_cast hden.ne'
  simp only [Option.ite_none_right_eq_some, Option.some.injEq]
  constructor
  · rintro ⟨hmod, rfl⟩
    have hquotient : ((num / den : ℕ) : ℚ) = f.value x.magnitude := by
      obtain ⟨k, rfl⟩ := Nat.dvd_of_mod_eq_zero hmod
      rw [← hvalue, Nat.mul_div_cancel_left k hden, Nat.cast_mul, mul_div_cancel_left₀ _ hd]
    rw [toRat, ← hquotient]
    split <;> push_cast <;> rfl
  · intro h
    obtain ⟨habs, hsign⟩ := value_eq_natAbs h
    have hnum : num = n.natAbs * den := by
      rw [habs, div_eq_iff hd] at hvalue
      exact_mod_cast hvalue
    refine ⟨by rw [hnum, Nat.mul_mod_left], ?_⟩
    rw [hnum, Nat.mul_div_cancel _ hden]
    by_cases hzero : f.value x.magnitude = 0
    · rw [habs, Nat.cast_eq_zero] at hzero
      rw [hzero, Int.natAbs_eq_zero.mp hzero]
      split <;> rfl
    · rw [hsign hzero]
      simp only [decide_eq_true_eq]
      omega

/-- A number and the single nearest to it, both of one integer, are equal but for the sign of zero. -/
theorem ofInt_equals_convert {x : Binary f} {n : ℤ} [g.Proper] (hx : x.isFinite = true)
    (hn : x.toRat = n) : (ofInt n : Binary g).equals (x.convert g) = true := by
  have hlt : x.magnitude < f.infinity := by simpa [isFinite] using hx
  obtain ⟨habs, hsign⟩ := value_eq_natAbs hn
  obtain ⟨hnegative, hcell⟩ := convert_inCell (g := g) hlt
  have hcell' := Format.inCell_nearest (f := g) n.natAbs Nat.one_pos
  rw [Nat.cast_one, div_one, ← habs] at hcell'
  have hmagnitude : (ofInt n : Binary g).magnitude = (x.convert g).magnitude :=
    hcell'.unique hcell
  have hnan : ∀ y : Binary g, y.magnitude = (x.convert g).magnitude → y.isNaN = false := by
    intro y hy
    simp [isNaN, hy, hcell.bounded]
  rw [equals, hnan _ hmagnitude, hnan _ rfl, hmagnitude, beq_self_eq_true, hnegative]
  by_cases hzero : f.value x.magnitude = 0
  · have hnone : (ofInt n : Binary g).isZero = true := by
      rw [habs, Nat.cast_eq_zero] at hzero
      rw [isZero, ofInt, ofRatio, hzero]
      rfl
    rw [hnone]
    simp
  · have hsigns : (ofInt n : Binary g).negative = x.negative := (hsign hzero).symm
    rw [hsigns]
    simp

theorem toRat_ofInt_iff {n : ℤ} [g.Proper] :
    ((ofInt n : Binary g).isFinite = true ∧ (ofInt n : Binary g).toRat = n) ↔
      ∃ y : Binary g, y.isFinite = true ∧ y.toRat = n := by
  refine ⟨fun h => ⟨_, h⟩, ?_⟩
  rintro ⟨y, hy, hn⟩
  have hlt : y.magnitude < g.infinity := by simpa [isFinite] using hy
  obtain ⟨habs, _⟩ := value_eq_natAbs hn
  have hratio : ((n.natAbs : ℕ) : ℚ) / (1 : ℕ) = g.value y.magnitude := by
    rw [habs, Nat.cast_one, div_one]
  rw [ofInt, ofRatio_of_value _ hlt Nat.one_pos hratio]
  refine ⟨by simp [isFinite, hlt], ?_⟩
  rw [toRat, habs]
  simp only [decide_eq_true_eq]
  have hcast : (n : ℚ) = if n < 0 then -((n.natAbs : ℕ) : ℚ) else ((n.natAbs : ℕ) : ℚ) := by
    split
    · rw [Nat.cast_natAbs, abs_of_neg (by assumption)]
      push_cast
      ring
    · rw [Nat.cast_natAbs, abs_of_nonneg (by omega)]
  exact hcast.symm

theorem toRat_convert [g.Proper] (h : Format.Embeds f g) {x : Binary f} (hx : x.isNaN = false) :
    (x.convert g).isFinite = x.isFinite ∧ (x.isFinite = true → (x.convert g).toRat = x.toRat) := by
  rcases x.cases_magnitude with hnan | hinf | hlt
  · rw [hx] at hnan
    cases hnan
  · rw [hinf, convert_infinite]
    simp [isFinite, infinite]
  · obtain ⟨magnitude, hfinite, hvalue⟩ := h.exists_value hlt
    rw [convert_of_value hlt hfinite hvalue]
    refine ⟨by simp [isFinite, hlt, hfinite], fun _ => ?_⟩
    rw [toRat, toRat, hvalue]

end Binary

namespace Constant

open Binary

/-! ## Which components make a constant -/

def Stores (x : Double) (n : Int32) : Prop := x.isFinite = true ∧ x.toRat = n.toInt

theorem int32?_eq_some {x : Double} {n : Int32} : int32? x = some n ↔ Stores x n := by
  have hstores : Stores x n ↔ x.toInt? = some n.toInt := toInt?_eq_some.symm
  rw [hstores, int32?]
  cases x.toInt? with
  | none => simp
  | some m =>
    simp only [Option.ite_none_right_eq_some, Option.some.injEq]
    constructor
    · rintro ⟨⟨hlow, hhigh⟩, rfl⟩
      rw [Int32.toInt_ofInt_of_le (by simpa using hlow) (by simpa using hhigh)]
    · rintro rfl
      exact ⟨int32_bounds n, Int32.ofInt_toInt n⟩

theorem integers_eq_ok {t : DataType} {i : Nat} {xs : List Double} {ns : List Int32} :
    integers t i xs = .ok ns ↔ List.Forall₂ Stores xs ns := by
  induction xs generalizing i ns with
  | nil => simp [integers, eq_comm]
  | cons x xs ih =>
    rw [integers, List.forall₂_cons_left_iff]
    cases hx : int32? x with
    | none =>
      constructor
      · intro h
        cases h
      · rintro ⟨n, _, hn, _⟩
        rw [int32?_eq_some.mpr hn] at hx
        cases hx
    | some n =>
      constructor
      · intro h
        cases hrest : integers t (i + 1) xs with
        | error e =>
          rw [hrest] at h
          cases h
        | ok rest =>
          rw [hrest] at h
          exact ⟨n, rest, int32?_eq_some.mp hx, ih.mp hrest, (Except.ok.inj h).symm⟩
      · rintro ⟨m, rest, hm, hrest, rfl⟩
        obtain rfl : n = m := Option.some.inj (hx.symm.trans (int32?_eq_some.mpr hm))
        simp only [ih.mpr hrest]
        rfl

theorem vector?_eq_some {α : Type} {n : Nat} {xs : List α} {v : Vector α n} :
    vector? n xs = some v ↔ v.toList = xs := by
  rw [vector?]
  split
  · rename_i h
    rw [Option.some.injEq, ← Vector.toList_inj, eq_comm]
    rfl
  · rename_i h
    constructor
    · intro hnone
      cases hnone
    · rintro rfl
      exact absurd v.length_toList h

inductive Makes : DataType → List Double → Constant → Prop
  | bool (x : Double) : Makes .bool [x] (.bool !x.isZero)
  | int {l : Lanes} {xs : List Double} (v : Vector Int32 l.count) :
      List.Forall₂ Stores xs v.toList → Makes (.int l) xs (.int l v)
  | half {l : Lanes} {xs : List Double} (v : Vector Single l.count) :
      v.toList = xs.map halfOf → Makes (.half l) xs (.half l v)
  | float {l : Lanes} {xs : List Double} (v : Vector Single l.count) :
      v.toList = xs.map single → Makes (.float l) xs (.float l v)
  | color {c : Channels} {xs : List Double} (v : Vector Single c.count) :
      v.toList = xs.map single → Makes (.color c) xs (.color c v [])
  | matrix {o : Order} {xs : List Double} (v : Vector Single (o.count * o.count)) :
      v.toList = xs.map single → Makes (.matrix o) xs (.matrix o v)

theorem ofVector_map_eq_ok {β : Type} {n : Nat} {t : DataType} {xs : List Double} {c : Constant}
    (f : Double → β) (make : Vector β n → Constant)
    (hsome : ∀ v, vector? n xs = some v → ofVector t xs = .ok (make (v.map f)))
    (hnone : vector? n xs = none → ofVector t xs ≠ .ok c) :
    ofVector t xs = .ok c ↔ ∃ v : Vector β n, v.toList = xs.map f ∧ make v = c := by
  cases hv : vector? n xs with
  | none =>
    refine ⟨fun h => absurd h (hnone hv), ?_⟩
    rintro ⟨v, hlist, _⟩
    have hlength : xs.length = n := by
      rw [← List.length_map (f := f), ← hlist, Vector.length_toList]
    obtain ⟨w, hw, _⟩ := vector?_eq hlength
    rw [hv] at hw
    cases hw
  | some v =>
    have hlist := vector?_eq_some.mp hv
    rw [hsome v hv, Except.ok.injEq]
    constructor
    · rintro rfl
      exact ⟨v.map f, by rw [Vector.toList_map, hlist], rfl⟩
    · rintro ⟨w, hw, rfl⟩
      have hmap : v.map f = w := by rw [← Vector.toList_inj, Vector.toList_map, hlist, hw]
      rw [hmap]

theorem ofVector_int_eq_ok {l : Lanes} {xs : List Double} {c : Constant} :
    ofVector (.int l) xs = .ok c ↔
      ∃ v : Vector Int32 l.count, List.Forall₂ Stores xs v.toList ∧ .int l v = c := by
  constructor
  · intro h
    simp only [ofVector] at h
    split at h
    · cases h
    · obtain ⟨ns, hns, hmake⟩ := Outcome.bind_eq_ok.mp h
      split at hmake
      · rename_i v hv
        refine ⟨v, ?_, Except.ok.inj hmake⟩
        rw [vector?_eq_some.mp hv]
        exact integers_eq_ok.mp hns
      · cases hmake
  · rintro ⟨v, hv, rfl⟩
    have hlength : xs.length = l.count := by rw [hv.length_eq, Vector.length_toList]
    obtain ⟨w, hw, _⟩ := vector?_eq hlength
    have hvector : vector? l.count v.toList = some v := vector?_eq_some.mpr rfl
    simp only [ofVector, hw, integers_eq_ok.mpr hv, bind, Except.bind, hvector]
    rfl

theorem ofVector_eq_ok {t : DataType} {xs : List Double} {c : Constant} :
    ofVector t xs = .ok c ↔ Makes t xs c := by
  cases t with
  | bool =>
    constructor
    · intro h
      simp only [ofVector] at h
      split at h
      · obtain rfl := Except.ok.inj h
        exact .bool _
      · cases h
    · rintro ⟨x⟩
      rfl
  | int l =>
    rw [ofVector_int_eq_ok]
    constructor
    · rintro ⟨v, hv, rfl⟩
      exact .int v hv
    · rintro ⟨⟩
      exact ⟨_, by assumption, rfl⟩
  | half l =>
    rw [ofVector_map_eq_ok halfOf (.half l) (fun v hv => by simp only [ofVector, hv])
      (fun hv => by simp [ofVector, hv])]
    constructor
    · rintro ⟨v, hv, rfl⟩
      exact .half v hv
    · rintro ⟨⟩
      exact ⟨_, by assumption, rfl⟩
  | float l =>
    rw [ofVector_map_eq_ok single (.float l) (fun v hv => by simp only [ofVector, hv])
      (fun hv => by simp [ofVector, hv])]
    constructor
    · rintro ⟨v, hv, rfl⟩
      exact .float v hv
    · rintro ⟨⟩
      exact ⟨_, by assumption, rfl⟩
  | color ch =>
    rw [ofVector_map_eq_ok single (.color ch · []) (fun v hv => by simp only [ofVector, hv])
      (fun hv => by simp [ofVector, hv])]
    constructor
    · rintro ⟨v, hv, rfl⟩
      exact .color v hv
    · rintro ⟨⟩
      exact ⟨_, by assumption, rfl⟩
  | matrix o =>
    rw [ofVector_map_eq_ok single (.matrix o) (fun v hv => by simp only [ofVector, hv])
      (fun hv => by simp [ofVector, hv])]
    constructor
    · rintro ⟨v, hv, rfl⟩
      exact .matrix v hv
    · rintro ⟨⟩
      exact ⟨_, by assumption, rfl⟩
  | string | token | asset => constructor <;> intro h <;> cases h

def IsInt32 (x : Double) : Prop :=
  ∃ n : ℤ, -2 ^ 31 ≤ n ∧ n ≤ 2 ^ 31 - 1 ∧ x.isFinite = true ∧ x.toRat = n

theorem exists_stores_iff {x : Double} : (∃ n, Stores x n) ↔ IsInt32 x := by
  constructor
  · rintro ⟨n, hfinite, hn⟩
    obtain ⟨hlow, hhigh⟩ := int32_bounds n
    exact ⟨n.toInt, by omega, by omega, hfinite, hn⟩
  · rintro ⟨n, hlow, hhigh, hfinite, hn⟩
    refine ⟨Int32.ofInt n, hfinite, ?_⟩
    rw [Int32.toInt_ofInt_of_le (by omega) (by omega), hn]

theorem exists_forall₂_stores_iff {xs : List Double} :
    (∃ ns, List.Forall₂ Stores xs ns) ↔ ∀ x ∈ xs, IsInt32 x := by
  induction xs with
  | nil => exact ⟨fun _ x hx => (nomatch hx), fun _ => ⟨[], .nil⟩⟩
  | cons x xs ih =>
    rw [List.forall_mem_cons, ← ih, ← exists_stores_iff]
    constructor
    · rintro ⟨_, hns⟩
      cases hns with
      | cons hn hns => exact ⟨⟨_, hn⟩, _, hns⟩
    · rintro ⟨⟨n, hn⟩, ns, hns⟩
      exact ⟨n :: ns, .cons hn hns⟩

/-- The components may be those of a constant of the type. -/
structure Fits (t : DataType) (xs : List Double) : Prop where
  numeric : t ≠ .string ∧ t ≠ .token ∧ t ≠ .asset
  count : xs.length = t.components
  integers : t.isInteger = true → ∀ x ∈ xs, IsInt32 x

theorem exists_vector {α : Type} {n : Nat} {xs : List α} (h : xs.length = n) :
    ∃ v : Vector α n, v.toList = xs := by
  obtain ⟨v, _, hv⟩ := vector?_eq h
  exact ⟨v, hv⟩

theorem Makes.fits {t : DataType} {xs : List Double} {c : Constant} (h : Makes t xs c) :
    Fits t xs := by
  have hcount {β : Type} {n : Nat} {f : Double → β} {v : Vector β n} (hv : v.toList = xs.map f) :
      xs.length = n := by
    rw [← List.length_map (f := f), ← hv, Vector.length_toList]
  cases h with
  | bool x => exact ⟨by simp, rfl, fun h => (nomatch h)⟩
  | int v hv =>
    refine ⟨by simp, ?_, fun _ => exists_forall₂_stores_iff.mp ⟨_, hv⟩⟩
    rw [hv.length_eq, Vector.length_toList]
    rfl
  | half v hv => exact ⟨by simp, hcount hv, fun h => (nomatch h)⟩
  | float v hv => exact ⟨by simp, hcount hv, fun h => (nomatch h)⟩
  | color v hv => exact ⟨by simp, hcount hv, fun h => (nomatch h)⟩
  | matrix v hv => exact ⟨by simp, hcount hv, fun h => (nomatch h)⟩

theorem Fits.exists_makes {t : DataType} {xs : List Double} (h : Fits t xs) :
    ∃ c, Makes t xs c := by
  have hmap {β : Type} (f : Double → β) :
      ∃ v : Vector β t.components, v.toList = xs.map f :=
    exists_vector (by rw [List.length_map, h.count])
  cases t with
  | bool =>
    obtain ⟨x, rfl⟩ := List.length_eq_one_iff.mp h.count
    exact ⟨_, .bool x⟩
  | int l =>
    obtain ⟨ns, hns⟩ := exists_forall₂_stores_iff.mpr (h.integers rfl)
    obtain ⟨v, rfl⟩ := exists_vector (n := l.count) (hns.length_eq.symm.trans h.count)
    exact ⟨_, .int v hns⟩
  | half l =>
    obtain ⟨v, hv⟩ := hmap halfOf
    exact ⟨_, .half v hv⟩
  | float l =>
    obtain ⟨v, hv⟩ := hmap single
    exact ⟨_, .float v hv⟩
  | color ch =>
    obtain ⟨v, hv⟩ := hmap single
    exact ⟨_, .color v hv⟩
  | matrix o =>
    obtain ⟨v, hv⟩ := hmap single
    exact ⟨_, .matrix v hv⟩
  | string => exact absurd rfl h.numeric.1
  | token => exact absurd rfl h.numeric.2.1
  | asset => exact absurd rfl h.numeric.2.2

theorem exists_ofVector_iff {t : DataType} {xs : List Double} :
    (∃ c, ofVector t xs = .ok c) ↔ Fits t xs := by
  simp only [ofVector_eq_ok]
  exact ⟨fun ⟨_, h⟩ => h.fits, Fits.exists_makes⟩

/-! ## What its components are -/

def heldIntegers : Constant → List Int32
  | .int _ v => v.toList
  | _ => []

def Lists (t : DataType) (x : Double) (y : Single) : Prop :=
  match t with
  | .bool => y = if x.isZero then .zero else one
  | .int _ => ∃ s : Single, x.IsRounded s ∧ y.equals s = true
  | .half _ => ∃ (s : Single) (h : Binary .binary16), x.IsRounded s ∧ s.IsRounded h ∧ y.SameValue h
  | _ => x.IsRounded y

structure MadeOf (t : DataType) (xs : List Double) (c : Constant) : Prop where
  type : c.dataType = t
  held : t.isInteger = true → List.Forall₂ (fun x n => x.toRat = n.toInt) xs c.heldIntegers
  listed : List.Forall₂ (Lists t) xs c.components

theorem forall₂_map_self {α β : Type} {R : α → β → Prop} {f : α → β} (h : ∀ a, R a (f a))
    (xs : List α) : List.Forall₂ R xs (xs.map f) := by
  rw [List.forall₂_map_right_iff, List.forall₂_same]
  exact fun a _ => h a

theorem Makes.madeOf {t : DataType} {xs : List Double} {c : Constant} (h : Makes t xs c) :
    MadeOf t xs c := by
  have hsingle (x : Double) : x.IsRounded (single x) := isRounded_convert x
  cases h with
  | bool x =>
    refine ⟨rfl, fun h => (nomatch h), .cons ?_ .nil⟩
    change (if (!x.isZero) = true then one else Binary.zero) = if x.isZero = true then _ else _
    cases x.isZero <;> rfl
  | int v hv =>
    refine ⟨rfl, fun _ => hv.imp fun _ _ hn => hn.2, ?_⟩
    rw [components, List.forall₂_map_right_iff]
    exact hv.imp fun x n hn => ⟨single x, hsingle x, ofInt_equals_convert hn.1 hn.2⟩
  | half v hv =>
    refine ⟨rfl, fun h => (nomatch h), ?_⟩
    rw [components, hv]
    refine forall₂_map_self (fun x => ?_) xs
    obtain ⟨h, hrounded, hsame⟩ := exists_rounded_half (single x)
    exact ⟨single x, h, hsingle x, hrounded, hsame⟩
  | float v hv =>
    refine ⟨rfl, fun h => (nomatch h), ?_⟩
    rw [components, hv]
    exact forall₂_map_self hsingle xs
  | color v hv =>
    refine ⟨rfl, fun h => (nomatch h), ?_⟩
    rw [components, hv]
    exact forall₂_map_self hsingle xs
  | matrix v hv =>
    refine ⟨rfl, fun h => (nomatch h), ?_⟩
    rw [components, hv]
    exact forall₂_map_self hsingle xs

/-! ## Which constants are made again -/

/-- A numeric constant without a color space and without components that are no numbers, where halves
hold halves. -/
def Bare : Constant → Prop
  | .bool _ | .int _ _ => True
  | .half _ v => ∀ y ∈ v.toList, ∃ h : Binary .binary16, y.SameNumber h
  | .float _ v | .matrix _ v => ∀ y ∈ v.toList, y.isNaN = false
  | .color _ v space => (∀ y ∈ v.toList, y.isNaN = false) ∧ space = []
  | .string _ | .token _ | .asset _ => False

def HasSingle (n : Int32) : Prop := ∃ y : Single, y.isFinite = true ∧ y.toRat = n.toInt

def widened (c : Constant) : List Double := c.components.map (·.convert .binary64)

theorem stores_widened_iff (n : Int32) :
    Stores ((ofInt n.toInt : Single).convert .binary64) n ↔ HasSingle n := by
  have hcell := Format.inCell_nearest (f := .binary32) n.toInt.natAbs Nat.one_pos
  have hnan : (ofInt n.toInt : Single).isNaN = false := by
    rw [isNaN, decide_eq_false_iff_not, not_lt]
    exact hcell.bounded
  obtain ⟨hfinite, hvalue⟩ := toRat_convert Format.single_embeds hnan
  rw [HasSingle, ← toRat_ofInt_iff, Stores, hfinite]
  refine and_congr_right fun h => ?_
  rw [hvalue h]

theorem map_single_widened {ys : List Single} (h : ∀ y ∈ ys, y.isNaN = false) :
    ys = (ys.map (·.convert .binary64)).map single := by
  rw [List.map_map]
  refine (List.map_id ys).symm.trans (List.map_congr_left fun y hy => ?_)
  have hcanonical : y.canonical = y := by rw [Binary.canonical, h y hy, if_neg (by decide)]
  have hback := single_convert y
  rw [hcanonical] at hback
  exact hback.symm

theorem map_halfOf_widened {ys : List Single} (h : ∀ y ∈ ys, ∃ h : Binary .binary16, y.SameNumber h) :
    ys = (ys.map (·.convert .binary64)).map halfOf := by
  rw [List.map_map]
  refine (List.map_id ys).symm.trans (List.map_congr_left fun y hy => ?_)
  obtain ⟨half, hsame⟩ := h y hy
  have hnan : y.isNaN = false := by simpa [isNaN] using hsame.magnitude_le
  have hcanonical : y.canonical = y := by rw [Binary.canonical, hnan, if_neg (by decide)]
  have hback := halfOf_convert (Or.inr ⟨half, hsame.eq_convert.symm⟩)
  rw [hcanonical] at hback
  exact hback.symm

theorem ofVector_widened_iff {c : Constant} (h : c.Bare) :
    ofVector c.dataType c.widened = .ok c ↔ ∀ n ∈ c.heldIntegers, HasSingle n := by
  have hnone {c : Constant} (hints : c.heldIntegers = []) (hmakes : Makes c.dataType c.widened c) :
      ofVector c.dataType c.widened = .ok c ↔ ∀ n ∈ c.heldIntegers, HasSingle n := by
    rw [ofVector_eq_ok, hints]
    simp [hmakes]
  cases c with
  | bool b =>
    refine hnone rfl ?_
    rw [← ofVector_eq_ok]
    cases b <;> decide
  | int l v =>
    have hmakes : ofVector (.int l) (Constant.int l v).widened = .ok (.int l v) ↔
        List.Forall₂ Stores (Constant.int l v).widened v.toList := by
      rw [ofVector_eq_ok]
      refine ⟨?_, .int v⟩
      rintro ⟨⟩
      assumption
    refine hmakes.trans ?_
    rw [widened, components, List.map_map, List.forall₂_map_left_iff, List.forall₂_same]
    exact forall₂_congr fun n _ => stores_widened_iff n
  | half l v => exact hnone rfl (.half v (map_halfOf_widened h))
  | float l v => exact hnone rfl (.float v (map_single_widened h))
  | color ch v space =>
    obtain ⟨hnan, rfl⟩ := h
    exact hnone rfl (.color v (map_single_widened hnan))
  | matrix o v => exact hnone rfl (.matrix v (map_single_widened h))
  | string s => exact h.elim
  | token s => exact h.elim
  | asset s => exact h.elim

/-- Making a constant of components and listing its components. A list makes a constant exactly if it
fits the type, the constant lists the components of the list rounded to single precision, and a constant
is made again of its own components exactly if singles hold its integers. -/
theorem ofComponents_components (tag : TypeTag) (xs : List Double) :
    ((∃ c, ofComponents tag xs = .ok c) ↔ ∃ t, tag.dataType? = some t ∧ Fits t xs) ∧
      (∀ c, ofComponents tag xs = .ok c → ∃ t, tag.dataType? = some t ∧ MadeOf t xs c) ∧
      ∀ c : Constant, c.Bare → (ofComponents c.dataType c.widened = .ok c ↔
        ∀ n ∈ c.heldIntegers, HasSingle n) := by
  refine ⟨?_, fun c hc => ?_, fun c hc => ?_⟩
  · rw [ofComponents]
    cases tag.dataType? with
    | none => simp
    | some t => simp [exists_ofVector_iff]
  · rw [ofComponents] at hc
    cases ht : tag.dataType? with
    | none =>
      rw [ht] at hc
      cases hc
    | some t =>
      rw [ht] at hc
      exact ⟨t, rfl, (ofVector_eq_ok.mp hc).madeOf⟩
  · rw [ofComponents, TypeTag.dataType?_ofDataType]
    exact ofVector_widened_iff hc

/-- The least integer is made again, and so is the last one before some have no single. The integer
after that is not: its component is that of the integer before it. -/
theorem wideIntegers_made_again :
    ofComponents (DataType.int .two) (Constant.int .two #v[-2147483648, 16777216]).widened =
        .ok (.int .two #v[-2147483648, 16777216]) ∧ HasSingle (-2147483648) ∧ HasSingle 16777216 ∧
      ofComponents (DataType.int .two) (Constant.int .two #v[16777216, 16777217]).widened =
        .ok (.int .two #v[16777216, 16777216]) ∧ ¬ HasSingle 16777217 := by
  have hagain := (ofComponents_components (DataType.int .two) []).2.2
  have hfirst : ofComponents (DataType.int .two)
      (Constant.int .two #v[-2147483648, 16777216]).widened =
        .ok (.int .two #v[-2147483648, 16777216]) := by decide +kernel
  have hsecond : ofComponents (DataType.int .two)
      (Constant.int .two #v[16777216, 16777217]).widened =
        .ok (.int .two #v[16777216, 16777216]) := by decide +kernel
  have hsingles := (hagain (.int .two #v[-2147483648, 16777216]) trivial).mp hfirst
  have hleast := hsingles (-2147483648) List.mem_cons_self
  have hgreatest := hsingles 16777216 (List.mem_cons_of_mem _ List.mem_cons_self)
  refine ⟨hfirst, hleast, hgreatest, hsecond, fun hnext => ?_⟩
  have hmade := (hagain (.int .two #v[16777216, 16777217]) trivial).mpr fun n hn => by
    rcases List.mem_pair.mp hn with rfl | rfl
    · exact hgreatest
    · exact hnext
  exact absurd (hsecond.symm.trans hmade) (by decide)

end Constant
end ShaderGraph
