import ShaderGraph.Proofs.HalfRounding
import ShaderGraph.Proofs.Tuples

/-!
# Literals are read back

Reading the literal of a constant gives the constant again. Numbers come back bit for bit, except
that the bits of a value that is not a number are not written, so they are read as `Binary.nan`.
Texture sources are not written either. A color whose space contains the mark that introduces spaces
is never read back, because the mark that is found is the last one.
-/
namespace ShaderGraph

def Binary.canonical {f : Format} (x : Binary f) : Binary f := if x.isNaN then .nan else x

def Binary.HoldsHalf (x : Single) : Prop :=
  x.isNaN = true ∨ ∃ h : Binary .binary16, h.convert .binary32 = x

namespace Constant

def canonical : Constant → Constant
  | .half l v => .half l (v.map Binary.canonical)
  | .float l v => .float l (v.map Binary.canonical)
  | .color c v space => .color c (v.map Binary.canonical) space
  | .matrix o v => .matrix o (v.map Binary.canonical)
  | c => c

def Expressible : Constant → Prop
  | .half _ v => ∀ x ∈ v.toList, Binary.HoldsHalf x
  | .asset source => source = none
  | _ => True

/-- A color whose space contains the mark that introduces spaces. -/
def SpaceMarked : Constant → Prop
  | .color _ _ space => Literal.Marked space
  | _ => False

theorem single_convert (x : Single) : single (x.canonical.convert .binary64) = x.canonical := by
  rw [single, Binary.convert_convert Format.single_embeds]
  by_cases h : x.isNaN = true
  · have hnan : x.canonical = .nan := if_pos h
    rw [hnan, if_pos Binary.isNaN_nan]
  · have hx : x.canonical = x := if_neg h
    rw [hx, if_neg h]

theorem halfOf_convert {x : Single} (h : Binary.HoldsHalf x) :
    halfOf (x.canonical.convert .binary64) = x.canonical := by
  obtain ⟨half, hhalf⟩ : ∃ half : Binary .binary16, half.convert .binary32 = x.canonical := by
    by_cases hnan : x.isNaN = true
    · refine ⟨.nan, ?_⟩
      rw [Binary.convert_of_isNaN Binary.isNaN_nan, Binary.canonical, if_pos hnan]
    · obtain ⟨half, hhalf⟩ := h.resolve_left hnan
      exact ⟨half, by rw [hhalf, Binary.canonical, if_neg hnan]⟩
  rw [halfOf, single_convert, ← hhalf, Binary.roundHalf_of_half]

theorem int32_bounds (n : Int32) : -2147483648 ≤ n.toInt ∧ n.toInt < 2147483648 := by
  exact ⟨n.le_toInt, n.toInt_lt⟩

theorem int32?_ofInt (n : Int32) : int32? (.ofInt n.toInt) = some n := by
  obtain ⟨hlow, hhigh⟩ := int32_bounds n
  have hlog : Nat.log2 n.toInt.natAbs ≤ 31 := by
    rcases Nat.eq_zero_or_pos n.toInt.natAbs with hzero | hpos
    · rw [hzero]
      decide
    · have hpow := Nat.log2_self_le (Nat.pos_iff_ne_zero.mp hpos)
      by_contra hlarge
      have hmono : 2 ^ 32 ≤ 2 ^ Nat.log2 n.toInt.natAbs := Nat.pow_le_pow_right (by decide) (by omega)
      omega
  have hbits : n.toInt.natAbs < 2 * 2 ^ Format.binary64.fractionBits := by
    have : 2 * 2 ^ Format.binary64.fractionBits = 9007199254740992 := by decide
    omega
  have hquantum : Format.binary64.quantum + Format.binary64.fractionBits = -1022 := by decide
  have hrange : (2 : Int) ^ Format.binary64.exponentBits = 2048 := by decide
  have hint := Binary.toInt?_ofInt hbits (by omega) (by omega)
  rw [int32?, hint]
  simp only [hlow, hhigh, and_self, if_true, Int32.ofInt_toInt]

theorem integers_ofInt (t : DataType) (i : Nat) (ns : List Int32) :
    integers t i (ns.map fun n => .ofInt n.toInt) = .ok ns := by
  induction ns generalizing i with
  | nil => rfl
  | cons n ns ih =>
    rw [List.map_cons, integers, int32?_ofInt]
    simp only [ih]
    rfl

theorem vector?_toList {α β : Type} {n : Nat} (v : Vector α n) (f : α → β) :
    vector? n (v.toList.map f) = some (v.map f) := by
  have hlen : (v.toList.map f).length = n := by simp
  rw [vector?, dif_pos hlen]
  congr 1
  apply Vector.toList_inj.mp
  simp [Vector.toList]

end Constant

namespace Literal

open Text

/-! ## Components -/

theorem mapM_map_ok {α β γ ε : Type} {f : α → β} {g : β → Except ε γ} {h : α → γ}
    (hg : ∀ a, g (f a) = .ok (h a)) (xs : List α) : (xs.map f).mapM g = .ok (xs.map h) := by
  induction xs with
  | nil => rfl
  | cons a xs ih =>
    rw [List.map_cons, List.mapM_cons, hg, ih]
    rfl

theorem readElement_number {t : DataType} (ht : t.isInteger = false) (x : Single) :
    readElement t (number x) = .ok (x.canonical.convert .binary64) := by
  rw [readElement, ht, if_neg (by decide), Numeral.readBinary_number]
  rfl

theorem readElement_ofInt {t : DataType} (ht : t.isInteger = true) (n : Int32) :
    readElement t (Text.ofInt n.toInt) = .ok (.ofInt n.toInt) := by
  obtain ⟨hlow, hhigh⟩ := Constant.int32_bounds n
  rw [readElement, ht, if_pos rfl, Numeral.readInt_ofInt (by decide) hlow hhigh]

def lanesText (l : Lanes) (ts : List Text) : Text :=
  match l with
  | .one => join [] ts
  | _ => tuple ts

theorem lanesText_one {ts : List Text} (hlen : ts.length = 1) : ∃ t, ts = [t] ∧ lanesText .one ts = t := by
  obtain ⟨t, rfl⟩ := List.length_eq_one_iff.mp hlen
  exact ⟨t, rfl, rfl⟩

theorem trim_lanesText {l : Lanes} {ts : List Text} (hlen : ts.length = l.count)
    (hts : ∀ t ∈ ts, Element t) : Text.trim (lanesText l ts) = lanesText l ts := by
  cases l with
  | one =>
    obtain ⟨t, rfl, htext⟩ := lanesText_one hlen
    rw [htext]
    exact (hts t List.mem_cons_self).trim
  | _ => exact trim_of_solid (tuple_head ts) (tuple_last ts)

theorem elements_lanesText {t : DataType} {l : Lanes} (hcount : t.components = l.count)
    (hmatrix : t.isMatrix = false) {ts : List Text} (hlen : ts.length = l.count)
    (hts : ∀ t ∈ ts, Element t) : elements t (lanesText l ts) = .ok ts := by
  rw [elements, hcount, hmatrix]
  cases l with
  | one =>
    obtain ⟨t, rfl, htext⟩ := lanesText_one hlen
    rw [htext]
    rfl
  | _ =>
    have hne : ts ≠ [] := by
      rintro rfl
      simp [Lanes.count] at hlen
    exact splitTuple_tuple hne hts

theorem flatten_pieces {α : Type} {size count : Nat} {xs : List α} (h : xs.length = count * size) :
    (pieces size count xs).flatten = xs := by
  induction count generalizing xs with
  | zero =>
    rw [Nat.zero_mul] at h
    rw [pieces, List.length_eq_zero_iff.mp h]
    rfl
  | succ count ih =>
    have hdrop : (xs.drop size).length = count * size := by
      rw [List.length_drop, h, Nat.succ_mul]
      omega
    rw [pieces, List.flatten_cons, ih hdrop, List.take_append_drop]

theorem length_of_mem_pieces {α : Type} {size count : Nat} {xs row : List α}
    (h : xs.length = count * size) (hrow : row ∈ pieces size count xs) : row.length = size := by
  induction count generalizing xs with
  | zero => simp [pieces] at hrow
  | succ count ih =>
    have hlen : xs.length = count * size + size := by rw [h, Nat.succ_mul]
    rcases List.mem_cons.mp hrow with rfl | hrow
    · rw [List.length_take]
      omega
    · exact ih (by rw [List.length_drop]; omega) hrow

/-! ## Constants -/

theorem parseNumeric_of_splits {t : DataType} {literal s body : Text} (space : Text)
    {ts : List Text} {xs : List Double} {c : Constant}
    (hspace : (if t.isColor then splitSpace s else .ok (s, [])) = .ok (body, space))
    (helements : elements t body = .ok ts) (hread : ts.mapM (readElement t) = .ok xs)
    (hvector : Constant.ofVector t xs = .ok c) :
    parseNumeric t literal s = .ok (if space.isEmpty then c else c.withColorSpace space) := by
  rw [parseNumeric]
  split at hspace
  · rename_i hcolor
    rw [if_pos hcolor, hspace]
    simp only [bind, Except.bind, helements, hread, hvector, Except.mapError]
    rfl
  · rename_i hcolor
    obtain ⟨rfl, rfl⟩ := Prod.mk.inj (Except.ok.inj hspace)
    rw [if_neg hcolor]
    simp only [bind, Except.bind, pure, Except.pure, helements, hread, hvector, Except.mapError]

theorem parse_trimmed {t : DataType} (h : t.components ≠ 0) (hbool : t ≠ .bool) (literal : Text) :
    parse t literal = parseNumeric t literal (Text.trim literal) := by
  rw [parse, TypeTag.dataType?_ofDataType]
  cases t <;> simp_all [DataType.components]

theorem parse_numeric {t : DataType} (h : t.components ≠ 0) (hbool : t ≠ .bool) {literal : Text}
    (htrim : Text.trim literal = literal) : parse t literal = parseNumeric t literal literal := by
  rw [parse_trimmed h hbool, htrim]

theorem lanes_count_ne_zero (l : Lanes) : l.count ≠ 0 := by cases l <;> decide

theorem parse_lanes {t : DataType} {l : Lanes} (hcount : t.components = l.count) (hbool : t ≠ .bool)
    (hcolor : t.isColor = false) (hmatrix : t.isMatrix = false) {ts : List Text} {xs : List Double}
    {c : Constant} (hlen : ts.length = l.count) (hts : ∀ t ∈ ts, Element t)
    (hread : ts.mapM (readElement t) = .ok xs) (hvector : Constant.ofVector t xs = .ok c) :
    parse t (lanesText l ts) = .ok c := by
  have hnumeric := parse_numeric (by rw [hcount]; exact lanes_count_ne_zero l) hbool
    (trim_lanesText hlen hts)
  rw [hnumeric]
  refine parseNumeric_of_splits [] ?_ (elements_lanesText hcount hmatrix hlen hts) hread hvector
  rw [hcolor]
  rfl

theorem forall_number_element (xs : List Single) : ∀ t ∈ xs.map number, Element t := by
  intro t ht
  obtain ⟨x, _, rfl⟩ := List.mem_map.mp ht
  exact number_element x

theorem parse_int (l : Lanes) (v : Vector Int32 l.count) :
    parse (DataType.int l) (Constant.int l v).literal = .ok (.int l v) := by
  have htext : (Constant.int l v).literal = lanesText l (v.toList.map fun n => Text.ofInt n.toInt) := by
    cases l <;> rfl
  rw [htext]
  refine parse_lanes rfl (by simp) rfl rfl (by simp) (fun t ht => ?_)
    (mapM_map_ok (readElement_ofInt rfl) v.toList) ?_
  · obtain ⟨n, _, rfl⟩ := List.mem_map.mp ht
    exact ofInt_element n.toInt
  · have hvector := Constant.vector?_toList v id
    rw [List.map_id, Vector.map_id] at hvector
    simp only [Constant.ofVector, Constant.vector?_toList, Constant.integers_ofInt, bind, Except.bind,
      hvector]
    rfl

theorem parse_half (l : Lanes) (v : Vector Single l.count) (hv : ∀ x ∈ v.toList, Binary.HoldsHalf x) :
    parse (DataType.half l) (Constant.half l v).literal = .ok (.half l (v.map Binary.canonical)) := by
  have htext : (Constant.half l v).literal = lanesText l (v.toList.map number) := by cases l <;> rfl
  rw [htext]
  refine parse_lanes rfl (by simp) rfl rfl (by simp) (forall_number_element _)
    (mapM_map_ok (readElement_number rfl) v.toList) ?_
  have hmap : (v.map fun x => x.canonical.convert .binary64).map Constant.halfOf =
      v.map Binary.canonical := by
    rw [Vector.map_map]
    refine Vector.map_congr_left fun x hx => ?_
    exact Constant.halfOf_convert (hv x (Vector.mem_toList_iff.mpr hx))
  rw [Constant.ofVector, Constant.vector?_toList]
  simp only [hmap]

theorem map_single_convert {n : Nat} (v : Vector Single n) :
    (v.map fun x => x.canonical.convert .binary64).map Constant.single = v.map Binary.canonical := by
  rw [Vector.map_map]
  exact Vector.map_congr_left fun x _ => Constant.single_convert x

theorem parse_float (l : Lanes) (v : Vector Single l.count) :
    parse (DataType.float l) (Constant.float l v).literal = .ok (.float l (v.map Binary.canonical)) := by
  have htext : (Constant.float l v).literal = lanesText l (v.toList.map number) := by cases l <;> rfl
  rw [htext]
  refine parse_lanes rfl (by simp) rfl rfl (by simp) (forall_number_element _)
    (mapM_map_ok (readElement_number rfl) v.toList) ?_
  rw [Constant.ofVector, Constant.vector?_toList]
  simp only [map_single_convert]

theorem parse_matrix (o : Order) (v : Vector Single (o.count * o.count)) :
    parse (DataType.matrix o) (Constant.matrix o v).literal =
      .ok (.matrix o (v.map Binary.canonical)) := by
  have hlen : v.toList.length = o.count * o.count := by simp
  have hcount : 1 < o.count := by cases o <;> decide
  have hcomponents : (DataType.matrix o).components ≠ 1 := by cases o <;> decide
  -- The rows are the pieces of the list of components.
  obtain ⟨rows, hrows⟩ : ∃ rows, rows = (pieces o.count o.count v.toList).map (·.map number) := ⟨_, rfl⟩
  have htext : (Constant.matrix o v).literal = tuple (rows.map tuple) := by
    rw [hrows, List.map_map]
    rfl
  have hrow : ∀ row ∈ rows, row ≠ [] ∧ ∀ t ∈ row, Element t := by
    intro row hrow
    rw [hrows] at hrow
    obtain ⟨piece, hpiece, rfl⟩ := List.mem_map.mp hrow
    refine ⟨fun hnil => ?_, forall_number_element piece⟩
    have hsize := length_of_mem_pieces hlen hpiece
    rw [List.map_eq_nil_iff.mp hnil, List.length_nil] at hsize
    omega
  have hflatten : rows.flatten = v.toList.map number := by
    rw [hrows, ← List.map_flatten, flatten_pieces hlen]
  rw [htext, parse_numeric (by simp [DataType.components]; omega) (by simp)
    (trim_of_solid (tuple_head _) (tuple_last _))]
  refine parseNumeric_of_splits [] rfl ?_ (mapM_map_ok (readElement_number rfl) v.toList) ?_
  · rw [elements, if_neg hcomponents, DataType.isMatrix, if_pos rfl, splitMatrix_tuple hrow, hflatten]
  · rw [Constant.ofVector, Constant.vector?_toList]
    simp only [map_single_convert]

theorem not_marked_nil : ¬ Marked [] := by
  intro h
  have hmark := List.eq_nil_of_infix_nil h
  exact absurd hmark (by decide)

theorem color_literal (c : Channels) (v : Vector Single c.count) {space : Text} (h : space ≠ []) :
    (Constant.color c v space).literal =
      tuple (v.toList.map number) ++ [0x20] ++ spaceMark ++ (quote space ++ [0x29]) := by
  have hblank : Text.ofString " " = [0x20] := by decide
  have hclose : Text.ofString ")" = [0x29] := by decide
  have hspace : ¬ space.isEmpty = true := by simpa using h
  rw [Constant.literal, colorSpace, if_neg hspace, hblank, hclose]
  simp only [List.append_assoc]

theorem color_literal_trim (c : Channels) (v : Vector Single c.count) (space : Text) :
    Text.trim (Constant.color c v space).literal = (Constant.color c v space).literal := by
  by_cases h : space = []
  · subst h
    have htext : (Constant.color c v []).literal = tuple (v.toList.map number) := List.append_nil _
    rw [htext]
    exact trim_of_solid (tuple_head _) (tuple_last _)
  · rw [color_literal c v h]
    refine trim_of_solid (fun b hb => tuple_head (v.toList.map number) b ?_) (fun b hb => ?_)
    · rw [tuple_eq] at hb ⊢
      exact hb
    · rw [← List.append_assoc, List.getLast?_concat] at hb
      obtain rfl := Option.some.inj hb
      decide

theorem parse_color (c : Channels) (v : Vector Single c.count) (space : Text) :
    (¬ Marked space → parse (DataType.color c) (Constant.color c v space).literal =
      .ok (.color c (v.map Binary.canonical) space)) ∧
    (Marked space → parse (DataType.color c) (Constant.color c v space).literal =
      .error (.space (Constant.color c v space).literal)) := by
  have hcomponents : (DataType.color c).components ≠ 1 := by cases c <;> decide
  have hnonzero : (DataType.color c).components ≠ 0 := by cases c <;> decide
  have hts := forall_number_element v.toList
  have helements : elements (.color c) (tuple (v.toList.map number)) = .ok (v.toList.map number) := by
    have hmatrix : (DataType.color c).isMatrix = false := rfl
    rw [elements, if_neg hcomponents, hmatrix, if_neg (by decide), splitTuple_tuple _ hts]
    intro hnil
    have hlen : (v.toList.map number).length = c.count := by simp
    rw [hnil, List.length_nil] at hlen
    exact hnonzero hlen.symm
  have hread := mapM_map_ok (readElement_number (t := .color c) rfl) v.toList
  have hvector : Constant.ofVector (.color c) (v.toList.map fun x => x.canonical.convert .binary64) =
      .ok (.color c (v.map Binary.canonical) []) := by
    rw [Constant.ofVector, Constant.vector?_toList]
    simp only [map_single_convert]
  have hparse := parse_numeric hnonzero (by simp) (color_literal_trim c v space)
  by_cases hspace : space = []
  · subst hspace
    have htext : (Constant.color c v []).literal = tuple (v.toList.map number) := List.append_nil _
    refine ⟨fun _ => ?_, fun h => absurd h not_marked_nil⟩
    rw [hparse, htext]
    refine parseNumeric_of_splits [] ?_ helements hread hvector
    rw [DataType.isColor, if_pos rfl, splitSpace_of_not_mem]
    rw [tuple_eq, List.mem_cons, List.mem_append, not_or, not_or]
    refine ⟨by decide, not_mem_join (by decide) fun t ht => (hts t ht).not_mem.2.2.2, by decide⟩
  · obtain ⟨hread_back, hlost⟩ := splitSpace_written space (tuple_head (v.toList.map number))
      (tuple_last (v.toList.map number))
    rw [hparse]
    refine ⟨fun h => ?_, fun h => ?_⟩
    · have hsplit := hread_back h
      rw [← color_literal c v hspace] at hsplit
      rw [parseNumeric_of_splits space (by rw [DataType.isColor, if_pos rfl, hsplit]) helements hread
        hvector, if_neg (by simpa using hspace)]
      rfl
    · have hsplit := hlost h
      rw [← color_literal c v hspace] at hsplit
      rw [parseNumeric, DataType.isColor, if_pos rfl, hsplit]
      rfl

/-- Reading a literal back. Every constant is read again, numbers bit for bit, unless it is a color
whose space contains the mark of spaces. Such a color is never read. -/
theorem parse_literal (c : Constant) (h : c.Expressible) :
    (¬ c.SpaceMarked → parse c.dataType c.literal = .ok c.canonical) ∧
    (c.SpaceMarked → parse c.dataType c.literal = .error (.space c.literal)) := by
  have hread : ∀ {c : Constant}, ¬ c.SpaceMarked → parse c.dataType c.literal = .ok c.canonical →
      (¬ c.SpaceMarked → parse c.dataType c.literal = .ok c.canonical) ∧
      (c.SpaceMarked → parse c.dataType c.literal = .error (.space c.literal)) :=
    fun hnot hparse => ⟨fun _ => hparse, fun hmarked => absurd hmarked hnot⟩
  cases c with
  | bool b => exact hread id (by cases b <;> decide)
  | int l v => exact hread id (parse_int l v)
  | half l v => exact hread id (parse_half l v h)
  | float l v => exact hread id (parse_float l v)
  | string s =>
    refine hread id ?_
    rw [parse, Constant.dataType, TypeTag.dataType?_ofDataType]
    simp only [Constant.literal, trim_quote, unquote?_quote]
    rfl
  | token s =>
    refine hread id ?_
    rw [parse, Constant.dataType, TypeTag.dataType?_ofDataType]
    simp only [Constant.literal, trim_quote, unquote?_quote]
    rfl
  | asset source =>
    obtain rfl : source = none := h
    exact hread id (by decide)
  | color c v space => exact parse_color c v space
  | matrix o v => exact hread id (parse_matrix o v)

def extremes : Vector Single Channels.rgba.count :=
  #v[⟨true, 0⟩, ⟨true, 0x7fc00001⟩, ⟨false, 1⟩, .infinite true]

def leastHalves : Constant :=
  .half .two #v[(⟨true, 1⟩ : Binary .binary16).convert .binary32, ⟨false, 0x7fffffff⟩]

theorem leastHalves_expressible : leastHalves.Expressible := by
  intro x hx
  rcases List.mem_pair.mp hx with rfl | rfl
  · exact Or.inr ⟨⟨true, 1⟩, rfl⟩
  · exact Or.inl (by decide)

theorem extremes_read_back :
    parse (DataType.half .two) leastHalves.literal = .ok leastHalves.canonical ∧
    parse (DataType.color .rgba) (Constant.color .rgba extremes [0x22, 0xff, 0x3d]).literal =
      .ok (.color .rgba (extremes.map Binary.canonical) [0x22, 0xff, 0x3d]) ∧
    parse (DataType.color .rgba) (Constant.color .rgba extremes spaceMark).literal =
      .error (.space (Constant.color .rgba extremes spaceMark).literal) := by
  refine ⟨(parse_literal leastHalves leastHalves_expressible).1 id, ?_, ?_⟩
  · refine (parse_literal (.color .rgba extremes [0x22, 0xff, 0x3d]) trivial).1 fun h => ?_
    exact absurd (List.IsInfix.length_le h) (by decide)
  · exact (parse_literal (.color .rgba extremes spaceMark) trivial).2 (List.infix_refl spaceMark)

end Literal
end ShaderGraph
