import ShaderGraph.Proofs.Grammar

/-!
# The shape of matrix literals

The rows of a matrix are read one after the other, and their numerals are joined before they are
counted. So a matrix of order `n` is read from any rows with `n * n` numerals in all, also from rows of
other lengths, and a comma may hang behind the last row. The rows and the comma are determined by the
text, and the literal has the shape of its matrix exactly if each row has `n` numerals and no comma
hangs.
-/
namespace ShaderGraph.Literal

open Text

/-! ## One reading at most -/

section Unique

variable {α : Type} {P : α → Text → Prop} {h h' : Bool} {xs ys : List α} {s : Text}

theorem Listed.length_le (hP : ∀ x t, P x t → Firm t) (hs : Listed P h xs s) : xs.length ≤ s.length := by
  have hpos {x : α} {t : Text} (ht : P x t) : 0 < t.length := List.length_pos_iff.mpr (hP x t ht).nonempty
  induction hs with
  | one hx => exact hpos hx
  | hanging hx _ =>
    simp only [List.length_append, List.length_cons, List.length_nil]
    omega
  | more hx _ _ _ ih =>
    simp only [List.length_append, List.length_cons]
    omega

theorem comma_inj {b b' t t' : Text} (hb : Blank b) (hb' : Blank b')
    (heq : b ++ 0x2c :: t = b' ++ 0x2c :: t') : t = t' := by
  have hsolid : isSolid 0x2c = true := by decide
  have hsplit := congrArg (splitOn 0x2c) heq
  rw [splitOn_append (hb.not_mem hsolid), splitOn_append (hb'.not_mem hsolid)] at hsplit
  obtain ⟨rfl, _⟩ := List.cons.inj hsplit
  exact (List.cons.inj (List.append_cancel_left heq)).2

/-- Where an item shows its own end, a list of items can be read in one way only. -/
theorem Listed.unique (hfirm : ∀ x t, P x t → Firm t)
    (hP : ∀ {x y s t u v}, P x s → P y t → s ++ u = t ++ v → x = y ∧ s = t)
    (hx : Listed P h xs s) (hy : Listed P h' ys s) : h = h' ∧ xs = ys := by
  generalize hs : s = s' at hy
  induction hx generalizing ys s' with
  | @one x s hx =>
    cases hy with
    | one hy =>
      obtain ⟨rfl, _⟩ := hP hx hy (congrArg (· ++ []) hs)
      exact ⟨rfl, rfl⟩
    | hanging hy _ =>
      obtain ⟨_, rfl⟩ := hP (u := []) hx hy (by simpa using hs)
      simp at hs
    | more hy _ _ _ =>
      obtain ⟨_, rfl⟩ := hP (u := []) hx hy (by simpa using hs)
      simp at hs
  | @hanging x s b hx hb =>
    cases hy with
    | one hy =>
      obtain ⟨_, rfl⟩ := hP (v := []) hx hy (by simpa using hs)
      simp at hs
    | hanging hy _ =>
      obtain ⟨rfl, _⟩ := hP hx hy hs
      exact ⟨rfl, rfl⟩
    | more hy hb' hc ht =>
      obtain ⟨_, rfl⟩ := hP hx hy hs
      have hnil := comma_inj hb hb' (List.append_cancel_left hs)
      exact absurd (List.append_eq_nil_iff.mp hnil.symm).2 (ht.firm hfirm).nonempty
  | @more _ x xs s b b' t hx hb hb' ht ih =>
    cases hy with
    | one hy =>
      obtain ⟨_, rfl⟩ := hP (v := []) hx hy (by simpa using hs)
      simp at hs
    | hanging hy hc =>
      obtain ⟨_, rfl⟩ := hP hx hy hs
      have hnil := comma_inj hb hc (List.append_cancel_left hs)
      exact absurd (List.append_eq_nil_iff.mp hnil).2 (ht.firm hfirm).nonempty
    | @more _ y ys u c c' t' hy hc hc' ht' =>
      obtain ⟨rfl, rfl⟩ := hP hx hy hs
      have htail := comma_inj hb hc (List.append_cancel_left hs)
      have htrim := congrArg Text.trim htail
      have hleft := trim_padded hb' blank_nil (ht.firm hfirm)
      have hright := trim_padded hc' blank_nil (ht'.firm hfirm)
      rw [List.append_nil] at hleft hright
      rw [hleft, hright] at htrim
      obtain ⟨rfl, rfl⟩ := ih _ htrim ht'
      exact ⟨rfl, rfl⟩

end Unique

/-! ## Rows -/

theorem takeRow?_spec {s row rest : Text} (h : takeRow? s = some (row, rest)) : s = row ++ rest := by
  induction s generalizing row with
  | nil => cases h
  | cons b s ih =>
    rw [takeRow?] at h
    split at h
    · obtain ⟨rfl, rfl⟩ := Prod.mk.inj (Option.some.inj h)
      rfl
    · obtain ⟨⟨row', rest'⟩, hrow, heq⟩ := Option.map_eq_some_iff.mp h
      obtain ⟨rfl, rfl⟩ := Prod.mk.inj heq
      rw [List.cons_append, ← ih hrow]

theorem Tuple.takeRow? {xs : List Single} {s : Text} (h : Tuple xs s) (rest : Text) :
    takeRow? (s ++ rest) = some (s, rest) ∧ (s ++ rest).head? = some 0x28 := by
  obtain ⟨m, hm, rfl⟩ := h
  have hclose : 0x29 ∉ 0x28 :: m := List.not_mem_cons_of_ne_of_not_mem (by decide) (not_mem_of_padded hm).2.1
  refine ⟨?_, rfl⟩
  rw [← List.cons_append, List.append_assoc, List.singleton_append, takeRow?_append hclose]

theorem Tuple.inj {xs ys : List Single} {s t u v : Text} (hx : Tuple xs s) (hy : Tuple ys t)
    (heq : s ++ u = t ++ v) : xs = ys ∧ s = t := by
  have hrow := (hx.takeRow? u).1
  rw [heq, (hy.takeRow? v).1] at hrow
  obtain ⟨rfl, _⟩ := Prod.mk.inj (Option.some.inj hrow)
  exact ⟨hx.unique hy, rfl⟩

theorem splitRows_eq_ok {fuel : Nat} {s : Text} {ts : List Text} (hne : s ≠ []) :
    splitRows (fuel + 1) s = .ok ts ↔ ∃ row rest elems, takeRow? s = some (row, rest) ∧
      s.head? = some 0x28 ∧ splitTuple row = .ok elems ∧
      (Text.trim rest = [] ∧ ts = elems ∨ ∃ rest' more, Text.trim rest = 0x2c :: rest' ∧
        splitRows fuel (Text.trim rest') = .ok more ∧ ts = elems ++ more) := by
  rw [splitRows]
  swap
  · exact hne
  cases hrow : takeRow? s with
  | none => simp
  | some parts =>
    obtain ⟨row, rest⟩ := parts
    dsimp only
    constructor
    · intro h
      split at h
      · cases h
      · rename_i hhead
        obtain ⟨elems, helems, h⟩ := Outcome.bind_eq_ok.mp h
        refine ⟨row, rest, elems, rfl, not_not.mp hhead, helems, ?_⟩
        split at h
        · exact Or.inl ⟨‹_›, (Outcome.pure_eq_ok.mp h).symm⟩
        · obtain ⟨more, hmore, h⟩ := Outcome.bind_eq_ok.mp h
          exact Or.inr ⟨_, more, ‹_›, hmore, (Outcome.pure_eq_ok.mp h).symm⟩
        · cases h
    · rintro ⟨_, _, elems, hparts, hhead, helems, h⟩
      obtain ⟨rfl, rfl⟩ := Prod.mk.inj (Option.some.inj hparts)
      rw [if_neg (not_not.mpr hhead)]
      refine Outcome.bind_eq_ok.mpr ⟨elems, helems, ?_⟩
      rcases h with ⟨hrest, rfl⟩ | ⟨rest', more, hrest, hmore, rfl⟩
      · rw [hrest]
        rfl
      · rw [hrest]
        exact Outcome.bind_eq_ok.mpr ⟨more, hmore, rfl⟩

theorem splitRows_nil (fuel : Nat) : splitRows fuel [] = .ok [] := by cases fuel <;> rfl

theorem padded_of_splitRows {fuel : Nat} {s : Text} {ts : List Text} {xs : List Single} (hne : s ≠ [])
    (h : splitRows fuel s = .ok ts) (hts : List.Forall₂ Reads xs ts) :
    ∃ hanging rows, xs = rows.flatten ∧ Padded (Listed Tuple hanging rows) s := by
  induction fuel generalizing s ts xs with
  | zero =>
    obtain ⟨b, s, rfl⟩ := List.exists_cons_of_ne_nil hne
    cases h
  | succ fuel ih =>
    obtain ⟨row, rest, elems, hrow, _, helems, hrest⟩ := (splitRows_eq_ok hne).mp h
    obtain rfl := takeRow?_spec hrow
    rcases hrest with ⟨hblank, rfl⟩ | ⟨rest', more, htrim, hmore, rfl⟩
    · have htuple := splitTuple_iff.mp ⟨ts, helems, hts⟩
      exact ⟨false, [xs], by simp, [], row, rest, blank_nil, blank_of_trim hblank, .one htuple, rfl⟩
    · have htuple := splitTuple_iff.mp ⟨elems, helems, List.forall₂_take_append xs elems more hts⟩
      have htail := List.forall₂_drop_append xs elems more hts
      obtain ⟨l, r, hl, hr, hcomma⟩ := exists_trim rest
      rw [htrim] at hcomma
      by_cases hnil : Text.trim rest' = []
      · -- Nothing follows the comma.
        rw [hnil, splitRows_nil] at hmore
        obtain rfl := Except.ok.inj hmore
        refine ⟨true, [xs.take elems.length], ?_, [], _, rest' ++ r, blank_nil,
          (blank_of_trim hnil).append hr, .hanging htuple hl, by simp [hcomma]⟩
        rw [List.flatten_singleton, ← List.append_nil (xs.take _), ← List.forall₂_nil_right_iff.mp htail,
          List.take_append_drop]
      · obtain ⟨hanging, rows, hrows, l', t, r', hl', hr', ht, heq⟩ := ih hnil hmore htail
        obtain ⟨l'', r'', hl'', hr'', hrest'⟩ := exists_trim rest'
        rw [heq] at hrest'
        refine ⟨hanging, xs.take elems.length :: rows, ?_, [], _, r' ++ r'' ++ r, blank_nil,
          (hr'.append hr'').append hr, .more htuple hl (hl''.append hl') ht, by simp [hcomma, hrest']⟩
        rw [List.flatten_cons, ← hrows, List.take_append_drop]

theorem firm_comma {t : Text} (h : ∀ b ∈ t.getLast?, isSolid b = true) : Firm (0x2c :: t) := by
  refine ⟨by simp, fun b hb => ?_, fun b hb => ?_⟩
  · obtain rfl := Option.some.inj hb
    decide
  · rw [List.getLast?_cons] at hb
    obtain rfl := Option.some.inj hb
    cases hlast : t.getLast? with
    | none =>
      rw [Option.getD_none]
      decide
    | some a =>
      rw [Option.getD_some]
      exact h a hlast

theorem splitRows_of_listed {hanging : Bool} {rows : List (List Single)} {s : Text}
    (h : Listed Tuple hanging rows s) {fuel : Nat} (hfuel : rows.length ≤ fuel) :
    ∃ ts, splitRows fuel s = .ok ts ∧ List.Forall₂ Reads rows.flatten ts := by
  have hfirm := h.firm fun _ _ => Tuple.firm
  induction h generalizing fuel with
  | @one row s hrow =>
    obtain ⟨fuel, rfl⟩ : ∃ n, fuel = n + 1 := ⟨fuel - 1, by simp at hfuel; omega⟩
    obtain ⟨ts, hts, hreads⟩ := splitTuple_iff.mpr hrow
    obtain ⟨htake, hhead⟩ := hrow.takeRow? []
    rw [List.append_nil] at htake hhead
    exact ⟨ts, (splitRows_eq_ok hfirm.nonempty).mpr
      ⟨s, [], ts, htake, hhead, hts, Or.inl ⟨blank_nil.trim, rfl⟩⟩, by simpa using hreads⟩
  | @hanging row s b hrow hb =>
    obtain ⟨fuel, rfl⟩ : ∃ n, fuel = n + 1 := ⟨fuel - 1, by simp at hfuel; omega⟩
    obtain ⟨ts, hts, hreads⟩ := splitTuple_iff.mpr hrow
    obtain ⟨htake, hhead⟩ := hrow.takeRow? (b ++ [0x2c])
    have hcomma := trim_padded hb blank_nil (firm_comma (t := []) (by simp))
    rw [List.append_nil] at hcomma
    refine ⟨ts, (splitRows_eq_ok hfirm.nonempty).mpr ⟨s, _, ts, htake, hhead, hts, Or.inr
      ⟨[], [], hcomma, ?_, by simp⟩⟩, by simpa using hreads⟩
    rw [blank_nil.trim, splitRows_nil]
  | @more hanging row rows s b b' t hrow hb hb' ht ih =>
    obtain ⟨fuel, rfl⟩ : ∃ n, fuel = n + 1 := ⟨fuel - 1, by simp at hfuel; omega⟩
    have htfirm := ht.firm fun _ _ => Tuple.firm
    obtain ⟨ts, hts, hreads⟩ := splitTuple_iff.mpr hrow
    have hlength : rows.length ≤ fuel := by simpa using hfuel
    obtain ⟨more, hmore, hreads'⟩ := ih hlength htfirm
    obtain ⟨htake, hhead⟩ := hrow.takeRow? (b ++ 0x2c :: (b' ++ t))
    have hlast : ∀ a ∈ (b' ++ t).getLast?, isSolid a = true := by
      rw [List.getLast?_append_of_ne_nil _ htfirm.nonempty]
      exact htfirm.last
    have hcomma := trim_padded hb blank_nil (firm_comma hlast)
    have htrim := trim_padded hb' blank_nil htfirm
    rw [List.append_nil] at hcomma htrim
    refine ⟨ts ++ more, (splitRows_eq_ok hfirm.nonempty).mpr ⟨s, _, ts, htake, hhead, hts, Or.inr
      ⟨b' ++ t, more, hcomma, ?_, rfl⟩⟩, ?_⟩
    · rw [htrim, hmore]
    · rw [List.flatten_cons]
      exact List.rel_append hreads hreads'

/-! ## Matrices -/

def Rows (hanging : Bool) (rows : List (List Single)) : Text → Prop :=
  Padded (Enclosed (Listed Tuple hanging rows))

theorem Rows.unique {h h' : Bool} {rows rows' : List (List Single)} {s : Text} (hs : Rows h rows s)
    (hs' : Rows h' rows' s) : h = h' ∧ rows = rows' := by
  have hfirm {h : Bool} {rows : List (List Single)} (t : Text) (ht : Listed Tuple h rows t) : Firm t :=
    ht.firm fun _ _ => Tuple.firm
  obtain ⟨m, hm, heq⟩ := (padded_iff fun _ => Enclosed.firm).mp hs
  obtain ⟨m', hm', heq'⟩ := (padded_iff fun _ => Enclosed.firm).mp hs'
  obtain rfl : m = m' := List.append_cancel_right (List.cons.inj (heq.symm.trans heq')).2
  exact ((padded_iff hfirm).mp hm).unique (fun _ _ => Tuple.firm) Tuple.inj ((padded_iff hfirm).mp hm')

theorem Rows.flatten_ne_nil {h : Bool} {rows : List (List Single)} {s : Text} (hs : Rows h rows s) :
    rows.flatten ≠ [] := by
  have htuple {xs : List Single} {t : Text} (ht : Tuple xs t) : xs ≠ [] := by
    obtain ⟨m, ⟨_, t, _, _, _, ht, _⟩, _⟩ := ht
    cases ht <;> simp
  obtain ⟨_, t, _, _, _, ⟨m, ⟨_, u, _, _, _, hu, _⟩, _⟩, _⟩ := hs
  cases hu with
  | one hrow => simpa using htuple hrow
  | hanging hrow _ => simpa using htuple hrow
  | more hrow _ _ _ => simp [htuple hrow]

theorem splitMatrix_iff {xs : List Single} (hne : xs ≠ []) {s : Text} :
    (∃ ts, splitMatrix s = .ok ts ∧ List.Forall₂ Reads xs ts) ↔
      ∃ hanging rows, xs = rows.flatten ∧ Enclosed (Listed Tuple hanging rows) s := by
  have hfirm {h : Bool} {rows : List (List Single)} (t : Text) (ht : Listed Tuple h rows t) : Firm t :=
    ht.firm fun _ _ => Tuple.firm
  constructor
  · rintro ⟨ts, hsplit, hts⟩
    rw [splitMatrix] at hsplit
    split at hsplit
    · cases hsplit
    · rename_i inner hinner
      have hinner_ne : Text.trim inner ≠ [] := by
        intro hnil
        rw [hnil, splitRows_nil] at hsplit
        obtain rfl := Except.ok.inj hsplit
        exact hne (List.forall₂_nil_right_iff.mp hts)
      obtain ⟨hanging, rows, hrows, hpadded⟩ := padded_of_splitRows hinner_ne hsplit hts
      obtain ⟨l, r, hl, hr, heq⟩ := exists_trim inner
      obtain ⟨l', t, r', hl', hr', ht, hinner'⟩ := hpadded
      refine ⟨hanging, rows, hrows, inner, ⟨l ++ l', t, r' ++ r, hl.append hl', hr'.append hr, ht, ?_⟩,
        enclosed?_eq_some.mp hinner⟩
      rw [heq, hinner']
      simp
  · rintro ⟨hanging, rows, rfl, m, hm, rfl⟩
    have hlisted := (padded_iff hfirm).mp hm
    obtain ⟨ts, hts, hreads⟩ := splitRows_of_listed hlisted (hlisted.length_le fun _ _ => Tuple.firm)
    refine ⟨ts, ?_, hreads⟩
    rw [splitMatrix, enclosed?_eq_some.mpr rfl]
    exact hts

theorem parse_matrix_iff {o : Order} {s : Text} {c : Constant} :
    parse (DataType.matrix o) s = .ok c ↔ ∃ hanging rows, Rows hanging rows s ∧
      ∃ v : Vector Single (o.count * o.count), v.toList = rows.flatten ∧ c = .matrix o v := by
  have hcount : 1 < o.count := by cases o <;> decide
  have hcomponents : (DataType.matrix o).components ≠ 1 := by cases o <;> decide
  have hpadded {h : Bool} {rows : List (List Single)} :
      Rows h rows s ↔ Enclosed (Listed Tuple h rows) (Text.trim s) := padded_iff fun _ => Enclosed.firm
  have helements : elements (.matrix o) (Text.trim s) = splitMatrix (Text.trim s) := by
    rw [elements, if_neg hcomponents, DataType.isMatrix, if_pos rfl]
  rw [parse_trimmed (by simp [DataType.components]; omega) (by simp), parseNumeric_eq_ok]
  constructor
  · rintro ⟨body, space, ts, ys, c', hspace, hts, hys, hc', rfl⟩
    obtain ⟨rfl, rfl⟩ := Prod.mk.inj (Except.ok.inj hspace)
    obtain ⟨xs, hxs, rfl⟩ := (mapM_readElement_iff rfl).mp hys
    cases Constant.ofVector_eq_ok.mp hc' with
    | matrix v hv =>
      rw [map_single_of_reads hxs] at hv
      have hne : xs ≠ [] := by
        rintro rfl
        have hlen := v.length_toList
        rw [hv, List.length_nil] at hlen
        exact absurd hlen.symm (Nat.mul_pos (by omega) (by omega)).ne'
      obtain ⟨hanging, rows, rfl, hrows⟩ := (splitMatrix_iff hne).mp ⟨ts, helements ▸ hts, hxs⟩
      exact ⟨hanging, rows, hpadded.mpr hrows, v, hv, rfl⟩
  · rintro ⟨hanging, rows, hrows, v, hv, rfl⟩
    obtain ⟨ts, hts, hxs⟩ := (splitMatrix_iff hrows.flatten_ne_nil).mpr ⟨hanging, rows, rfl, hpadded.mp hrows⟩
    refine ⟨Text.trim s, [], ts, _, .matrix o v, rfl, helements.trans hts,
      (mapM_readElement_iff rfl).mpr ⟨_, hxs, rfl⟩, Constant.ofVector_eq_ok.mpr (.matrix v ?_), rfl⟩
    rw [map_single_of_reads hxs, hv]

theorem getElem?_flatten {α : Type} {n : Nat} {rows : List (List α)} (h : ∀ row ∈ rows, row.length = n)
    {i j : Nat} (hj : j < n) : rows.flatten[i * n + j]? = rows[i]?.bind (·[j]?) := by
  induction rows generalizing i with
  | nil => simp
  | cons row rows ih =>
    have hrow := h row List.mem_cons_self
    rw [List.flatten_cons]
    cases i with
    | zero =>
      rw [Nat.zero_mul, Nat.zero_add, List.getElem?_append_left (by omega)]
      rfl
    | succ i =>
      have hindex : (i + 1) * n + j - row.length = i * n + j := by
        rw [hrow, Nat.succ_mul]
        omega
      rw [List.getElem?_append_right (by rw [hrow, Nat.succ_mul]; omega), hindex,
        ih fun row' hrow' => h row' (List.mem_cons_of_mem row hrow')]
      rfl

/-- The text is a tuple of rows with as many rows as the matrix has, each a tuple of as many numerals,
and the numerals stand where the matrix has their numbers. -/
def InShape (o : Order) (s : Text) (c : Constant) : Prop :=
  ∃ (rows : List (List Single)) (v : Vector Single (o.count * o.count)), c = .matrix o v ∧
    Rows false rows s ∧ rows.length = o.count ∧ (∀ row ∈ rows, row.length = o.count) ∧
    ∀ i < o.count, ∀ j < o.count, v.toList[i * o.count + j]? = rows[i]?.bind (·[j]?)

/-- Matrix literals. A text is read as a matrix exactly if it is a tuple of rows with the right number
of numerals in all, and a comma may hang behind the last row. What is read has the shape of the matrix
exactly if no comma hangs and each row has the right length. -/
theorem matrix_in_shape_iff (o : Order) (s : Text) (c : Constant) :
    (parse (DataType.matrix o) s = .ok c ↔ ∃ hanging rows, Rows hanging rows s ∧
      ∃ v : Vector Single (o.count * o.count), v.toList = rows.flatten ∧ c = .matrix o v) ∧
    (parse (DataType.matrix o) s = .ok c → ∀ hanging rows, Rows hanging rows s →
      (InShape o s c ↔ hanging = false ∧ ∀ row ∈ rows, row.length = o.count)) := by
  refine ⟨parse_matrix_iff, fun h hanging rows hrows => ⟨?_, ?_⟩⟩
  · rintro ⟨rows', v, _, hrows', _, hlength, _⟩
    obtain ⟨rfl, rfl⟩ := hrows.unique hrows'
    exact ⟨rfl, hlength⟩
  · rintro ⟨rfl, hlength⟩
    obtain ⟨hanging, rows', hrows', v, hv, rfl⟩ := parse_matrix_iff.mp h
    obtain ⟨rfl, rfl⟩ := hrows.unique hrows'
    have hcount : 0 < o.count := by cases o <;> decide
    refine ⟨rows, v, rfl, hrows, ?_, hlength, fun i _ j hj => ?_⟩
    · have hall := v.length_toList
      rw [hv, List.length_flatten, List.map_eq_replicate_iff.mpr hlength, List.sum_replicate_nat] at hall
      exact Nat.eq_of_mul_eq_mul_right hcount hall
    · rw [hv, getElem?_flatten hlength hj]

def identity : Constant := .matrix .two #v[⟨false, 0x3f800000⟩, .zero, .zero, ⟨false, 0x3f800000⟩]

theorem blank_space : Blank [0x20] := List.all_eq_true.mp (by decide)

theorem identity_out_of_shape :
    (parse (DataType.matrix .two) (Text.ofString "((1, 0, 0, 1))") = .ok identity ∧
      ¬ InShape .two (Text.ofString "((1, 0, 0, 1))") identity) ∧
    (parse (DataType.matrix .two) (Text.ofString "((1, 0), (0, 1),)") = .ok identity ∧
      ¬ InShape .two (Text.ofString "((1, 0), (0, 1),)") identity) := by
  have hone : Numeral.readBinary .binary32 [0x31] = .ok ⟨false, 0x3f800000⟩ := by decide +kernel
  have hzero : Numeral.readBinary .binary32 [0x30] = .ok .zero := by decide +kernel
  have hfour : Tuple [⟨false, 0x3f800000⟩, .zero, .zero, ⟨false, 0x3f800000⟩] (Text.ofString "(1, 0, 0, 1)") :=
    ⟨_, .of (.more hone blank_nil blank_space (.more hzero blank_nil blank_space
      (.more hzero blank_nil blank_space (.one hone)))), by decide⟩
  have hfirst : Tuple [⟨false, 0x3f800000⟩, .zero] (Text.ofString "(1, 0)") :=
    ⟨_, .of (.more hone blank_nil blank_space (.one hzero)), by decide⟩
  have hsecond : Tuple [.zero, ⟨false, 0x3f800000⟩] (Text.ofString "(0, 1)") :=
    ⟨_, .of (.more hzero blank_nil blank_space (.one hone)), by decide⟩
  have hflat : parse (DataType.matrix .two) (Text.ofString "((1, 0, 0, 1))") = .ok identity := by
    decide +kernel
  have hcomma : parse (DataType.matrix .two) (Text.ofString "((1, 0), (0, 1),)") = .ok identity := by
    decide +kernel
  refine ⟨⟨hflat, ?_⟩, hcomma, ?_⟩
  · have hrows : Rows false [_] (Text.ofString "((1, 0, 0, 1))") := .of ⟨_, .of (.one hfour), by decide⟩
    rw [(matrix_in_shape_iff .two _ identity).2 hflat _ _ hrows]
    decide
  · have hrows : Rows true [_, _] (Text.ofString "((1, 0), (0, 1),)") :=
      .of ⟨_, .of (.more hfirst blank_nil blank_space (.hanging hsecond blank_nil)), by decide⟩
    rw [(matrix_in_shape_iff .two _ identity).2 hcomma _ _ hrows]
    decide

end ShaderGraph.Literal
