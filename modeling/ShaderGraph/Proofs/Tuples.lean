import ShaderGraph.Proofs.ColorSpace
import ShaderGraph.Proofs.Numerals

/-!
# Tuples split into what they were made of

The elements of tuples are numbers, whose texts have no blanks, commas or parentheses. So a tuple is
split at its commas, and the rows of a matrix at their closing parentheses, into the texts that were
joined.
-/
namespace ShaderGraph.Literal

open Text

def isElement (b : UInt8) : Bool :=
  isSolid b && b != 0x28 && b != 0x29 && b != 0x2c && b != 0x3d

structure Element (t : Text) : Prop where
  nonempty : t ≠ []
  bytes : ∀ b ∈ t, isElement b = true

theorem isElement_iff {b : UInt8} :
    isElement b = true ↔ isSolid b = true ∧ b ≠ 0x28 ∧ b ≠ 0x29 ∧ b ≠ 0x2c ∧ b ≠ 0x3d := by
  simp [isElement, and_assoc]

theorem isElement_of_isPlain {b : UInt8} (h : Numeral.isPlain b = true) : isElement b = true := by
  have hall : ∀ n < 256, Numeral.isPlain (UInt8.ofNat n) = true → isElement (UInt8.ofNat n) = true := by
    decide +kernel
  simpa using hall b.toNat b.toNat_lt (by simpa using h)

theorem Element.of_plain {t : Text} (h : Numeral.Plain t) (negative : Bool) :
    Element (Numeral.signed negative t) := by
  obtain ⟨b, rest, rfl, _⟩ := h.head
  cases negative with
  | false => exact ⟨by simp [Numeral.signed], fun b hb => isElement_of_isPlain (h.bytes b hb)⟩
  | true =>
    refine ⟨by simp [Numeral.signed], fun b hb => ?_⟩
    rcases List.mem_cons.mp hb with rfl | hb
    · decide
    · exact isElement_of_isPlain (h.bytes b hb)

theorem number_element (x : Single) : Element (number x) := by
  rw [number, NumberLayout.text]
  split
  · exact ⟨by decide, List.all_eq_true.mp (by decide)⟩
  · split
    · split
      · exact ⟨by decide, List.all_eq_true.mp (by decide)⟩
      · exact ⟨by decide, List.all_eq_true.mp (by decide)⟩
    · refine Element.of_plain ?_ x.negative
      split
      · exact ⟨⟨0x30, [], rfl, rfl⟩, List.all_eq_true.mp (by decide)⟩
      · exact (NumberLayout.literal.decimal_spec _).1

theorem ofInt_element (n : Int) : Element (Text.ofInt n) := by
  rw [Numeral.ofInt_eq_signed]
  exact Element.of_plain (Numeral.ofNat_plain n.natAbs) _

theorem Element.head {t : Text} (h : Element t) : ∀ b ∈ t.head?, isSolid b = true :=
  fun b hb => (isElement_iff.mp (h.bytes b (List.mem_of_mem_head? hb))).1

theorem Element.last {t : Text} (h : Element t) : ∀ b ∈ t.getLast?, isSolid b = true :=
  fun b hb => (isElement_iff.mp (h.bytes b (List.mem_of_mem_getLast? hb))).1

theorem Element.trim {t : Text} (h : Element t) : Text.trim t = t := trim_of_solid h.head h.last

theorem Element.not_mem {t : Text} (h : Element t) :
    0x28 ∉ t ∧ 0x29 ∉ t ∧ 0x2c ∉ t ∧ 0x3d ∉ t := by
  refine ⟨fun hb => ?_, fun hb => ?_, fun hb => ?_, fun hb => ?_⟩ <;>
    exact absurd (h.bytes _ hb) (by decide)

/-! ## Joined texts -/

theorem join_cons_cons (sep t u : Text) (ts : List Text) :
    join sep (t :: u :: ts) = t ++ sep ++ join sep (u :: ts) := rfl

theorem comma_eq : Text.ofString ", " = [0x2c, 0x20] := by decide

theorem splitOn_ne_nil (sep : UInt8) (t : Text) : splitOn sep t ≠ [] := by
  cases t with
  | nil => simp [splitOn]
  | cons b t =>
    rw [splitOn]
    split
    · simp
    · split <;> simp

theorem splitOn_of_not_mem {sep : UInt8} {t : Text} (h : sep ∉ t) : splitOn sep t = [t] := by
  induction t with
  | nil => rfl
  | cons b t ih =>
    rw [List.mem_cons, not_or] at h
    rw [splitOn, if_neg (Ne.symm h.1), ih h.2]

theorem splitOn_append_cons (sep : UInt8) (s t : Text) :
    splitOn sep (s ++ sep :: t) = splitOn sep s ++ splitOn sep t := by
  induction s with
  | nil => simp [splitOn]
  | cons b s ih =>
    rw [List.cons_append, splitOn, splitOn, ih]
    split
    · rfl
    · cases hs : splitOn sep s with
      | nil => exact absurd hs (splitOn_ne_nil sep s)
      | cons piece pieces => rfl

theorem splitOn_append {sep : UInt8} {s : Text} (h : sep ∉ s) (t : Text) :
    splitOn sep (s ++ sep :: t) = s :: splitOn sep t := by
  rw [splitOn_append_cons, splitOn_of_not_mem h, List.singleton_append]

theorem splitOn_join_byte {sep : UInt8} {ts : List Text} (hne : ts ≠ [])
    (hts : ∀ t ∈ ts, sep ∉ t) : splitOn sep (join [sep] ts) = ts := by
  induction ts with
  | nil => exact absurd rfl hne
  | cons t ts ih =>
    obtain ⟨ht, hts⟩ := List.forall_mem_cons.mp hts
    cases ts with
    | nil => exact splitOn_of_not_mem ht
    | cons u us =>
      rw [join_cons_cons, List.append_assoc, List.singleton_append, splitOn_append ht,
        ih (by simp) hts]

theorem map_trim_splitOn_space (sep : UInt8) (hsep : sep ≠ 0x20) (t : Text) :
    (splitOn sep (0x20 :: t)).map Text.trim = (splitOn sep t).map Text.trim := by
  rw [splitOn, if_neg (Ne.symm hsep)]
  cases h : splitOn sep t with
  | nil => exact absurd h (splitOn_ne_nil sep t)
  | cons p ps => rw [List.map_cons, List.map_cons, trim_space_cons]

theorem splitOn_join {ts : List Text} (hne : ts ≠ []) (hts : ∀ t ∈ ts, Element t) :
    (splitOn 0x2c (join ", " ts)).map Text.trim = ts := by
  rw [comma_eq]
  induction ts with
  | nil => exact absurd rfl hne
  | cons t ts ih =>
    have ht := hts t List.mem_cons_self
    cases ts with
    | nil =>
      rw [join, splitOn_of_not_mem ht.not_mem.2.2.1, List.map_singleton, ht.trim]
    | cons u us =>
      have hrest := ih (by simp) fun t ht => hts t (List.mem_cons_of_mem _ ht)
      rw [join_cons_cons, List.append_assoc, List.cons_append, splitOn_append ht.not_mem.2.2.1,
        List.map_cons, ht.trim, List.singleton_append, map_trim_splitOn_space _ (by decide), hrest]

theorem mem_join {b : UInt8} {sep : Text} {ts : List Text} (h : b ∈ join sep ts) :
    b ∈ sep ∨ ∃ t ∈ ts, b ∈ t := by
  induction ts with
  | nil => simp [join] at h
  | cons t ts ih =>
    cases ts with
    | nil => exact Or.inr ⟨t, by simp, h⟩
    | cons u us =>
      rw [join_cons_cons, List.append_assoc, List.mem_append, List.mem_append] at h
      rcases h with h | h | h
      · exact Or.inr ⟨t, by simp, h⟩
      · exact Or.inl h
      · rcases ih h with h | ⟨v, hv, h⟩
        · exact Or.inl h
        · exact Or.inr ⟨v, List.mem_cons_of_mem t hv, h⟩

/-! ## Tuples -/

theorem tuple_eq (ts : List Text) : tuple ts = 0x28 :: (join ", " ts ++ [0x29]) := by
  have hopen : Text.ofString "(" = [0x28] := by decide
  have hclose : Text.ofString ")" = [0x29] := by decide
  rw [tuple, hopen, hclose]
  rfl

theorem enclosed?_tuple (ts : List Text) : enclosed? (tuple ts) = some (join ", " ts) := by
  rw [tuple_eq, enclosed?]
  simp

theorem not_mem_join {b : UInt8} (hb : b ∉ [0x2c, 0x20]) {ts : List Text} (hts : ∀ t ∈ ts, b ∉ t) :
    b ∉ join ", " ts := by
  intro hmem
  rcases mem_join hmem with h | ⟨t, ht, h⟩
  · rw [comma_eq] at h
    exact hb h
  · exact hts t ht h

theorem splitTuple_tuple {ts : List Text} (hne : ts ≠ []) (hts : ∀ t ∈ ts, Element t) :
    splitTuple (tuple ts) = .ok ts := by
  have hopen : 0x28 ∉ join ", " ts := not_mem_join (by decide) fun t ht => (hts t ht).not_mem.1
  have hclose : 0x29 ∉ join ", " ts := not_mem_join (by decide) fun t ht => (hts t ht).not_mem.2.1
  have hany : ((join ", " ts).any fun b => b == 0x28 || b == 0x29) = false := by
    rw [List.any_eq_false]
    intro b hb
    simp only [Bool.or_eq_true, beq_iff_eq, not_or]
    exact ⟨fun h => hopen (h ▸ hb), fun h => hclose (h ▸ hb)⟩
  rw [splitTuple, enclosed?_tuple]
  simp only [hany, Bool.false_eq_true, if_false, splitOn_join hne hts]

theorem tuple_head (ts : List Text) : ∀ b ∈ (tuple ts).head?, isSolid b = true := by
  intro b hb
  rw [tuple_eq] at hb
  obtain rfl : 0x28 = b := by simpa using hb
  decide

theorem tuple_last (ts : List Text) : ∀ b ∈ (tuple ts).getLast?, isSolid b = true := by
  intro b hb
  rw [tuple_eq, ← List.cons_append, List.getLast?_concat] at hb
  obtain rfl := Option.some.inj hb
  decide

/-! ## Rows of a matrix -/

theorem takeRow?_append {s : Text} (h : 0x29 ∉ s) (rest : Text) :
    takeRow? (s ++ 0x29 :: rest) = some (s ++ [0x29], rest) := by
  induction s with
  | nil => simp [takeRow?]
  | cons b s ih =>
    rw [List.mem_cons, not_or] at h
    rw [List.cons_append, takeRow?, if_neg (Ne.symm h.1), ih h.2]
    rfl

theorem takeRow?_tuple {ts : List Text} (hts : ∀ t ∈ ts, Element t) (rest : Text) :
    takeRow? (tuple ts ++ rest) = some (tuple ts, rest) := by
  have hclose : 0x29 ∉ 0x28 :: join ", " ts := by
    rw [List.mem_cons, not_or]
    exact ⟨by decide, not_mem_join (by decide) fun t ht => (hts t ht).not_mem.2.1⟩
  rw [tuple_eq, ← List.cons_append, List.append_assoc, List.singleton_append, takeRow?_append hclose]

def rowsText (rows : List (List Text)) : Text := join ", " (rows.map tuple)

theorem rowsText_cons_cons (row row' : List Text) (rows : List (List Text)) :
    rowsText (row :: row' :: rows) = tuple row ++ 0x2c :: 0x20 :: rowsText (row' :: rows) := by
  have hcomma := comma_eq
  simp only [rowsText, List.map_cons, join_cons_cons, hcomma, List.append_assoc, List.cons_append,
    List.nil_append]

theorem rowsText_head (row : List Text) (rows : List (List Text)) :
    ∃ rest, rowsText (row :: rows) = 0x28 :: rest := by
  cases rows with
  | nil => exact ⟨_, tuple_eq row⟩
  | cons row' rows =>
    rw [rowsText_cons_cons, tuple_eq]
    exact ⟨_, rfl⟩

theorem rowsText_last (row : List Text) (rows : List (List Text)) :
    ∀ b ∈ (rowsText (row :: rows)).getLast?, isSolid b = true := by
  induction rows generalizing row with
  | nil => exact tuple_last row
  | cons row' rows ih =>
    intro b hb
    obtain ⟨rest, hrest⟩ := rowsText_head row' rows
    refine ih row' b ?_
    rw [rowsText_cons_cons, hrest] at hb
    simpa [hrest] using hb

theorem trim_rowsText (row : List Text) (rows : List (List Text)) :
    Text.trim (rowsText (row :: rows)) = rowsText (row :: rows) := by
  refine trim_of_solid (fun b hb => ?_) (rowsText_last row rows)
  obtain ⟨rest, hrest⟩ := rowsText_head row rows
  obtain rfl : 0x28 = b := by simpa [hrest] using hb
  decide

theorem splitRows_tuple {row : List Text} (hne : row ≠ []) (hrow : ∀ t ∈ row, Element t) (fuel : Nat)
    (rest : Text) :
    splitRows (fuel + 1) (tuple row ++ rest) =
      match Text.trim rest with
      | [] => .ok row
      | 0x2c :: rest => do return row ++ (← splitRows fuel (Text.trim rest))
      | _ => .error .missingComma := by
  have hhead : (tuple row ++ rest).head? = some 0x28 := by rw [tuple_eq]; rfl
  obtain ⟨s, hs⟩ : ∃ s, tuple row ++ rest = 0x28 :: s := by rw [tuple_eq]; exact ⟨_, rfl⟩
  rw [hs, splitRows, ← hs, takeRow?_tuple hrow]
  simp only [hhead, ne_eq, not_true_eq_false, if_false, splitTuple_tuple hne hrow]
  rfl
  simp

theorem splitRows_rowsText {rows : List (List Text)}
    (hrows : ∀ row ∈ rows, row ≠ [] ∧ ∀ t ∈ row, Element t) {fuel : Nat} (hfuel : rows.length ≤ fuel) :
    splitRows fuel (rowsText rows) = .ok rows.flatten := by
  induction rows generalizing fuel with
  | nil => cases fuel <;> rfl
  | cons row rows ih =>
    obtain ⟨hne, hrow⟩ := hrows row List.mem_cons_self
    rw [List.length_cons] at hfuel
    obtain ⟨fuel, rfl⟩ : ∃ n, fuel = n + 1 := ⟨fuel - 1, by omega⟩
    cases rows with
    | nil =>
      have hone : rowsText [row] = tuple row ++ [] := by simp [rowsText, join]
      have hblank : Text.trim [] = [] := by decide
      rw [hone, splitRows_tuple hne hrow, hblank]
      simp
    | cons row' rows =>
      have hcomma : Text.trim (0x2c :: 0x20 :: rowsText (row' :: rows)) =
          0x2c :: 0x20 :: rowsText (row' :: rows) := by
        refine trim_of_solid (by simp; decide) fun b hb => rowsText_last row' rows b ?_
        obtain ⟨rest, hrest⟩ := rowsText_head row' rows
        simpa [hrest] using hb
      have hrest : splitRows fuel (rowsText (row' :: rows)) = .ok (row' :: rows).flatten :=
        ih (fun r hr => hrows r (List.mem_cons_of_mem _ hr)) (by omega)
      rw [rowsText_cons_cons, splitRows_tuple hne hrow, hcomma]
      simp only [trim_space_cons, trim_rowsText, hrest]
      rfl

theorem length_le_rowsText (rows : List (List Text)) : rows.length ≤ (rowsText rows).length := by
  induction rows with
  | nil => simp
  | cons row rows ih =>
    cases rows with
    | nil => simp [rowsText, join, tuple_eq]
    | cons row' rows =>
      rw [rowsText_cons_cons]
      simp only [List.length_append, List.length_cons] at ih ⊢
      omega

theorem splitMatrix_tuple {rows : List (List Text)}
    (hrows : ∀ row ∈ rows, row ≠ [] ∧ ∀ t ∈ row, Element t) :
    splitMatrix (tuple (rows.map tuple)) = .ok rows.flatten := by
  have htrim : Text.trim (rowsText rows) = rowsText rows := by
    cases rows with
    | nil => decide
    | cons row rows => exact trim_rowsText row rows
  rw [splitMatrix, enclosed?_tuple]
  change splitRows (Text.trim (rowsText rows)).length (Text.trim (rowsText rows)) = _
  rw [htrim]
  exact splitRows_rowsText hrows (length_le_rowsText rows)

end ShaderGraph.Literal
