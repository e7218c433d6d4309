import ShaderGraph.Proofs.Tuples

/-!
# Texts joined at plain bytes

A line of a document is put together from fixed text, numbers, quoted text and names. The fixed text and
the numbers are plain: characters of one byte, none of which ends a line. A property of texts that holds
of two pieces with a plain byte between them exactly if it holds of both pieces, and that holds of all
quoted text, then holds of a line exactly if it holds of the names in it. To be in UTF-8 and to have no
line feed are such properties.
-/
namespace ShaderGraph

namespace Text

def isSeam (b : UInt8) : Bool := decide (b.toNat < 0x80) && b != 0x0a

def Smooth (t : Text) : Prop := ∀ b ∈ t, isSeam b = true

theorem isSeam_iff {b : UInt8} : isSeam b = true ↔ b.toNat < 0x80 ∧ b ≠ 0x0a := by
  simp [isSeam]

theorem Smooth.nil : Smooth [] := fun _ hb => absurd hb List.not_mem_nil

theorem smooth_append {s t : Text} : Smooth (s ++ t) ↔ Smooth s ∧ Smooth t := List.forall_mem_append

instance (t : Text) : Decidable (Smooth t) :=
  decidable_of_iff (t.all isSeam = true) List.all_eq_true

theorem Smooth.join {sep : Text} (hsep : Smooth sep) {ts : List Text} (hts : ∀ t ∈ ts, Smooth t) :
    Smooth (join sep ts) := by
  intro b hb
  rcases Literal.mem_join hb with hb | ⟨t, ht, hb⟩
  · exact hsep b hb
  · exact hts t ht b hb

theorem forall_byte {P : UInt8 → Prop} (h : ∀ m < 256, P (UInt8.ofNat m)) (b : UInt8) : P b := by
  have hb := h b.toNat b.toNat_lt
  rwa [UInt8.ofNat_toNat] at hb

theorem smooth_ofNat (n : Nat) : Smooth (ofNat n) := by
  have hdigit := forall_byte (P := fun b => Numeral.isDigit b = true → isSeam b = true)
    (by decide +kernel)
  exact fun b hb => hdigit b (isDigit_of_mem_ofNat n b hb)

/-! ## Properties of joined texts -/

/-- A property that can be told from the pieces of a text when these meet at plain bytes. -/
structure Seamed (P : Text → Prop) : Prop where
  nil : P []
  cut : ∀ (s t : Text) {b : UInt8}, isSeam b = true → (P (s ++ b :: t) ↔ P s ∧ P t)
  quoted : ∀ t, P (quote t)

namespace Seamed

variable {P : Text → Prop} {p : Text}

theorem lead (h : Seamed P) (hp : Smooth p) (t : Text) : P (p ++ t) ↔ P t := by
  induction p with
  | nil => rfl
  | cons b p ih =>
    obtain ⟨hb, hp⟩ := List.forall_mem_cons.mp hp
    have hcut := h.cut [] (p ++ t) hb
    rw [List.nil_append] at hcut
    rw [List.cons_append, hcut, ih hp]
    exact and_iff_right h.nil

theorem between (h : Seamed P) (hp : Smooth p) (hne : p ≠ []) (s t : Text) :
    P (s ++ (p ++ t)) ↔ P s ∧ P t := by
  obtain ⟨b, p, rfl⟩ := List.exists_cons_of_ne_nil hne
  obtain ⟨hb, hp⟩ := List.forall_mem_cons.mp hp
  rw [List.cons_append, h.cut s (p ++ t) hb, h.lead hp]

theorem smooth (h : Seamed P) (hp : Smooth p) : P p := by
  rw [← List.append_nil p, h.lead hp]
  exact h.nil

theorem trail (h : Seamed P) (hp : Smooth p) (s : Text) : P (s ++ p) ↔ P s := by
  cases p with
  | nil => rw [List.append_nil]
  | cons b p =>
    rw [← List.append_nil (b :: p), h.between hp (List.cons_ne_nil b p)]
    exact and_iff_left h.nil

end Seamed

theorem join_iff {P : Text → Prop} {b : UInt8} (hnil : P [])
    (hcut : ∀ s t, P (s ++ b :: t) ↔ P s ∧ P t) (ts : List Text) :
    P (join [b] ts) ↔ ∀ t ∈ ts, P t := by
  induction ts with
  | nil => exact iff_of_true hnil fun _ ht => absurd ht List.not_mem_nil
  | cons t ts ih =>
    cases ts with
    | nil => simp [join]
    | cons u us =>
      rw [Literal.join_cons_cons, List.append_assoc, List.singleton_append, hcut, ih]
      exact List.forall_mem_cons.symm

/-! ## UTF-8 -/

theorem isSome_mapM {α β : Type} (f : α → Option β) (xs : List α) :
    (xs.mapM f).isSome = xs.all fun x => (f x).isSome := by
  induction xs with
  | nil => rfl
  | cons x xs ih =>
    rw [List.mapM_cons, List.all_cons, ← ih]
    cases f x with
    | none => rfl
    | some y => cases xs.mapM f <;> rfl

def isScalar : Rune → Bool
  | .scalar _ => true
  | .stray _ => false

theorem isUtf8_eq (t : Text) : t.isUtf8 = t.runes.all isScalar := by
  rw [isUtf8, chars?, isSome_mapM]
  congr
  funext r
  cases r <;> rfl

theorem isUtf8_cut {b : UInt8} (hb : b.toNat < 0x80) (s t : Text) :
    (s ++ b :: t).isUtf8 = true ↔ s.isUtf8 = true ∧ t.isUtf8 = true := by
  rw [isUtf8_eq, isUtf8_eq, isUtf8_eq, runes_append_ascii hb, runes_cons_ascii hb, List.all_append,
    Bool.and_eq_true, List.all_cons, Bool.and_eq_true]
  exact and_congr_right' (and_iff_right rfl)

/-! ## Quoted text -/

theorem smooth_ofHex (width n : Nat) : Smooth (ofHex width n) := by
  have hdigit := forall_byte (P := fun b => (hexValue? b).isSome = true → isSeam b = true)
    (by decide +kernel)
  obtain ⟨ds, hds, _⟩ := mapM_ofHex width n
  exact fun b hb => hdigit b (isSome_of_mapM hds b hb)

theorem smooth_shortEscape {c letter : Char} (h : shortEscapes.lookup c = some letter) :
    Smooth (ofChar letter) := by
  have hall : ∀ x ∈ shortEscapes, Smooth (ofChar x.2) := by decide
  obtain ⟨xs, ys, heq, _⟩ := List.lookup_eq_some_iff.mp h
  have hmem : (c, letter) ∈ shortEscapes := by
    rw [heq]
    exact List.mem_append_right _ List.mem_cons_self
  exact hall _ hmem

/-- A unit is written as itself if it is a printable character, and else in plain bytes. -/
theorem escapeRune_smooth (r : Rune) :
    (∃ c, r = .scalar c ∧ isPrintable c = true ∧ escapeRune r = ofChar c) ∨
      Smooth (escapeRune r) := by
  have hhex : ∀ lead width n, Smooth lead → Smooth (lead ++ ofHex width n) :=
    fun lead width n hlead => smooth_append.mpr ⟨hlead, smooth_ofHex width n⟩
  cases r with
  | stray b => exact Or.inr (hhex _ _ _ (by decide))
  | scalar c =>
    rw [escapeRune, escapeChar]
    split
    · rename_i hmark
      refine Or.inr ?_
      rcases hmark with rfl | rfl <;> decide
    · split
      · rename_i hprint
        exact Or.inl ⟨c, rfl, hprint, rfl⟩
      · refine Or.inr ?_
        split
        · rename_i letter hshort
          exact List.forall_mem_cons.mpr ⟨by decide, smooth_shortEscape hshort⟩
        · split
          · exact hhex _ _ _ (by decide)
          · split
            · exact hhex _ _ _ (by decide)
            · exact hhex _ _ _ (by decide)

theorem runes_smooth_append {p : Text} (hp : Smooth p) (t : Text) :
    runes (p ++ t) = bareRunes p ++ runes t := by
  induction p with
  | nil => rfl
  | cons b p ih =>
    obtain ⟨hb, hp⟩ := List.forall_mem_cons.mp hp
    rw [List.cons_append, runes_cons_ascii (isSeam_iff.mp hb).1, ih hp]
    rfl

theorem isUtf8_smooth_append {p : Text} (hp : Smooth p) (t : Text) :
    (p ++ t).isUtf8 = t.isUtf8 := by
  have hbare : (bareRunes p).all isScalar = true := by
    rw [bareRunes, List.all_map]
    exact List.all_eq_true.mpr fun _ _ => rfl
  rw [isUtf8_eq, isUtf8_eq, runes_smooth_append hp, List.all_append, hbare, Bool.true_and]

theorem isUtf8_escaped {rs : List Rune} (h : AllDecode rs) (t : Text) :
    (escaped rs ++ t).isUtf8 = t.isUtf8 := by
  induction rs with
  | nil => rfl
  | cons r rs ih =>
    have hrest : AllDecode rs := fun c hc => h c (List.mem_cons_of_mem r hc)
    rw [escaped_cons, List.append_assoc, ← ih hrest]
    rcases escapeRune_smooth r with ⟨c, rfl, _, hesc⟩ | hsmooth
    · rw [isUtf8_eq, isUtf8_eq, hesc, runes_ofChar_append (h c List.mem_cons_self)]
      rfl
    · exact isUtf8_smooth_append hsmooth _

theorem isUtf8_quote (t : Text) : (quote t).isUtf8 = true := by
  have hopen := isUtf8_smooth_append (p := [0x22]) (by decide) (escaped t.runes ++ [0x22])
  rw [quote_eq, ← List.singleton_append, hopen, isUtf8_escaped (allDecode_runes t)]
  decide

theorem newline_not_mem_ofChar {c : Char} (h : Decodes c) (hprint : isPrintable c = true) :
    0x0a ∉ ofChar c := by
  intro hmem
  by_cases hlt : c.toNat < 0x80
  · obtain ⟨b, hb, hchar, _⟩ := ofChar_of_lt hlt
    rw [hchar, List.mem_singleton] at hmem
    simp only [isPrintable, if_pos hlt, Bool.and_eq_true, decide_eq_true_eq] at hprint
    rw [← hb, ← hmem] at hprint
    exact absurd hprint.1 (by decide)
  · obtain ⟨a, tail, hchar, htail, hlead⟩ := h
    rw [hchar] at hmem
    rcases List.mem_cons.mp hmem with rfl | hmem
    · -- A line feed at the start would be the whole character.
      have hself := (leading?_of_ascii (by decide) _).symm.trans (hlead [])
      obtain ⟨rfl, _⟩ := Prod.mk.inj (Option.some.inj hself)
      exact hlt (by decide)
    · exact absurd (htail _ hmem) (by decide)

theorem newline_not_mem_quote (t : Text) : 0x0a ∉ quote t := by
  intro hmem
  rw [quote_eq, List.mem_cons, List.mem_append, List.mem_singleton] at hmem
  rcases hmem with h | h | h
  · exact absurd h (by decide)
  · obtain ⟨r, hr, hmem⟩ := List.mem_flatMap.mp h
    rcases escapeRune_smooth r with ⟨c, rfl, hprint, hesc⟩ | hsmooth
    · rw [hesc] at hmem
      exact newline_not_mem_ofChar (allDecode_runes t c hr) hprint hmem
    · exact absurd (hsmooth _ hmem) (by decide)
  · exact absurd h (by decide)

/-! ## The two properties -/

theorem seamed_isUtf8 : Seamed fun t => t.isUtf8 = true where
  nil := rfl
  cut s t _ hb := isUtf8_cut (isSeam_iff.mp hb).1 s t
  quoted := isUtf8_quote

theorem seamed_newline : Seamed fun t => 0x0a ∉ t where
  nil := List.not_mem_nil
  cut s t b hb := by
    have hne : (0x0a : UInt8) ≠ b := Ne.symm (isSeam_iff.mp hb).2
    simp [hne]
  quoted := newline_not_mem_quote

end Text
end ShaderGraph
