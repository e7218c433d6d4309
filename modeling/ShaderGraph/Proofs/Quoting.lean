import ShaderGraph.Text.Quoted
import ShaderGraph.Proofs.Runes
import ShaderGraph.Proofs.Digits

/-!
# Quoted text reads back

Each unit of a text is written between quotes as itself or as an escape, and either form is read back
as the bytes of the unit. So unquoting undoes quoting for every text, damaged ones included.
-/
namespace ShaderGraph.Text

/-! ## Digits in base sixteen -/

def hexText (n : Nat) : Text := (Nat.toDigits 16 n).map Char.toUInt8

theorem hexValue?_digit {d : Nat} (h : d < 16) : hexValue? (digit d) = some d := by
  have hall : ∀ d < 16, hexValue? (digit d) = some d := by decide
  exact hall d h

theorem hexText_of_lt {n : Nat} (h : n < 16) : hexText n = [digit n] := by
  rw [hexText, Nat.toDigits_of_lt_base h]
  rfl

theorem hexText_of_le {n : Nat} (h : 16 ≤ n) : hexText n = hexText (n / 16) ++ [digit (n % 16)] := by
  rw [hexText, Nat.toDigits_of_base_le (by decide) h, List.map_append]
  rfl

theorem mapM_hexText (n : Nat) :
    ∃ ds, (hexText n).mapM hexValue? = some ds ∧ ds.foldl (fun acc d => acc * 16 + d) 0 = n := by
  induction n using Nat.strongRecOn with
  | ind n ih =>
    rcases Nat.lt_or_ge n 16 with h | h
    · exact ⟨[n], by simp [hexText_of_lt h, hexValue?_digit h], by simp⟩
    · obtain ⟨ds, hds, hvalue⟩ := ih (n / 16) (by omega)
      have hlast := hexValue?_digit (Nat.mod_lt n (by decide : 16 > 0))
      refine ⟨ds ++ [n % 16], ?_, ?_⟩
      · rw [hexText_of_le h, List.mapM_append, hds]
        simp [hlast]
      · rw [List.foldl_append, hvalue]
        simp only [List.foldl_cons, List.foldl_nil]
        omega

theorem mapM_ofHex (width n : Nat) :
    ∃ ds, (ofHex width n).mapM hexValue? = some ds ∧ ds.foldl (fun acc d => acc * 16 + d) 0 = n := by
  obtain ⟨ds, hds, hvalue⟩ := mapM_hexText n
  have hzeros (k : Nat) : (List.replicate k (0x30 : UInt8)).mapM hexValue? = some (List.replicate k 0) := by
    induction k with
    | zero => rfl
    | succ k ih =>
      rw [List.replicate_succ, List.mapM_cons, ih]
      rfl
  have hfold (k : Nat) : (List.replicate k 0).foldl (fun acc d => acc * 16 + d) 0 = 0 := by
    induction k with
    | zero => rfl
    | succ k ih => simpa [List.replicate_succ] using ih
  refine ⟨List.replicate (width - (hexText n).length) 0 ++ ds, ?_, ?_⟩
  · change (List.replicate (width - (hexText n).length) 0x30 ++ hexText n).mapM hexValue? = _
    rw [List.mapM_append, hzeros, hds]
    rfl
  · rw [List.foldl_append, hfold, hvalue]

theorem length_ofHex {width n : Nat} (hwidth : 0 < width) (h : n < 16 ^ width) :
    (ofHex width n).length = width := by
  have hlen := (Nat.length_toDigits_le_iff (b := 16) (by decide) hwidth).mpr h
  simp only [ofHex, List.length_append, List.length_replicate, List.length_map]
  omega

theorem takeHex?_ofHex {width n : Nat} (hwidth : 0 < width) (h : n < 16 ^ width) (rest : Text) :
    takeHex? width (ofHex width n ++ rest) = some (n, rest) := by
  obtain ⟨ds, hds, hvalue⟩ := mapM_ofHex width n
  have hlen := length_ofHex hwidth h
  have hnot : ¬ (ofHex width n ++ rest).length < width := by
    rw [List.length_append]
    omega
  rw [takeHex?, if_neg hnot, List.take_left' hlen, List.drop_left' hlen, hds, Option.map_some, hvalue]

theorem isSome_of_mapM {α β : Type} {f : α → Option β} {xs : List α} {ys : List β}
    (h : xs.mapM f = some ys) : ∀ x ∈ xs, (f x).isSome = true := by
  induction xs generalizing ys with
  | nil => simp
  | cons x xs ih =>
    rw [List.mapM_cons, Option.bind_eq_bind, Option.bind_eq_some_iff] at h
    obtain ⟨y, hy, h⟩ := h
    rw [Option.bind_eq_bind, Option.bind_eq_some_iff] at h
    obtain ⟨zs, hzs, _⟩ := h
    intro z hz
    rcases List.mem_cons.mp hz with rfl | hz
    · rw [hy]
      rfl
    · exact ih hzs z hz

theorem ne_open_of_mem_ofHex {width n : Nat} {b : UInt8} (h : b ∈ ofHex width n) : b ≠ 0x28 := by
  rintro rfl
  obtain ⟨ds, hds, _⟩ := mapM_ofHex width n
  have := isSome_of_mapM hds _ h
  revert this
  decide

/-! ## Units as they are written -/

def Decodes (c : Char) : Prop :=
  ∃ a tail, ofChar c = a :: tail ∧ (∀ b ∈ tail, isTail b = true) ∧
    ∀ rest, leading? a (tail ++ rest) = some (c, tail.length)

theorem decodes_of_mem_runesAfter {skip : Nat} {t : Text} {c : Char}
    (h : Rune.scalar c ∈ runesAfter skip t) : Decodes c := by
  induction t generalizing skip with
  | nil => simp [runesAfter] at h
  | cons a t ih =>
    cases skip with
    | succ skip => exact ih h
    | zero =>
      rw [runesAfter] at h
      split at h
      · rename_i d n hd
        rcases List.mem_cons.mp h with heq | h
        · obtain rfl := Rune.scalar.inj heq
          obtain ⟨hlen, hchar, htail, hlocal⟩ := leading?_spec hd
          have hlength : (t.take n).length = n := by
            rw [List.length_take]
            omega
          exact ⟨a, t.take n, hchar, htail, fun rest => by rw [hlocal, hlength]⟩
        · exact ih h
      · rcases List.mem_cons.mp h with heq | h
        · cases heq
        · exact ih h

theorem ofChar_of_lt {c : Char} (h : c.toNat < 0x80) :
    ∃ b : UInt8, b.toNat = c.toNat ∧ ofChar c = [b] ∧ c = Char.ofNat b.toNat := by
  have hb : (UInt8.ofNat c.toNat).toNat = c.toNat := by
    simp
    omega
  refine ⟨UInt8.ofNat c.toNat, hb, ?_, ?_⟩
  · have := ofChar_ascii (a := UInt8.ofNat c.toNat) (by omega)
    rwa [hb, Char.ofNat_toNat] at this
  · rw [hb, Char.ofNat_toNat]

theorem scalar?_toNat (c : Char) : scalar? c.toNat = some c := by
  have hvalid : c.toNat.isValidChar := c.valid
  rw [scalar?, if_pos, Char.ofNat_toNat]
  simp only [Nat.isValidChar] at hvalid
  omega

def EscapeOf (r : Rune) (t : Text) : Prop :=
  (∀ b ∈ t, b ≠ 0x28) ∧ ∀ rest, readEscape? 0x22 (t ++ rest) = some (r.bytes, rest)

theorem escapeOf_hex {r : Rune} {lead : UInt8} {width n : Nat} (hlead : lead ≠ 0x28)
    (hread : ∀ rest, readEscape? 0x22 (lead :: (ofHex width n ++ rest)) = some (r.bytes, rest)) :
    EscapeOf r (lead :: ofHex width n) := by
  refine ⟨fun b hb => ?_, hread⟩
  rcases List.mem_cons.mp hb with rfl | hb
  · exact hlead
  · exact ne_open_of_mem_ofHex hb

theorem escapeOf_byte {r : Rune} {b : UInt8} (h : r.bytes = [b]) :
    EscapeOf r (0x78 :: ofHex 2 b.toNat) := by
  refine escapeOf_hex (by decide) fun rest => ?_
  rw [readEscape?, takeHex?_ofHex (by decide) b.toNat_lt rest, h]
  simp

theorem escapeOf_four {c : Char} (h : c.toNat < 0x10000) :
    EscapeOf (.scalar c) (0x75 :: ofHex 4 c.toNat) := by
  refine escapeOf_hex (by decide) fun rest => ?_
  rw [readEscape?, takeHex?_ofHex (by decide) h rest]
  simp [scalar?_toNat, Rune.bytes]

theorem escapeOf_eight (c : Char) : EscapeOf (.scalar c) (0x55 :: ofHex 8 c.toNat) := by
  have h : c.toNat < 16 ^ 8 := by
    have hvalid : c.toNat.isValidChar := c.valid
    simp only [Nat.isValidChar] at hvalid
    omega
  refine escapeOf_hex (by decide) fun rest => ?_
  rw [readEscape?, takeHex?_ofHex (by decide) h rest]
  simp [scalar?_toNat, Rune.bytes]

theorem escapeOf_short {c letter : Char} (h : shortEscapes.lookup c = some letter) :
    EscapeOf (.scalar c) (ofChar letter) := by
  have hmem : (c, letter) ∈ shortEscapes := by
    obtain ⟨xs, ys, heq, _⟩ := List.lookup_eq_some_iff.mp h
    rw [heq]
    simp
  simp only [shortEscapes, List.mem_cons, List.not_mem_nil, or_false, Prod.mk.injEq] at hmem
  rcases hmem with ⟨rfl, rfl⟩ | ⟨rfl, rfl⟩ | ⟨rfl, rfl⟩ | ⟨rfl, rfl⟩ | ⟨rfl, rfl⟩ | ⟨rfl, rfl⟩ | ⟨rfl, rfl⟩ <;>
    exact ⟨List.forall_mem_ne'.mpr (by decide), fun rest => rfl⟩

/-- What a unit is written as: itself, if it is a printable character other than a quote or a backslash,
and else an escape, which is read as the unit. -/
theorem escapeRune_cases (r : Rune) :
    (∃ c, r = .scalar c ∧ c ≠ '"' ∧ c ≠ '\\' ∧ isPrintable c = true ∧ escapeRune r = ofChar c) ∨
    ∃ t, escapeRune r = 0x5c :: t ∧ EscapeOf r t := by
  have hx : Text.ofString "\\x" = [0x5c, 0x78] := by decide
  have hu : Text.ofString "\\u" = [0x5c, 0x75] := by decide
  have hU : Text.ofString "\\U" = [0x5c, 0x55] := by decide
  cases r with
  | stray b => exact Or.inr ⟨_, by rw [escapeRune, hx]; rfl, escapeOf_byte rfl⟩
  | scalar c =>
    rw [escapeRune, escapeChar]
    split
    · rename_i h
      refine Or.inr ⟨ofChar c, rfl, ?_⟩
      rcases h with rfl | rfl
      · exact ⟨List.forall_mem_ne'.mpr (by decide), fun rest => rfl⟩
      · exact ⟨List.forall_mem_ne'.mpr (by decide), fun rest => rfl⟩
    · rename_i hplain
      rw [not_or] at hplain
      split
      · rename_i hprint
        exact Or.inl ⟨c, rfl, hplain.1, hplain.2, hprint, rfl⟩
      · split
        · rename_i letter hshort
          exact Or.inr ⟨_, rfl, escapeOf_short hshort⟩
        · split
          · rename_i hlt
            obtain ⟨b, hb, hchar, _⟩ := ofChar_of_lt hlt
            refine Or.inr ⟨_, by rw [hx, ← hb]; rfl, escapeOf_byte hchar⟩
          · split
            · rename_i hlt
              exact Or.inr ⟨_, by rw [hu]; rfl, escapeOf_four hlt⟩
            · exact Or.inr ⟨_, by rw [hU]; rfl, escapeOf_eight c⟩

/-! ## Reading quoted text -/

theorem Decodes.first {c : Char} (h : Decodes c) (hquote : c ≠ '"') (hslash : c ≠ '\\')
    (hprint : isPrintable c = true) :
    ∃ a tail, ofChar c = a :: tail ∧ a ≠ 0x22 ∧ a ≠ 0x5c ∧ a ≠ 0x0a ∧
      (∀ rest, leading? a (tail ++ rest) = some (c, tail.length)) ∧
      (0x28 ∈ ofChar c → c = '(') := by
  obtain ⟨a, tail, hchar, htail, hlead⟩ := h
  refine ⟨a, tail, hchar, ?_⟩
  by_cases hlt : c.toNat < 0x80
  · obtain ⟨b, hb, hchar', hc⟩ := ofChar_of_lt hlt
    obtain ⟨rfl, rfl⟩ := List.cons.inj (hchar.symm.trans hchar')
    rw [hchar']
    have hge : 0x20 ≤ c.toNat := by
      simp only [isPrintable, if_pos hlt, Bool.and_eq_true, decide_eq_true_eq] at hprint
      exact hprint.1
    refine ⟨?_, ?_, ?_, hlead, ?_⟩
    · rintro rfl
      exact hquote hc
    · rintro rfl
      exact hslash hc
    · rintro rfl
      rw [← hb] at hge
      revert hge
      decide
    · intro hmem
      obtain rfl := List.mem_singleton.mp hmem
      exact hc
  · have ha : 0x80 ≤ a.toNat := by
      by_contra hascii
      have := (leading?_of_ascii (by omega) _).symm.trans (hlead [])
      obtain ⟨rfl, _⟩ := Prod.mk.inj (Option.some.inj this)
      have hv := toNat_ofNat_of_valid (n := a.toNat) (Or.inl (by omega))
      exact hlt (by rw [Char.toNat, hv]; omega)
    have hne {b : UInt8} (hb : 0x80 ≤ b.toNat) (m : UInt8) (hm : m.toNat < 0x80) : b ≠ m := by
      rintro rfl
      omega
    refine ⟨hne ha _ (by decide), hne ha _ (by decide), hne ha _ (by decide), hlead, fun hmem => ?_⟩
    rw [hchar] at hmem
    rcases List.mem_cons.mp hmem with heq | hmem
    · exact absurd heq.symm (hne ha _ (by decide))
    · exact absurd rfl (hne (isTail_iff.mp (htail _ hmem)).1 _ (by decide))

def AllDecode (rs : List Rune) : Prop := ∀ c, Rune.scalar c ∈ rs → Decodes c

theorem allDecode_runes (t : Text) : AllDecode t.runes := fun _ => decodes_of_mem_runesAfter

def escaped (rs : List Rune) : Text := rs.flatMap escapeRune

theorem escaped_cons (r : Rune) (rs : List Rune) : escaped (r :: rs) = escapeRune r ++ escaped rs := rfl

theorem readQuoted?_escapeRune {r : Rune} {rs : List Rune} (h : AllDecode (r :: rs)) (rest : Text) :
    readQuoted? 0x22 (escapeRune r ++ rest) = some (r.bytes, rest) := by
  rcases escapeRune_cases r with ⟨c, rfl, hquote, hslash, hprint, hesc⟩ | ⟨t, hesc, _, hread⟩
  · obtain ⟨a, tail, hchar, h₁, h₂, h₃, hlead, _⟩ :=
      (h c List.mem_cons_self).first hquote hslash hprint
    rw [hesc, hchar, List.cons_append, readQuoted?]
    simp [h₁, h₂, h₃, hlead, Rune.bytes, hchar]
  · rw [hesc, List.cons_append, readQuoted?]
    simp [hread]

theorem escapeRune_ne_nil {r : Rune} {rs : List Rune} (h : AllDecode (r :: rs)) : escapeRune r ≠ [] := by
  intro hnil
  have := readQuoted?_escapeRune h []
  rw [hnil] at this
  simp [readQuoted?] at this

theorem readDoubleQuoted?_escaped {rs : List Rune} (h : AllDecode rs) {fuel : Nat}
    (hfuel : rs.length < fuel) :
    readDoubleQuoted? fuel (escaped rs ++ [0x22]) = some (ofRunes rs) := by
  induction rs generalizing fuel with
  | nil =>
    obtain ⟨fuel, rfl⟩ := Nat.exists_eq_succ_of_ne_zero (by omega : fuel ≠ 0)
    rfl
  | cons r rs ih =>
    obtain ⟨fuel, rfl⟩ := Nat.exists_eq_succ_of_ne_zero (by omega : fuel ≠ 0)
    have hrest : AllDecode rs := fun c hc => h c (List.mem_cons_of_mem r hc)
    have hlen : escapeRune r ++ (escaped rs ++ [0x22]) ≠ [0x22] := by
      intro heq
      have := congrArg List.length heq
      have hpos := List.length_pos_iff.mpr (escapeRune_ne_nil h)
      simp only [List.length_append, List.length_singleton] at this
      omega
    rw [escaped_cons, List.append_assoc, readDoubleQuoted?, if_neg hlen, readQuoted?_escapeRune h]
    simp only [ih hrest (by simpa using hfuel), Option.map_some]
    rfl

theorem length_le_escaped {rs : List Rune} (h : AllDecode rs) : rs.length ≤ (escaped rs).length := by
  induction rs with
  | nil => simp
  | cons r rs ih =>
    have hrest : AllDecode rs := fun c hc => h c (List.mem_cons_of_mem r hc)
    have hpos := List.length_pos_iff.mpr (escapeRune_ne_nil h)
    rw [escaped_cons, List.length_append, List.length_cons]
    have := ih hrest
    omega

theorem quote_eq (t : Text) : quote t = 0x22 :: (escaped t.runes ++ [0x22]) := rfl

theorem unquote?_quote (t : Text) : unquote? (quote t) = some t := by
  have hdecode := allDecode_runes t
  have hlen := length_le_escaped hdecode
  rw [quote_eq, unquote?, readDoubleQuoted?_escaped hdecode, ofRunes_runes]
  rw [List.length_append, List.length_singleton]
  omega

end ShaderGraph.Text
