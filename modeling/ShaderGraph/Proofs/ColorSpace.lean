import ShaderGraph.Constant.Literal
import ShaderGraph.Proofs.Quoting

/-!
# Color spaces behind a tuple

A color space is found by the last mark that introduces one. The mark is made of printable characters
of one byte and has one opening parenthesis, at its start, while no escape has one: so the mark stands
in a quoted text exactly where it stands in the text. A space without the mark is found where it was
written, and one with the mark is cut inside its quotes, where nothing can be unquoted.
-/
namespace ShaderGraph.Text

/-! ## The last place of a pattern -/

theorem dropPrefix?_eq_some {p t rest : Text} : dropPrefix? p t = some rest ↔ t = p ++ rest := by
  induction p generalizing t with
  | nil => simp [dropPrefix?]
  | cons b p ih =>
    cases t with
    | nil => simp [dropPrefix?]
    | cons a t =>
      rw [dropPrefix?, List.cons_append, List.cons.injEq, ← ih, Option.ite_none_right_eq_some, eq_comm]

theorem dropSuffix_append (s t : Text) : dropSuffix s (t ++ s) = t := by
  have h : dropPrefix? s.reverse (t ++ s).reverse = some t.reverse := by
    rw [dropPrefix?_eq_some, List.reverse_append]
  simp only [dropSuffix, h, List.reverse_reverse]

theorem splitLast?_spec (p t : Text) : match splitLast? p t with
    | none => ∀ x y, t ≠ x ++ p ++ y
    | some (before, after) => t = before ++ p ++ after ∧
        ∀ x y, t = x ++ p ++ y → x.length ≤ before.length := by
  induction t with
  | nil =>
    rw [splitLast?]
    cases h : dropPrefix? p [] with
    | none =>
      intro x y heq
      obtain ⟨rfl, rfl, rfl⟩ : x = [] ∧ p = [] ∧ y = [] := by simpa using heq.symm
      simp [dropPrefix?] at h
    | some rest =>
      refine ⟨dropPrefix?_eq_some.mp h, fun x y heq => ?_⟩
      obtain ⟨rfl, _, _⟩ : x = [] ∧ p = [] ∧ y = [] := by simpa using heq.symm
      exact Nat.le_refl 0
  | cons b t ih =>
    rw [splitLast?]
    cases hlast : splitLast? p t with
    | some found =>
      obtain ⟨before, after⟩ := found
      rw [hlast] at ih
      obtain ⟨rfl, hmax⟩ := ih
      refine ⟨rfl, fun x y heq => ?_⟩
      cases x with
      | nil => exact Nat.zero_le _
      | cons c x => exact Nat.succ_le_succ (hmax x y (List.cons.inj heq).2)
    | none =>
      rw [hlast] at ih
      have hlater : ∀ x y, b :: t = x ++ p ++ y → x = [] := by
        intro x y heq
        cases x with
        | nil => rfl
        | cons c x => exact absurd (List.cons.inj heq).2 (ih x y)
      cases hfirst : dropPrefix? p (b :: t) with
      | none =>
        intro x y heq
        obtain rfl := hlater x y heq
        have hsome : dropPrefix? p (b :: t) = some y := dropPrefix?_eq_some.mpr heq
        rw [hfirst] at hsome
        cases hsome
      | some rest =>
        refine ⟨dropPrefix?_eq_some.mp hfirst, fun x y heq => ?_⟩
        simp [hlater x y heq]

theorem splitLast?_eq {p t before after : Text} (heq : t = before ++ p ++ after)
    (hmax : ∀ x y, t = x ++ p ++ y → x.length ≤ before.length) : splitLast? p t = some (before, after) := by
  have hspec := splitLast?_spec p t
  cases hlast : splitLast? p t with
  | none =>
    rw [hlast] at hspec
    exact absurd heq (hspec _ _)
  | some found =>
    obtain ⟨before', after'⟩ := found
    rw [hlast] at hspec
    obtain ⟨heq', hmax'⟩ := hspec
    have hlen : before.length = before'.length := Nat.le_antisymm (hmax' _ _ heq) (hmax _ _ heq')
    rw [heq, List.append_assoc, List.append_assoc] at heq'
    obtain ⟨rfl, hrest⟩ := List.append_inj heq' hlen
    rw [List.append_cancel_left hrest]

/-! ## Patterns in quoted text -/

def isBare (b : UInt8) : Bool :=
  decide (0x20 ≤ b.toNat) && decide (b.toNat < 0x7f) && b != 0x22 && b != 0x5c

def bareRunes (p : Text) : List Rune := p.map fun b => .scalar (Char.ofNat b.toNat)

theorem isBare_iff {b : UInt8} :
    isBare b = true ↔ 0x20 ≤ b.toNat ∧ b.toNat < 0x7f ∧ b ≠ 0x22 ∧ b ≠ 0x5c := by
  simp [isBare, and_assoc]

theorem ofRunes_bareRunes {p : Text} (hp : ∀ b ∈ p, isBare b = true) : ofRunes (bareRunes p) = p := by
  induction p with
  | nil => rfl
  | cons b p ih =>
    have hb := isBare_iff.mp (hp b List.mem_cons_self)
    change ofChar (Char.ofNat b.toNat) ++ ofRunes (bareRunes p) = b :: p
    rw [ofChar_ascii (by omega), ih fun x hx => hp x (List.mem_cons_of_mem b hx)]
    rfl

theorem escapeRune_bare {b : UInt8} (h : isBare b = true) :
    escapeRune (.scalar (Char.ofNat b.toNat)) = [b] := by
  obtain ⟨hlow, hhigh, hquote, hslash⟩ := isBare_iff.mp h
  have hv : (Char.ofNat b.toNat).toNat = b.toNat := toNat_ofNat_of_valid (Or.inl (by omega))
  have hne {c : Char} {m : UInt8} (hm : m.toNat = c.toNat) (hb : b ≠ m) : Char.ofNat b.toNat ≠ c := by
    rintro rfl
    exact hb (UInt8.toNat_inj.mp (by rw [hm, hv]))
  have hprint : isPrintable (Char.ofNat b.toNat) = true := by
    simp only [isPrintable, hv, if_pos (show b.toNat < 0x80 by omega), Bool.and_eq_true, decide_eq_true_eq]
    omega
  have hplain : ¬ (Char.ofNat b.toNat = '"' ∨ Char.ofNat b.toNat = '\\') := by
    rw [not_or]
    exact ⟨hne (m := 0x22) rfl hquote, hne (m := 0x5c) rfl hslash⟩
  rw [escapeRune, escapeChar, if_neg hplain, if_pos hprint, ofChar_ascii (by omega)]

theorem escaped_append (rs ss : List Rune) : escaped (rs ++ ss) = escaped rs ++ escaped ss :=
  List.flatMap_append

theorem escaped_bareRunes {p : Text} (hp : ∀ b ∈ p, isBare b = true) : escaped (bareRunes p) = p := by
  induction p with
  | nil => rfl
  | cons b p ih =>
    change escaped (_ :: bareRunes p) = b :: p
    rw [escaped_cons, escapeRune_bare (hp b List.mem_cons_self),
      ih fun x hx => hp x (List.mem_cons_of_mem b hx)]
    rfl

theorem runes_bare_append {p : Text} (hp : ∀ b ∈ p, isBare b = true) (t : Text) :
    runes (p ++ t) = bareRunes p ++ runes t := by
  induction p with
  | nil => rfl
  | cons b p ih =>
    have hb := isBare_iff.mp (hp b List.mem_cons_self)
    rw [List.cons_append, runes_cons_ascii (by omega), ih fun x hx => hp x (List.mem_cons_of_mem b hx)]
    rfl

theorem rune_of_bare_first {r : Rune} {rs : List Rune} (h : AllDecode (r :: rs)) {b : UInt8} {t s : Text}
    (hb : isBare b = true) (heq : escapeRune r ++ t = b :: s) :
    r = .scalar (Char.ofNat b.toNat) ∧ t = s := by
  obtain ⟨_, hhigh, _, hslash⟩ := isBare_iff.mp hb
  rcases escapeRune_cases r with ⟨c, rfl, hquote, hslash', hprint, hesc⟩ | ⟨u, hesc, _⟩
  · obtain ⟨a, tail, hchar, _, _, _, hlead, _⟩ := (h c List.mem_cons_self).first hquote hslash' hprint
    rw [hesc, hchar, List.cons_append] at heq
    obtain ⟨rfl, rfl⟩ := List.cons.inj heq
    have hascii := (leading?_of_ascii (by omega) _).symm.trans (hlead [])
    obtain ⟨rfl, hlen⟩ := Prod.mk.inj (Option.some.inj hascii)
    rw [List.eq_nil_of_length_eq_zero hlen.symm]
    exact ⟨rfl, rfl⟩
  · rw [hesc, List.cons_append] at heq
    exact absurd (List.cons.inj heq).1.symm hslash

theorem runes_of_bare_start {p : Text} (hp : ∀ b ∈ p, isBare b = true) {rs : List Rune} (h : AllDecode rs)
    {y z : Text} (heq : escaped rs ++ 0x22 :: z = p ++ y) :
    ∃ ss, rs = bareRunes p ++ ss ∧ y = escaped ss ++ 0x22 :: z := by
  induction p generalizing rs with
  | nil => exact ⟨rs, rfl, heq.symm⟩
  | cons b p ih =>
    have hb := hp b List.mem_cons_self
    cases rs with
    | nil => exact absurd (List.cons.inj heq).1.symm (isBare_iff.mp hb).2.2.1
    | cons r rs =>
      rw [escaped_cons, List.append_assoc, List.cons_append] at heq
      obtain ⟨rfl, heq'⟩ := rune_of_bare_first h hb heq
      obtain ⟨ss, rfl, hy⟩ := ih (fun x hx => hp x (List.mem_cons_of_mem b hx))
        (fun c hc => h c (List.mem_cons_of_mem _ hc)) heq'
      exact ⟨ss, rfl, hy⟩

theorem runes_of_open {rs : List Rune} (h : AllDecode rs) {x y z : Text}
    (heq : escaped rs ++ z = x ++ 0x28 :: y) (hz : 0x28 ∉ z) :
    ∃ qs ss, rs = qs ++ .scalar '(' :: ss ∧ x = escaped qs ∧ y = escaped ss ++ z := by
  induction rs generalizing x with
  | nil =>
    have hmem : (0x28 : UInt8) ∈ x ++ 0x28 :: y := by simp
    rw [← heq] at hmem
    exact absurd hmem hz
  | cons r rs ih =>
    have hrest : AllDecode rs := fun c hc => h c (List.mem_cons_of_mem r hc)
    rw [escaped_cons, List.append_assoc, List.append_eq_append_iff] at heq
    rcases heq with ⟨w, hx, hw⟩ | ⟨w, hr, hw⟩
    · obtain ⟨qs, ss, rfl, rfl, hy⟩ := ih hrest hw
      exact ⟨r :: qs, ss, rfl, by rw [hx, escaped_cons], hy⟩
    · cases w with
      | nil =>
        obtain ⟨qs, ss, rfl, hqs, hy⟩ := ih hrest (x := []) hw.symm
        exact ⟨r :: qs, ss, rfl, by rw [escaped_cons, ← hqs, hr, List.append_nil, List.append_nil], hy⟩
      | cons b w =>
        obtain ⟨rfl, rfl⟩ := List.cons.inj hw
        have hmem : (0x28 : UInt8) ∈ escapeRune r := by
          rw [hr]
          simp
        rcases escapeRune_cases r with ⟨c, rfl, hquote, hslash, hprint, hesc⟩ | ⟨u, hesc, hu, _⟩
        · obtain ⟨_, _, _, _, _, _, _, hopen⟩ := (h c List.mem_cons_self).first hquote hslash hprint
          obtain rfl := hopen (by rwa [← hesc])
          have hsingle : [0x28] = x ++ 0x28 :: w := by rw [← hr]; rfl
          cases x with
          | nil =>
            obtain rfl := (List.cons.inj hsingle).2
            exact ⟨[], rs, rfl, rfl, rfl⟩
          | cons a x => simp at hsingle
        · rw [hesc] at hmem
          rcases List.mem_cons.mp hmem with hmem | hmem
          · exact absurd hmem (by decide)
          · exact absurd rfl (hu _ hmem)

/-- A bare pattern with its only opening parenthesis at the start stands in quoted text where it
stands in the text. -/
theorem runes_of_pattern {p : Text} (hp : ∀ b ∈ 0x28 :: p, isBare b = true) {rs : List Rune}
    (h : AllDecode rs) {x y z : Text} (hz : 0x28 ∉ z)
    (heq : escaped rs ++ 0x22 :: z = x ++ 0x28 :: p ++ y) :
    ∃ qs ss, rs = qs ++ bareRunes (0x28 :: p) ++ ss ∧ x = escaped qs ∧ y = escaped ss ++ 0x22 :: z := by
  rw [List.append_assoc, List.cons_append] at heq
  have hz' : (0x28 : UInt8) ∉ 0x22 :: z := by simpa using hz
  obtain ⟨qs, ss, rfl, hx, hy⟩ := runes_of_open h heq hz'
  have hss : AllDecode ss := fun c hc => h c (by simp [hc])
  obtain ⟨us, rfl, hy'⟩ := runes_of_bare_start (fun b hb => hp b (List.mem_cons_of_mem _ hb)) hss hy.symm
  exact ⟨qs, us, by simp [bareRunes], hx, hy'⟩

/-! ## Quoted text that was cut -/

theorem takeHex?_suffix {count n : Nat} {t rest : Text} (h : takeHex? count t = some (n, rest)) :
    rest <:+ t := by
  rw [takeHex?] at h
  split at h
  · cases h
  · obtain ⟨ds, _, hds⟩ := Option.map_eq_some_iff.mp h
    obtain ⟨_, rfl⟩ := Prod.mk.inj hds
    exact List.drop_suffix _ _

theorem readEscape?_suffix {mark : UInt8} {t value rest : Text}
    (h : readEscape? mark t = some (value, rest)) : rest <:+ t := by
  unfold readEscape? at h
  split at h
  case h_9 u =>
    obtain ⟨⟨n, r⟩, hn, heq⟩ := Option.map_eq_some_iff.mp h
    obtain ⟨_, rfl⟩ := Prod.mk.inj heq
    exact (takeHex?_suffix hn).trans (List.suffix_cons _ _)
  case h_10 u =>
    simp only [Option.bind_eq_bind, Option.bind_eq_some_iff, Option.pure_def, Option.some.injEq,
      Prod.mk.injEq] at h
    obtain ⟨⟨n, r⟩, hn, c, _, _, rfl⟩ := h
    exact (takeHex?_suffix hn).trans (List.suffix_cons _ _)
  case h_11 u =>
    simp only [Option.bind_eq_bind, Option.bind_eq_some_iff, Option.pure_def, Option.some.injEq,
      Prod.mk.injEq] at h
    obtain ⟨⟨n, r⟩, hn, c, _, _, rfl⟩ := h
    exact (takeHex?_suffix hn).trans (List.suffix_cons _ _)
  case h_12 a u _ _ _ _ _ _ _ _ _ _ _ =>
    split at h
    · obtain ⟨_, h⟩ := Option.ite_none_right_eq_some.mp h
      obtain ⟨_, rfl⟩ := Prod.mk.inj (Option.some.inj h)
      exact List.suffix_cons _ _
    · split at h
      · simp only [Option.bind_eq_bind, Option.bind_eq_some_iff, Option.pure_def,
          Option.ite_none_right_eq_some, Option.some.injEq, Prod.mk.injEq] at h
        obtain ⟨_, _, _, _, _, _, _, _, rfl⟩ := h
        exact ⟨[_, _, _], rfl⟩
      · cases h
  case h_13 => cases h
  all_goals
    obtain ⟨_, rfl⟩ := Prod.mk.inj (Option.some.inj h)
    exact List.suffix_cons _ _

theorem readQuoted?_suffix {mark : UInt8} {t value rest : Text}
    (h : readQuoted? mark t = some (value, rest)) : rest <:+ t := by
  cases t with
  | nil => simp [readQuoted?] at h
  | cons b t =>
    rw [readQuoted?] at h
    split at h
    · cases h
    · split at h
      · exact (readEscape?_suffix h).trans (List.suffix_cons b t)
      · split at h
        · rename_i c n _
          obtain ⟨_, rfl⟩ := Prod.mk.inj (Option.some.inj h)
          exact (List.drop_suffix n t).trans (List.suffix_cons b t)
        · obtain ⟨_, rfl⟩ := Prod.mk.inj (Option.some.inj h)
          exact List.suffix_cons b _

theorem unquote?_eq_none {a : UInt8} (ha : a ≠ 0x22) (t : Text) : unquote? (a :: (t ++ [0x22])) = none := by
  have hend : ¬ [0x27] <:+ t ++ [0x22] := by
    rw [List.singleton_suffix_iff_getLast?_eq_some, List.getLast?_concat]
    decide
  rw [unquote?.eq_def]
  split
  · rename_i heq
    exact absurd (List.cons.inj heq).1 ha
  · rename_i u heq
    obtain ⟨_, rfl⟩ := List.cons.inj heq
    rw [if_neg]
    · split
      · rename_i value hread
        exact absurd (readQuoted?_suffix hread) hend
      · rfl
    · intro hu
      rw [hu] at hend
      exact hend List.suffix_rfl
  · rename_i u heq
    obtain ⟨_, rfl⟩ := List.cons.inj heq
    simp
  · rfl

theorem runes_ofChar_append {c : Char} (h : Decodes c) (t : Text) :
    runes (ofChar c ++ t) = .scalar c :: runes t := by
  have hskip (s : Text) : runesAfter s.length (s ++ t) = runes t := by
    induction s with
    | nil => rfl
    | cons a s ih => exact ih
  obtain ⟨a, tail, hchar, _, hlead⟩ := h
  rw [hchar, List.cons_append, runes, runesAfter, hlead]
  simp only [hskip]

/-- White space goes from what follows a mark inside quotes, up to the closing quote at most. -/
theorem trim_escaped {rs : List Rune} (h : AllDecode rs) :
    trim (escaped rs ++ [0x22]) = [0x22] ∨
      ∃ a t, trim (escaped rs ++ [0x22]) = a :: (t ++ [0x22]) ∧ a ≠ 0x22 := by
  induction rs with
  | nil => exact Or.inl (by decide)
  | cons r rs ih =>
    have hrest : AllDecode rs := fun c hc => h c (List.mem_cons_of_mem r hc)
    have hend (t : Text) : ∀ b ∈ (t ++ [0x22]).getLast?, isSolid b = true := by
      intro b hb
      obtain rfl : 0x22 = b := by simpa using hb
      decide
    rw [escaped_cons]
    rcases escapeRune_cases r with ⟨c, rfl, hquote, hslash, hprint, hesc⟩ | ⟨u, hesc, _⟩
    · have hc := h c List.mem_cons_self
      obtain ⟨a, tail, hchar, ha, _⟩ := hc.first hquote hslash hprint
      have hrunes := runes_ofChar_append hc (escaped rs ++ [0x22])
      rw [hesc, List.append_assoc]
      by_cases hblank : (Rune.scalar c).isBlank = true
      · have htrim : trim (ofChar c ++ (escaped rs ++ [0x22])) = trim (escaped rs ++ [0x22]) := by
          rw [trim, hrunes, trimRunes, List.dropWhile_cons_of_pos hblank]
          rfl
        rw [htrim]
        exact ih hrest
      · right
        refine ⟨a, tail ++ escaped rs, ?_, ha⟩
        have hlast : Rune.isBlank (.scalar (Char.ofNat (UInt8.toNat 0x22))) = false := by decide
        rw [trim, trimRunes_of_solid, ofRunes_runes, hchar, List.cons_append, List.append_assoc]
        · rw [hrunes]
          simpa using hblank
        · rw [← List.append_assoc, runes_concat_ascii (by decide)]
          simpa using hlast
    · right
      refine ⟨0x5c, u ++ escaped rs, ?_, by decide⟩
      rw [hesc]
      refine trim_of_solid (fun b hb => ?_) (hend _)
      obtain rfl : 0x5c = b := by simpa using hb
      decide

theorem unquote?_cut {rs : List Rune} (h : AllDecode rs) :
    unquote? (trim (escaped rs ++ [0x22])) = none := by
  rcases trim_escaped h with ht | ⟨a, t, ht, ha⟩
  · rw [ht]
    rfl
  · rw [ht, unquote?_eq_none ha]

end ShaderGraph.Text

namespace ShaderGraph.Literal

open Text

/-! ## Splitting off the color space -/

def Marked (space : Text) : Prop := spaceMark <:+: space

theorem spaceMark_eq : spaceMark = 0x28 :: Text.ofString "colorSpace = " := by decide

theorem spaceMark_bare : ∀ b ∈ 0x28 :: Text.ofString "colorSpace = ", isBare b = true :=
  List.all_eq_true.mp (by decide)

/-- Two marks do not overlap, so a later one stands behind the whole of the first. -/
theorem mark_later {before t x y : Text} (hlong : before.length < x.length)
    (heq : before ++ spaceMark ++ t = x ++ spaceMark ++ y) : ∃ w, t = w ++ spaceMark ++ y := by
  have hopen : (0x28 : UInt8) ∉ Text.ofString "colorSpace = " := by decide
  rw [List.append_assoc, List.append_assoc, List.append_eq_append_iff] at heq
  rcases heq with ⟨w, rfl, hw⟩ | ⟨w, rfl, _⟩
  swap
  · rw [List.length_append] at hlong
    omega
  rw [List.length_append] at hlong
  rw [List.append_eq_append_iff] at hw
  rcases hw with ⟨v, rfl, hv⟩ | ⟨v, hv, hrest⟩
  · exact ⟨v, by rw [hv, List.append_assoc]⟩
  · -- It would start inside the first one.
    cases v with
    | nil => exact ⟨[], by simpa using hrest.symm⟩
    | cons b v =>
      rw [spaceMark_eq] at hv hrest
      obtain ⟨rfl, _⟩ := List.cons.inj hrest
      cases w with
      | nil => simp at hlong
      | cons c w =>
        rw [(List.cons.inj hv).2] at hopen
        simp at hopen

theorem later_mark {before space x y : Text} (hlong : before.length < x.length)
    (heq : before ++ spaceMark ++ (quote space ++ [0x29]) = x ++ spaceMark ++ y) :
    Marked space ∧ ∃ rs, AllDecode rs ∧ y = escaped rs ++ [0x22, 0x29] := by
  have hquote : quote space ++ [0x29] = 0x22 :: (escaped space.runes ++ [0x22, 0x29]) := by
    simp [quote_eq]
  obtain ⟨w, hw⟩ := mark_later hlong heq
  rw [hquote, spaceMark_eq] at hw
  cases w with
  | nil => exact absurd (List.cons.inj hw).1 (by decide)
  | cons b w =>
    obtain ⟨qs, ss, hrunes, _, hy⟩ := runes_of_pattern spaceMark_bare (allDecode_runes space)
      (z := [0x29]) (by decide) (by simpa using (List.cons.inj hw).2)
    refine ⟨⟨ofRunes qs, ofRunes ss, ?_⟩, ss, fun c hc => allDecode_runes space c (by simp [hrunes, hc]), hy⟩
    conv_rhs => rw [← ofRunes_runes space, hrunes]
    rw [spaceMark_eq]
    conv_lhs => rw [← ofRunes_bareRunes spaceMark_bare]
    simp [ofRunes]

theorem exists_later_mark {space : Text} (h : Marked space) (before : Text) :
    ∃ x y, before.length < x.length ∧ before ++ spaceMark ++ (quote space ++ [0x29]) = x ++ spaceMark ++ y := by
  obtain ⟨u, v, rfl⟩ := h
  have hrunes : runes (u ++ spaceMark ++ v) = runes u ++ (bareRunes spaceMark ++ runes v) := by
    rw [spaceMark_eq, List.append_assoc, List.cons_append, runes_append_ascii (by decide), ← List.cons_append,
      runes_bare_append spaceMark_bare]
  refine ⟨before ++ spaceMark ++ 0x22 :: escaped (runes u), escaped (runes v) ++ [0x22, 0x29], ?_, ?_⟩
  · simp only [List.length_append, List.length_cons]
    omega
  · have hmark : escaped (bareRunes spaceMark) = spaceMark := escaped_bareRunes spaceMark_bare
    rw [quote_eq, hrunes, escaped_append, escaped_append, hmark]
    simp

theorem splitSpace_of_splitLast? {t before after : Text} (h : splitLast? spaceMark t = some (before, after))
    (hne : before ≠ []) :
    splitSpace t = match unquote? (trim (dropSuffix ")" after)) with
      | some space => .ok (trim before, space)
      | none => .error () := by
  rw [splitSpace, h]
  cases before with
  | nil => exact absurd rfl hne
  | cons b before => rfl

theorem trim_quote (t : Text) : trim (quote t) = quote t := by
  refine trim_of_solid (fun b hb => ?_) (fun b hb => ?_)
  · obtain rfl : 0x22 = b := by simpa [quote_eq] using hb
    decide
  · rw [quote_eq, ← List.cons_append, List.getLast?_concat] at hb
    obtain rfl := Option.some.inj hb
    decide

theorem splitSpace_written {body : Text} (space : Text) (hbody : ∀ b ∈ body.head?, isSolid b = true)
    (hend : ∀ b ∈ body.getLast?, isSolid b = true) :
    (¬ Marked space →
      splitSpace (body ++ [0x20] ++ spaceMark ++ (quote space ++ [0x29])) = .ok (body, space)) ∧
    (Marked space →
      splitSpace (body ++ [0x20] ++ spaceMark ++ (quote space ++ [0x29])) = .error ()) := by
  have hclose : Text.ofString ")" = [0x29] := by decide
  have hspec := splitLast?_spec spaceMark (body ++ [0x20] ++ spaceMark ++ (quote space ++ [0x29]))
  cases hlast : splitLast? spaceMark (body ++ [0x20] ++ spaceMark ++ (quote space ++ [0x29])) with
  | none =>
    rw [hlast] at hspec
    exact absurd rfl (hspec _ _)
  | some found =>
    obtain ⟨before, after⟩ := found
    rw [hlast] at hspec
    obtain ⟨heq, hmax⟩ := hspec
    have hle := hmax _ _ rfl
    have hne : before ≠ [] := by
      rintro rfl
      simp at hle
    rw [splitSpace_of_splitLast? hlast hne, hclose]
    constructor
    · intro hmarked
      have hlen : (body ++ [0x20]).length = before.length := by
        by_contra hlt
        exact hmarked (later_mark (by omega) heq).1
      rw [List.append_assoc (body ++ [0x20]), List.append_assoc before] at heq
      obtain ⟨rfl, hrest⟩ := List.append_inj heq hlen
      obtain rfl := List.append_cancel_left hrest
      rw [dropSuffix_append, trim_quote, unquote?_quote, trim_concat_space hbody, trim_of_solid hbody hend]
    · intro hmarked
      obtain ⟨x, y, hlong, hxy⟩ := exists_later_mark hmarked (body ++ [0x20])
      have hlonger := hmax x y hxy
      obtain ⟨_, rs, hrs, rfl⟩ := later_mark (by omega) heq
      rw [show escaped rs ++ [0x22, 0x29] = escaped rs ++ [0x22] ++ [0x29] by simp, dropSuffix_append,
        unquote?_cut hrs]

theorem splitSpace_of_not_mem {t : Text} (h : 0x3d ∉ t) : splitSpace t = .ok (t, []) := by
  have hspec := splitLast?_spec spaceMark t
  rw [splitSpace]
  cases hlast : splitLast? spaceMark t with
  | none => rfl
  | some found =>
    obtain ⟨before, after⟩ := found
    rw [hlast] at hspec
    have hmem : (0x3d : UInt8) ∈ spaceMark := by decide
    exact absurd (by rw [hspec.1]; simp [hmem]) h

end ShaderGraph.Literal
