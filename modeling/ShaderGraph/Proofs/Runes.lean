import ShaderGraph.Text.Trim
import Mathlib.Data.List.Basic

/-!
# Texts as sequences of units

Reading a text into units loses nothing, whatever its bytes. A byte below 0x80 is never part of a
longer unit, so a text may be cut before such a byte, and white space at the ends of a text that
starts and ends with such a byte is seen in those two bytes alone.
-/
namespace ShaderGraph.Text

/-! ## Scalar values as they are encoded -/

theorem toNat_ofNat_of_valid {n : Nat} (h : n.isValidChar) : (Char.ofNat n).val.toNat = n := by
  rw [Char.ofNat, dif_pos h]
  rfl

theorem eq_ofNat_of_toNat {a : UInt8} {n : Nat} (h : n = a.toNat) : UInt8.ofNat n = a := by
  rw [h, UInt8.ofNat_toNat]

theorem ofChar_ascii {a : UInt8} (h : a.toNat < 0x80) : ofChar (Char.ofNat a.toNat) = [a] := by
  have hv := toNat_ofNat_of_valid (n := a.toNat) (Or.inl (by omega))
  rw [ofChar, String.utf8EncodeChar]
  simp only [hv]
  rw [if_pos (by omega), eq_ofNat_of_toNat rfl]

theorem ofChar_two {a b : UInt8} {n : Nat} (ha : a.toNat = 0xc0 + n) (hn : 2 ≤ n ∧ n < 32)
    (hb : 0x80 ≤ b.toNat ∧ b.toNat ≤ 0xbf) : ofChar (assemble n [b]) = [a, b] := by
  have hv := toNat_ofNat_of_valid (n := n * 64 + (b.toNat - 0x80)) (Or.inl (by omega))
  rw [ofChar, String.utf8EncodeChar]
  simp only [assemble, List.foldl_cons, List.foldl_nil, hv]
  rw [if_neg (by omega), if_pos (by omega), eq_ofNat_of_toNat (a := a) (by omega),
    eq_ofNat_of_toNat (a := b) (by omega)]

theorem ofChar_three {a b c : UInt8} {n : Nat} (ha : a.toNat = 0xe0 + n) (hn : n < 16)
    (hb : 0x80 ≤ b.toNat ∧ b.toNat ≤ 0xbf) (hc : 0x80 ≤ c.toNat ∧ c.toNat ≤ 0xbf)
    (hlow : n = 0 → 0xa0 ≤ b.toNat) (hsurrogate : n = 13 → b.toNat ≤ 0x9f) :
    ofChar (assemble n [b, c]) = [a, b, c] := by
  have hv := toNat_ofNat_of_valid (n := (n * 64 + (b.toNat - 0x80)) * 64 + (c.toNat - 0x80)) (by
    simp only [Nat.isValidChar]
    omega)
  rw [ofChar, String.utf8EncodeChar]
  simp only [assemble, List.foldl_cons, List.foldl_nil, hv]
  rw [if_neg (by omega), if_neg (by omega), if_pos (by omega), eq_ofNat_of_toNat (a := a) (by omega),
    eq_ofNat_of_toNat (a := b) (by omega), eq_ofNat_of_toNat (a := c) (by omega)]

theorem ofChar_four {a b c d : UInt8} {n : Nat} (ha : a.toNat = 0xf0 + n) (hn : n ≤ 4)
    (hb : 0x80 ≤ b.toNat ∧ b.toNat ≤ 0xbf) (hc : 0x80 ≤ c.toNat ∧ c.toNat ≤ 0xbf)
    (hd : 0x80 ≤ d.toNat ∧ d.toNat ≤ 0xbf) (hlow : n = 0 → 0x90 ≤ b.toNat)
    (hhigh : n = 4 → b.toNat ≤ 0x8f) : ofChar (assemble n [b, c, d]) = [a, b, c, d] := by
  have hv := toNat_ofNat_of_valid
    (n := ((n * 64 + (b.toNat - 0x80)) * 64 + (c.toNat - 0x80)) * 64 + (d.toNat - 0x80)) (by
    simp only [Nat.isValidChar]
    omega)
  rw [ofChar, String.utf8EncodeChar]
  simp only [assemble, List.foldl_cons, List.foldl_nil, hv]
  rw [if_neg (by omega), if_neg (by omega), if_neg (by omega), eq_ofNat_of_toNat (a := a) (by omega),
    eq_ofNat_of_toNat (a := b) (by omega), eq_ofNat_of_toNat (a := c) (by omega),
    eq_ofNat_of_toNat (a := d) (by omega)]

/-! ## Units at the start of a text -/

theorem isTail_iff {b : UInt8} : isTail b = true ↔ 0x80 ≤ b.toNat ∧ b.toNat ≤ 0xbf := by
  simp [isTail, UInt8.le_iff_toNat_le]

theorem follow_eq_some {n count k : Nat} {lo hi : UInt8} {t : Text} {c : Char} :
    follow n count lo hi t = some (c, k) ↔
      k = count ∧ count ≤ t.length ∧ (∀ b ∈ t.take count, isTail b = true) ∧
        c = assemble n (t.take count) ∧ ∃ b rest, t = b :: rest ∧ lo ≤ b ∧ b ≤ hi := by
  cases t with
  | nil => simp [follow]
  | cons b rest =>
    have hmin : min count (b :: rest).length = count ↔ count ≤ (b :: rest).length := by omega
    simp only [follow, Option.ite_none_right_eq_some, Bool.and_eq_true, decide_eq_true_eq, beq_iff_eq,
      List.all_eq_true, Option.some.injEq, Prod.mk.injEq, List.length_take, hmin]
    constructor
    · rintro ⟨⟨⟨⟨hlo, hhi⟩, hlen⟩, htail⟩, hc, hk⟩
      exact ⟨hk.symm, hlen, htail, hc.symm, b, rest, rfl, hlo, hhi⟩
    · rintro ⟨hk, hlen, htail, hc, b', rest', heq, hlo, hhi⟩
      obtain ⟨rfl, rfl⟩ := List.cons.inj heq
      exact ⟨⟨⟨⟨hlo, hhi⟩, hlen⟩, htail⟩, hc.symm, hk.symm⟩

theorem follow_take_append {n count k : Nat} {lo hi : UInt8} {t : Text} {c : Char} (rest : Text)
    (h : follow n (count + 1) lo hi t = some (c, k)) :
    follow n (count + 1) lo hi (t.take (count + 1) ++ rest) = some (c, k) := by
  obtain ⟨hk, hlen, htail, hc, b, t', rfl, hlo, hhi⟩ := follow_eq_some.mp h
  have htake : ((b :: t').take (count + 1) ++ rest).take (count + 1) = (b :: t').take (count + 1) := by
    rw [List.take_append_of_le_length (by rw [List.length_take]; omega), List.take_take, Nat.min_self]
  refine follow_eq_some.mpr ⟨hk, ?_, ?_, ?_, b, _, rfl, hlo, hhi⟩
  · rw [List.length_append, List.length_take]
    omega
  · rwa [htake]
  · rwa [htake]

theorem follow_cut {n count : Nat} {lo hi b : UInt8} (s rest : Text) (hb : isTail b = false) :
    follow n (count + 1) lo hi (s ++ b :: rest) = follow n (count + 1) lo hi s := by
  refine Option.ext fun ⟨c, k⟩ => ?_
  constructor
  · intro h
    obtain ⟨hk, hlen, htail, hc, x, t', heq, hlo, hhi⟩ := follow_eq_some.mp h
    have hle : count + 1 ≤ s.length := by
      by_contra hlt
      have hmem : b ∈ (s ++ b :: rest).take (count + 1) := by
        rw [List.take_append, List.mem_append]
        right
        obtain ⟨j, hj⟩ : ∃ j, count + 1 - s.length = j + 1 := ⟨count - s.length, by omega⟩
        rw [hj]
        exact List.mem_cons_self
      rw [htail b hmem] at hb
      cases hb
    rw [List.take_append_of_le_length hle] at htail hc
    cases s with
    | nil => simp at hle
    | cons y s =>
      obtain ⟨rfl, _⟩ := List.cons.inj heq
      exact follow_eq_some.mpr ⟨hk, hle, htail, hc, y, s, rfl, hlo, hhi⟩
  · intro h
    obtain ⟨hk, hlen, htail, hc, x, t', rfl, hlo, hhi⟩ := follow_eq_some.mp h
    refine follow_eq_some.mpr ⟨hk, ?_, ?_, ?_, x, _, rfl, hlo, hhi⟩
    · rw [List.length_append]
      omega
    · rwa [List.take_append_of_le_length hlen]
    · rwa [List.take_append_of_le_length hlen]

theorem ofChar_of_follow_two {a lo hi : UInt8} {n k : Nat} {t : Text} {c : Char}
    (ha : a.toNat = 0xc0 + n) (hn : 2 ≤ n ∧ n < 32) (h : follow n 1 lo hi t = some (c, k)) :
    ofChar c = a :: t.take 1 := by
  obtain ⟨_, hlen, htail, rfl, b, t', rfl, _, _⟩ := follow_eq_some.mp h
  simp only [List.take_succ_cons, List.take_zero, List.mem_singleton, forall_eq] at htail ⊢
  exact ofChar_two ha hn (isTail_iff.mp htail)

theorem ofChar_of_follow_three {a lo hi : UInt8} {n k : Nat} {t : Text} {c : Char}
    (ha : a.toNat = 0xe0 + n) (hn : n < 16) (hlow : n = 0 → 0xa0 ≤ lo.toNat)
    (hsurrogate : n = 13 → hi.toNat ≤ 0x9f) (h : follow n 2 lo hi t = some (c, k)) :
    ofChar c = a :: t.take 2 := by
  obtain ⟨_, hlen, htail, rfl, b, t', rfl, hlo, hhi⟩ := follow_eq_some.mp h
  rw [UInt8.le_iff_toNat_le] at hlo hhi
  match t' with
  | [] => simp at hlen
  | b' :: t' =>
    simp only [List.take_succ_cons, List.take_zero, List.mem_cons, List.not_mem_nil, or_false,
      forall_eq_or_imp, forall_eq] at htail ⊢
    exact ofChar_three ha hn (isTail_iff.mp htail.1) (isTail_iff.mp htail.2)
      (fun h0 => Nat.le_trans (hlow h0) hlo) (fun h13 => Nat.le_trans hhi (hsurrogate h13))

theorem ofChar_of_follow_four {a lo hi : UInt8} {n k : Nat} {t : Text} {c : Char}
    (ha : a.toNat = 0xf0 + n) (hn : n ≤ 4) (hlow : n = 0 → 0x90 ≤ lo.toNat)
    (hhigh : n = 4 → hi.toNat ≤ 0x8f) (h : follow n 3 lo hi t = some (c, k)) :
    ofChar c = a :: t.take 3 := by
  obtain ⟨_, hlen, htail, rfl, b, t', rfl, hlo, hhi⟩ := follow_eq_some.mp h
  rw [UInt8.le_iff_toNat_le] at hlo hhi
  match t' with
  | [] | [_] => simp at hlen
  | b' :: b'' :: t' =>
    simp only [List.take_succ_cons, List.take_zero, List.mem_cons, List.not_mem_nil, or_false,
      forall_eq_or_imp, forall_eq] at htail ⊢
    exact ofChar_four ha hn (isTail_iff.mp htail.1) (isTail_iff.mp htail.2.1) (isTail_iff.mp htail.2.2)
      (fun h0 => Nat.le_trans (hlow h0) hlo) (fun h4 => Nat.le_trans hhi (hhigh h4))

/-- What a first byte asks for: nothing, or a certain number of tail bytes, or it is damaged. -/
theorem leading?_cases (a : UInt8) :
    (a.toNat < 0x80 ∧ ∀ t, leading? a t = some (Char.ofNat a.toNat, 0)) ∨
    (0x80 ≤ a.toNat ∧ ∀ t, leading? a t = none) ∨
    (0x80 ≤ a.toNat ∧ ∃ n count lo hi, (∀ t, leading? a t = follow n (count + 1) lo hi t) ∧
      ∀ t c k, follow n (count + 1) lo hi t = some (c, k) → ofChar c = a :: t.take (count + 1)) := by
  have hlt (m : UInt8) : a < m ↔ a.toNat < m.toNat := UInt8.lt_iff_toNat_lt
  have heq (m : UInt8) : a = m ↔ a.toNat = m.toNat := UInt8.toNat_inj.symm
  by_cases hascii : a.toNat < 0x80
  · exact Or.inl ⟨hascii, fun t => by simp [leading?, hlt, hascii]⟩
  by_cases hdamaged : a.toNat < 0xc2 ∨ 0xf4 < a.toNat
  · refine Or.inr (Or.inl ⟨by omega, fun t => ?_⟩)
    simp only [leading?, hlt, heq, UInt8.reduceToNat]
    split_ifs <;> first | rfl | omega
  refine Or.inr (Or.inr ⟨by omega, ?_⟩)
  -- Four lead bytes restrict the byte that follows them.
  by_cases hE0 : a = 0xe0
  · obtain rfl := hE0
    exact ⟨0, 1, 0xa0, 0xbf, fun t => rfl, fun t c k => ofChar_of_follow_three rfl (by decide) (by decide) (by decide)⟩
  by_cases hED : a = 0xed
  · obtain rfl := hED
    exact ⟨13, 1, 0x80, 0x9f, fun t => rfl, fun t c k => ofChar_of_follow_three rfl (by decide) (by decide) (by decide)⟩
  by_cases hF0 : a = 0xf0
  · obtain rfl := hF0
    exact ⟨0, 2, 0x90, 0xbf, fun t => rfl, fun t c k => ofChar_of_follow_four rfl (by decide) (by decide) (by decide)⟩
  by_cases hF4 : a = 0xf4
  · obtain rfl := hF4
    exact ⟨4, 2, 0x80, 0x8f, fun t => rfl, fun t c k => ofChar_of_follow_four rfl (by decide) (by decide) (by decide)⟩
  rw [heq] at hE0 hED hF0 hF4
  simp only [UInt8.reduceToNat] at hE0 hED hF0 hF4
  by_cases htwo : a.toNat < 0xe0
  · refine ⟨a.toNat - 0xc0, 0, 0x80, 0xbf, fun t => ?_, fun t c k =>
      ofChar_of_follow_two (by omega) (by omega)⟩
    simp only [leading?, hlt, heq, UInt8.reduceToNat]
    split_ifs <;> first | rfl | omega
  by_cases hthree : a.toNat < 0xf0
  · refine ⟨a.toNat - 0xe0, 1, 0x80, 0xbf, fun t => ?_, fun t c k =>
      ofChar_of_follow_three (by omega) (by omega) (by omega) (by omega)⟩
    simp only [leading?, hlt, heq, UInt8.reduceToNat]
    split_ifs <;> first | rfl | omega
  · refine ⟨a.toNat - 0xf0, 2, 0x80, 0xbf, fun t => ?_, fun t c k =>
      ofChar_of_follow_four (by omega) (by omega) (by omega) (by omega)⟩
    simp only [leading?, hlt, heq, UInt8.reduceToNat]
    split_ifs <;> first | rfl | omega

theorem leading?_of_ascii {a : UInt8} (h : a.toNat < 0x80) (t : Text) :
    leading? a t = some (Char.ofNat a.toNat, 0) := by
  rcases leading?_cases a with ⟨_, h'⟩ | ⟨h', _⟩ | ⟨h', _⟩
  · exact h' t
  · omega
  · omega

/-- The bytes of a unit encode its scalar value, and nothing behind them matters. -/
theorem leading?_spec {a : UInt8} {t : Text} {c : Char} {n : Nat} (h : leading? a t = some (c, n)) :
    n ≤ t.length ∧ ofChar c = a :: t.take n ∧ (∀ b ∈ t.take n, isTail b = true) ∧
      ∀ rest, leading? a (t.take n ++ rest) = some (c, n) := by
  rcases leading?_cases a with ⟨ha, h'⟩ | ⟨_, h'⟩ | ⟨_, m, count, lo, hi, hfollow, hchar⟩
  · obtain ⟨rfl, rfl⟩ := Prod.mk.inj (Option.some.inj ((h' t).symm.trans h))
    exact ⟨Nat.zero_le _, by simp [ofChar_ascii ha], by simp, fun rest => by simp [h']⟩
  · rw [h'] at h
    cases h
  · rw [hfollow] at h
    obtain ⟨rfl, hlen, htail, _⟩ := follow_eq_some.mp h
    refine ⟨hlen, hchar t c _ h, htail, fun rest => ?_⟩
    rw [hfollow]
    exact follow_take_append rest h

theorem leading?_cut {b : UInt8} (hb : isTail b = false) (a : UInt8) (s rest : Text) :
    leading? a (s ++ b :: rest) = leading? a s := by
  rcases leading?_cases a with ⟨_, h⟩ | ⟨_, h⟩ | ⟨_, m, count, lo, hi, hfollow, _⟩
  · rw [h, h]
  · rw [h, h]
  · rw [hfollow, hfollow, follow_cut s rest hb]

/-! ## Units of a text -/

theorem ofRunes_runesAfter (skip : Nat) (t : Text) : ofRunes (runesAfter skip t) = t.drop skip := by
  induction t generalizing skip with
  | nil => simp [runesAfter, ofRunes]
  | cons a t ih =>
    cases skip with
    | succ skip => rw [runesAfter, ih, List.drop_succ_cons]
    | zero =>
      rw [runesAfter]
      split
      · rename_i c n h
        obtain ⟨_, hchar, _, _⟩ := leading?_spec h
        change Rune.bytes (.scalar c) ++ ofRunes (runesAfter n t) = a :: t
        rw [ih, Rune.bytes, hchar, List.cons_append, List.take_append_drop]
      · change a :: ofRunes (runesAfter 0 t) = a :: t
        rw [ih, List.drop_zero]

theorem ofRunes_runes (t : Text) : ofRunes t.runes = t := ofRunes_runesAfter 0 t

theorem runesAfter_cut {b : UInt8} (hb : isTail b = false) (rest : Text) {skip : Nat} {s : Text}
    (hskip : skip ≤ s.length) :
    runesAfter skip (s ++ b :: rest) = runesAfter skip s ++ runes (b :: rest) := by
  induction s generalizing skip with
  | nil =>
    obtain rfl : skip = 0 := by simpa using hskip
    rfl
  | cons a s ih =>
    cases skip with
    | succ skip => exact ih (by simpa using hskip)
    | zero =>
      rw [List.cons_append, runesAfter, runesAfter, leading?_cut hb]
      split
      · rename_i c n h
        rw [ih (leading?_spec h).1, List.cons_append]
      · rw [ih (Nat.zero_le _), List.cons_append]

theorem isTail_of_ascii {b : UInt8} (h : b.toNat < 0x80) : isTail b = false := by
  rw [Bool.eq_false_iff, Ne, isTail_iff]
  omega

theorem runes_cons_ascii {a : UInt8} (h : a.toNat < 0x80) (t : Text) :
    runes (a :: t) = .scalar (Char.ofNat a.toNat) :: runes t := by
  rw [runes, runesAfter, leading?_of_ascii h]
  rfl

theorem runes_append_ascii {b : UInt8} (h : b.toNat < 0x80) (s rest : Text) :
    runes (s ++ b :: rest) = runes s ++ runes (b :: rest) :=
  runesAfter_cut (isTail_of_ascii h) rest (Nat.zero_le _)

theorem runes_concat_ascii {b : UInt8} (h : b.toNat < 0x80) (s : Text) :
    runes (s ++ [b]) = runes s ++ [.scalar (Char.ofNat b.toNat)] := by
  rw [runes_append_ascii h, runes_cons_ascii h]
  rfl

/-! ## White space at the ends -/

def isSolid (b : UInt8) : Bool := decide (b.toNat < 0x80) && !isBlank (Char.ofNat b.toNat)

theorem isSolid_iff {b : UInt8} :
    isSolid b = true ↔ b.toNat < 0x80 ∧ (Rune.scalar (Char.ofNat b.toNat)).isBlank = false := by
  simp [isSolid, Rune.isBlank]

theorem trimRunes_of_solid {rs : List Rune} (hhead : ∀ r ∈ rs.head?, r.isBlank = false)
    (hlast : ∀ r ∈ rs.getLast?, r.isBlank = false) : trimRunes rs = rs := by
  have hdrop {rs : List Rune} (h : ∀ r ∈ rs.head?, r.isBlank = false) : rs.dropWhile Rune.isBlank = rs := by
    cases rs with
    | nil => rfl
    | cons r rs => simp [List.dropWhile, h r rfl]
  rw [trimRunes, hdrop hhead, hdrop (by simpa [List.head?_reverse] using hlast), List.reverse_reverse]

theorem trim_of_solid {t : Text} (hhead : ∀ b ∈ t.head?, isSolid b = true)
    (hlast : ∀ b ∈ t.getLast?, isSolid b = true) : trim t = t := by
  rw [trim, trimRunes_of_solid, ofRunes_runes]
  · cases t with
    | nil => simp [runes, runesAfter]
    | cons a t =>
      obtain ⟨hascii, hblank⟩ := isSolid_iff.mp (hhead a rfl)
      simp [runes_cons_ascii hascii, hblank]
  · rcases List.eq_nil_or_concat t with rfl | ⟨s, b, rfl⟩
    · simp [runes, runesAfter]
    · obtain ⟨hascii, hblank⟩ := isSolid_iff.mp (hlast b (by simp))
      simp [runes_concat_ascii hascii, hblank]

theorem trim_space_cons (t : Text) : trim (0x20 :: t) = trim t := by
  have hblank : (Rune.scalar (Char.ofNat (UInt8.toNat 0x20))).isBlank = true := by decide
  rw [trim, runes_cons_ascii (by decide), trimRunes, List.dropWhile_cons_of_pos hblank]
  rfl

theorem trim_concat_space {t : Text} (hhead : ∀ b ∈ t.head?, isSolid b = true) :
    trim (t ++ [0x20]) = trim t := by
  have hblank : (Rune.scalar (Char.ofNat (UInt8.toNat 0x20))).isBlank = true := by decide
  cases t with
  | nil => decide
  | cons a t =>
    obtain ⟨hascii, hsolid⟩ := isSolid_iff.mp (hhead a rfl)
    rw [trim, trim, List.cons_append, runes_cons_ascii hascii, runes_cons_ascii hascii,
      runes_concat_ascii (by decide), trimRunes, trimRunes, List.dropWhile_cons_of_neg (by simp [hsolid]),
      List.dropWhile_cons_of_neg (by simp [hsolid]), ← List.cons_append, List.reverse_append]
    rw [List.reverse_singleton, List.singleton_append, List.dropWhile_cons_of_pos hblank]

end ShaderGraph.Text
