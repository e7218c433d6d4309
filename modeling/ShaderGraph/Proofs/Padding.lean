import ShaderGraph.Proofs.ColorSpace
import Mathlib.Data.List.TakeWhile

/-!
# White space around a text

Trimming takes white space off the two ends of a text and nothing else. So a text that starts and ends
with a visible character is what trimming leaves, however much white space stands around it.
-/
namespace ShaderGraph.Text

def Blank (t : Text) : Prop := ∀ r ∈ t.runes, r.isBlank = true

def Padded (Q : Text → Prop) (s : Text) : Prop :=
  ∃ l t r, Blank l ∧ Blank r ∧ Q t ∧ s = l ++ t ++ r

/-- A text that starts and ends with a visible character of one byte. -/
structure Firm (t : Text) : Prop where
  nonempty : t ≠ []
  head : ∀ b ∈ t.head?, isSolid b = true
  last : ∀ b ∈ t.getLast?, isSolid b = true

theorem blank_nil : Blank [] := by
  intro r hr
  simp [runes, runesAfter] at hr

theorem Padded.of {Q : Text → Prop} {t : Text} (h : Q t) : Padded Q t :=
  ⟨[], t, [], blank_nil, blank_nil, h, by simp⟩

theorem Padded.imp {Q R : Text → Prop} (h : ∀ t, Q t → R t) {s : Text} (hs : Padded Q s) : Padded R s := by
  obtain ⟨l, t, r, hl, hr, ht, rfl⟩ := hs
  exact ⟨l, t, r, hl, hr, h t ht, rfl⟩

/-- White space is whole characters, so it is decoded apart from what follows it. -/
theorem runes_ofRunes_append {rs : List Rune} (hblank : ∀ r ∈ rs, r.isBlank = true) (h : AllDecode rs)
    (t : Text) : runes (ofRunes rs ++ t) = rs ++ runes t := by
  induction rs with
  | nil => rfl
  | cons r rs ih =>
    cases r with
    | stray b => exact absurd (hblank _ List.mem_cons_self) (by simp [Rune.isBlank])
    | scalar c =>
      have hrest := ih (fun x hx => hblank x (List.mem_cons_of_mem _ hx))
        fun d hd => h d (List.mem_cons_of_mem _ hd)
      change runes (ofChar c ++ ofRunes rs ++ t) = _
      rw [List.append_assoc, runes_ofChar_append (h c List.mem_cons_self), hrest]
      rfl

theorem Blank.runes_append {l : Text} (h : Blank l) (t : Text) : runes (l ++ t) = runes l ++ runes t := by
  conv_lhs => rw [← ofRunes_runes l]
  exact runes_ofRunes_append h (allDecode_runes l) t

theorem Blank.append {l r : Text} (hl : Blank l) (hr : Blank r) : Blank (l ++ r) := by
  intro x hx
  rw [hl.runes_append, List.mem_append] at hx
  exact hx.elim (hl x) (hr x)

theorem blank_ofRunes {rs : List Rune} (hblank : ∀ r ∈ rs, r.isBlank = true) (h : AllDecode rs) :
    Blank (ofRunes rs) := by
  have hrunes := runes_ofRunes_append hblank h []
  rw [List.append_nil] at hrunes
  intro r hr
  rw [hrunes] at hr
  exact hblank r (by simpa [runes, runesAfter] using hr)

theorem Blank.not_mem {l : Text} (h : Blank l) {b : UInt8} (hb : isSolid b = true) : b ∉ l := by
  intro hmem
  obtain ⟨s, t, rfl⟩ := List.append_of_mem hmem
  obtain ⟨hascii, hsolid⟩ := isSolid_iff.mp hb
  have hblank := h (.scalar (Char.ofNat b.toNat)) (by
    rw [runes_append_ascii hascii, runes_cons_ascii hascii]
    simp)
  rw [hsolid] at hblank
  cases hblank

theorem runes_append_of_last {t : Text} (hne : t ≠ []) (h : ∀ b ∈ t.getLast?, isSolid b = true) (r : Text) :
    runes (t ++ r) = runes t ++ runes r := by
  obtain rfl | ⟨s, b, rfl⟩ := List.eq_nil_or_concat t
  · exact absurd rfl hne
  · obtain ⟨hascii, _⟩ := isSolid_iff.mp (h b (by simp))
    rw [List.concat_eq_append, List.append_assoc, List.singleton_append, runes_append_ascii hascii,
      runes_cons_ascii hascii, runes_concat_ascii hascii, List.append_assoc, List.singleton_append]

/-! ## What trimming leaves -/

theorem exists_trimRunes (rs : List Rune) : ∃ l r, (∀ x ∈ l, x.isBlank = true) ∧
    (∀ x ∈ r, x.isBlank = true) ∧ rs = l ++ trimRunes rs ++ r := by
  refine ⟨rs.takeWhile Rune.isBlank,
    ((rs.dropWhile Rune.isBlank).reverse.takeWhile Rune.isBlank).reverse,
    fun x hx => List.mem_takeWhile_imp hx, fun x hx => List.mem_takeWhile_imp (List.mem_reverse.mp hx), ?_⟩
  rw [trimRunes, List.append_assoc, ← List.reverse_append, List.takeWhile_append_dropWhile,
    List.reverse_reverse, List.takeWhile_append_dropWhile]

theorem exists_trim (s : Text) : ∃ l r, Blank l ∧ Blank r ∧ s = l ++ trim s ++ r := by
  obtain ⟨l, r, hl, hr, hs⟩ := exists_trimRunes s.runes
  have hdecode := allDecode_runes s
  rw [hs] at hdecode
  refine ⟨ofRunes l, ofRunes r, blank_ofRunes hl fun c hc => hdecode c (by simp [hc]),
    blank_ofRunes hr fun c hc => hdecode c (by simp [hc]), ?_⟩
  conv_lhs => rw [← ofRunes_runes s, hs]
  simp [ofRunes, trim]

theorem trimRunes_padded {l m r : List Rune} (hl : ∀ x ∈ l, x.isBlank = true)
    (hr : ∀ x ∈ r, x.isBlank = true) (hne : m ≠ []) (hhead : ∀ x ∈ m.head?, x.isBlank = false)
    (hlast : ∀ x ∈ m.getLast?, x.isBlank = false) : trimRunes (l ++ m ++ r) = m := by
  obtain ⟨x, m, rfl⟩ := List.exists_cons_of_ne_nil hne
  have hx : ¬ x.isBlank = true := by simp [hhead x rfl]
  have hfront : (l ++ (x :: m) ++ r).dropWhile Rune.isBlank = x :: m ++ r := by
    rw [List.append_assoc, List.dropWhile_append_of_pos hl, List.cons_append,
      List.dropWhile_cons_of_neg hx]
  have hback : (r.reverse ++ (x :: m).reverse).dropWhile Rune.isBlank = (x :: m).reverse := by
    rw [List.dropWhile_append_of_pos fun y hy => hr y (List.mem_reverse.mp hy)]
    have hfirst : ∀ y ∈ (x :: m).reverse.head?, y.isBlank = false := by
      rwa [List.head?_reverse]
    cases hrev : (x :: m).reverse with
    | nil => rfl
    | cons y ys =>
      rw [hrev] at hfirst
      exact List.dropWhile_cons_of_neg (by simp [hfirst y rfl])
  rw [trimRunes, hfront, List.reverse_append, hback, List.reverse_reverse]

theorem trim_padded {l t r : Text} (hl : Blank l) (hr : Blank r) (ht : Firm t) : trim (l ++ t ++ r) = t := by
  have hrunes : runes (l ++ t ++ r) = runes l ++ runes t ++ runes r := by
    rw [List.append_assoc, hl.runes_append, runes_append_of_last ht.nonempty ht.last, List.append_assoc]
  rw [trim, hrunes, trimRunes_padded hl hr, ofRunes_runes]
  · intro hnil
    have ht' := ofRunes_runes t
    rw [hnil] at ht'
    exact ht.nonempty ht'.symm
  · intro x hx
    obtain ⟨b, s, rfl⟩ := List.exists_cons_of_ne_nil ht.nonempty
    obtain ⟨hascii, hsolid⟩ := isSolid_iff.mp (ht.head b rfl)
    rw [runes_cons_ascii hascii] at hx
    obtain rfl := Option.some.inj hx
    exact hsolid
  · intro x hx
    obtain rfl | ⟨s, b, rfl⟩ := List.eq_nil_or_concat t
    · exact absurd rfl ht.nonempty
    · obtain ⟨hascii, hsolid⟩ := isSolid_iff.mp (ht.last b (by simp))
      rw [List.concat_eq_append, runes_concat_ascii hascii, List.getLast?_concat] at hx
      obtain rfl := Option.some.inj hx
      exact hsolid

theorem padded_iff {Q : Text → Prop} (hQ : ∀ t, Q t → Firm t) {s : Text} : Padded Q s ↔ Q (trim s) := by
  constructor
  · rintro ⟨l, t, r, hl, hr, ht, rfl⟩
    rwa [trim_padded hl hr (hQ t ht)]
  · intro h
    obtain ⟨l, r, hl, hr, hs⟩ := exists_trim s
    exact ⟨l, trim s, r, hl, hr, h, hs⟩

theorem blank_of_trim {s : Text} (h : trim s = []) : Blank s := by
  obtain ⟨l, r, hl, hr, hs⟩ := exists_trim s
  rw [h, List.append_nil] at hs
  rw [hs]
  exact hl.append hr

theorem Blank.trim {s : Text} (h : Blank s) : Text.trim s = [] := by
  rw [Text.trim, trimRunes, List.dropWhile_eq_nil_iff.mpr h]
  rfl

end ShaderGraph.Text
