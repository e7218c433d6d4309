import ShaderGraph.Proofs.Agreement
import ShaderGraph.Proofs.Components
import ShaderGraph.Proofs.Outcome
import ShaderGraph.Proofs.Padding

/-!
# The grammar of tuples

A tuple is a list of numerals between parentheses, with commas between the numerals and white space
wherever two of its parts meet. A numeral has no white space, commas or parentheses of its own. So
cutting a tuple at its commas gives the numerals, and a text is the tuple of one list of numbers at
most.
-/
namespace ShaderGraph.Numeral

/-! ## The bytes of a numeral -/

def isNumeralByte (b : UInt8) : Bool :=
  isDigit b || (0x61 ≤ lower b && lower b ≤ 0x7a) || b == 0x2b || b == 0x2d || b == 0x2e || b == 0x5f

def Worded (t : Text) : Prop := ∀ b ∈ t, isNumeralByte b = true

theorem isNumeralByte_of_isDigit {b : UInt8} (h : isDigit b = true) : isNumeralByte b = true := by
  simp [isNumeralByte, h]

theorem isNumeralByte_of_lower {b : UInt8} (h : 0x61 ≤ lower b ∧ lower b ≤ 0x7a) :
    isNumeralByte b = true := by
  simp [isNumeralByte, h]

theorem isNumeralByte_of_decimalDigit? {b : UInt8} (h : (decimalDigit? b).isSome = true) :
    isNumeralByte b = true := by
  rw [decimalDigit?] at h
  split at h
  · exact isNumeralByte_of_isDigit ‹_›
  · cases h

theorem isNumeralByte_of_hexDigit? {b : UInt8} (h : (hexDigit? b).isSome = true) :
    isNumeralByte b = true := by
  rw [hexDigit?] at h
  split at h
  · exact isNumeralByte_of_isDigit ‹_›
  · split at h
    · rename_i hletter
      exact isNumeralByte_of_lower ⟨hletter.1, UInt8.le_trans hletter.2 (by decide)⟩
    · cases h

theorem worded_of_takeSign {t body : Text} {negative : Bool} (hsign : takeSign t = (negative, body))
    (h : Worded body) : Worded t := by
  unfold takeSign at hsign
  split at hsign <;> obtain ⟨_, rfl⟩ := Prod.mk.inj hsign
  · exact List.forall_mem_cons.mpr ⟨by decide, h⟩
  · exact List.forall_mem_cons.mpr ⟨by decide, h⟩
  · exact h

theorem worded_of_takeDigits {value? : UInt8 → Option Nat}
    (hvalue : ∀ b, (value? b).isSome = true → isNumeralByte b = true) {t rest : Text} {ds : List Nat}
    (hdigits : takeDigits value? t = (ds, rest)) (h : Worded rest) : Worded t := by
  induction t generalizing ds with
  | nil =>
    obtain ⟨_, rfl⟩ := Prod.mk.inj hdigits
    exact h
  | cons a t ih =>
    rw [takeDigits] at hdigits
    split at hdigits
    · obtain ⟨_, rfl⟩ := Prod.mk.inj hdigits
      exact h
    · rename_i d hd
      obtain ⟨_, rfl⟩ := Prod.mk.inj hdigits
      exact List.forall_mem_cons.mpr ⟨hvalue a (by rw [hd]; rfl), ih rfl⟩

theorem worded_of_readExponent? {t : Text} {e : Int} (h : readExponent? t = some e) : Worded t := by
  rw [readExponent?] at h
  obtain ⟨⟨negative, digits⟩, hsign⟩ : ∃ parts, takeSign t = parts := ⟨_, rfl⟩
  simp only [hsign] at h
  split at h
  · rename_i hdigits
    refine worded_of_takeSign hsign (worded_of_takeDigits (fun _ => isNumeralByte_of_decimalDigit?) hdigits ?_)
    exact fun b hb => absurd hb List.not_mem_nil
  · cases h

theorem worded_of_tail {mark : UInt8} (hmark : 0x61 ≤ mark ∧ mark ≤ 0x7a) {tail : Text}
    {whole : Option Parsed} {scaled : Int → Parsed} {p : Parsed}
    (h : (match tail with
      | [] => whole
      | b :: rest => if lower b = mark then (readExponent? rest).map scaled else none) = some p) :
    Worded tail := by
  cases tail with
  | nil => exact fun b hb => absurd hb List.not_mem_nil
  | cons b rest =>
    obtain ⟨hlower, h⟩ := Option.ite_none_right_eq_some.mp h
    obtain ⟨e, he, _⟩ := Option.map_eq_some_iff.mp h
    exact List.forall_mem_cons.mpr ⟨isNumeralByte_of_lower (by rwa [hlower]), worded_of_readExponent? he⟩

theorem worded_of_readParts? {value? : UInt8 → Option Nat}
    (hvalue : ∀ b, (value? b).isSome = true → isNumeralByte b = true) {base : Nat} {mark : UInt8}
    (hmark : 0x61 ≤ mark ∧ mark ≤ 0x7a) {needed : Bool} {t : Text} {p : Parsed}
    (h : readParts? base value? mark needed t = some p) : Worded t := by
  rw [readParts?] at h
  obtain ⟨⟨whole, rest⟩, hwhole⟩ : ∃ parts, takeDigits value? t = parts := ⟨_, rfl⟩
  simp only [hwhole] at h
  refine worded_of_takeDigits hvalue hwhole ?_
  split at h
  · split at h
    · cases h
    · exact List.forall_mem_cons.mpr
        ⟨by decide, worded_of_takeDigits hvalue rfl (worded_of_tail hmark h)⟩
  · split at h
    · cases h
    · exact worded_of_tail hmark h

theorem bounded_eq_ok {f : Format} {negative : Bool} {num den : Nat} {x : Binary f}
    (h : bounded f negative num den = .ok x) : x = .ofRatio negative num den := by
  rw [bounded] at h
  split at h
  · cases h
  · exact (Except.ok.inj h).symm

theorem worded_of_special? {f : Format} {x : Binary f} {t : Text} (h : special? t = some x) : Worded t := by
  have hletters {s : Text} (name : Text) (hs : s.map lower = name)
      (hname : (name.all fun b => 0x61 ≤ b && b ≤ 0x7a) = true) : Worded s := by
    intro b hb
    have hmem := List.mem_map_of_mem (f := lower) hb
    rw [hs] at hmem
    exact isNumeralByte_of_lower (by simpa using List.all_eq_true.mp hname _ hmem)
  rw [special?] at h
  obtain ⟨⟨negative, body⟩, hsign⟩ : ∃ parts, takeSign t = parts := ⟨_, rfl⟩
  simp only [hsign] at h
  split at h
  · rename_i hname
    refine worded_of_takeSign hsign ?_
    rcases hname with hname | hname
    · exact hletters _ hname (by decide)
    · exact hletters _ hname (by decide)
  · split at h
    · rename_i hname
      exact hletters _ hname (by decide)
    · cases h

/-- A numeral is a special value, or digits of one of the two bases for a quotient. -/
theorem readBinary_cases {f : Format} {t : Text} {x : Binary f} (h : readBinary f t = .ok x) :
    Worded t ∧ (special? t = some x ∨ ∃ negative num den, x = .ofRatio negative num den) := by
  rw [readBinary] at h
  split at h
  · rename_i y hspecial
    obtain rfl := Except.ok.inj h
    exact ⟨worded_of_special? hspecial, Or.inl hspecial⟩
  split at h
  · cases h
  obtain ⟨⟨negative, body⟩, hsign⟩ : ∃ parts, takeSign (t.filter (· ≠ 0x5f)) = parts := ⟨_, rfl⟩
  have hunder (hbody : Worded body) : Worded t := by
    intro b hb
    by_cases heq : b = 0x5f
    · rw [heq]
      decide
    · exact worded_of_takeSign hsign hbody b (List.mem_filter.mpr ⟨hb, by simpa using heq⟩)
  simp only [hsign] at h
  split_ifs at h with hhex
  · -- The two bytes that mark the base stand before the digits.
    obtain ⟨m, rest, rfl, hm⟩ : ∃ m rest, body = 0x30 :: m :: rest ∧ lower m = 0x78 := by
      split at hhex
      · exact ⟨_, _, rfl, beq_iff_eq.mp hhex⟩
      · cases hhex
    split at h
    · cases h
    · rename_i p hp
      refine ⟨hunder ?_, Or.inr ⟨negative, _, _, bounded_eq_ok h⟩⟩
      have hdigits := worded_of_readParts? (fun _ => isNumeralByte_of_hexDigit?) (by decide) hp
      have hmark : isNumeralByte m = true := isNumeralByte_of_lower (by rw [hm]; decide)
      exact List.forall_mem_cons.mpr ⟨by decide, List.forall_mem_cons.mpr ⟨hmark, hdigits⟩⟩
  · split at h
    · cases h
    · rename_i p hp
      refine ⟨hunder (worded_of_readParts? (fun _ => isNumeralByte_of_decimalDigit?) (by decide) hp),
        Or.inr ?_⟩
      split at h
      · exact ⟨negative, _, _, bounded_eq_ok h⟩
      · exact ⟨negative, _, _, bounded_eq_ok h⟩

end ShaderGraph.Numeral

namespace ShaderGraph.Literal

open Text

def Reads (x : Single) (t : Text) : Prop := Numeral.readBinary .binary32 t = .ok x

theorem Reads.unique : Relator.LeftUnique Reads := fun _ _ _ hx hy => Except.ok.inj (hx.symm.trans hy)

theorem Element.firm {t : Text} (h : Element t) : Firm t := ⟨h.nonempty, h.head, h.last⟩

theorem isElement_of_isNumeralByte {b : UInt8} (h : Numeral.isNumeralByte b = true) : isElement b = true := by
  have hall : ∀ n < 256, Numeral.isNumeralByte (UInt8.ofNat n) = true → isElement (UInt8.ofNat n) = true := by
    decide +kernel
  simpa using hall b.toNat b.toNat_lt (by simpa using h)

theorem Reads.element {x : Single} {t : Text} (h : Reads x t) : Element t := by
  refine ⟨?_, fun b hb => isElement_of_isNumeralByte ((Numeral.readBinary_cases h).1 b hb)⟩
  rintro rfl
  revert h
  rw [Reads]
  have hempty : Numeral.readBinary .binary32 [] = .error .malformed := by decide
  rw [hempty]
  exact fun h => nomatch h

theorem Reads.canonical {x : Single} {t : Text} (h : Reads x t) : x.canonical = x := by
  rw [Binary.canonical]
  split
  · rename_i hnan
    rcases (Numeral.readBinary_cases h).2 with hspecial | ⟨negative, num, den, rfl⟩
    · rw [Numeral.special?] at hspecial
      dsimp only at hspecial
      split at hspecial
      · obtain rfl := Option.some.inj hspecial
        exact absurd hnan (by simp [Binary.isNaN, Binary.infinite])
      · obtain ⟨_, hspecial⟩ := Option.ite_none_right_eq_some.mp hspecial
        exact Option.some.inj hspecial
    · rw [Binary.isNaN_ofRatio] at hnan
      cases hnan
  · rfl

theorem map_single_of_reads {xs : List Single} {ts : List Text} (h : List.Forall₂ Reads xs ts) :
    (xs.map (·.convert .binary64)).map Constant.single = xs := by
  induction h with
  | nil => rfl
  | @cons x _ _ _ hx _ ih =>
    have hsingle := Constant.single_convert x
    rw [hx.canonical] at hsingle
    rw [List.map_cons, List.map_cons, hsingle, ih]

/-! ## Lists and parentheses -/

section Listed

variable {α : Type} (P : α → Text → Prop)

/-- Items with commas between them and white space around the commas. The index says whether one more
comma hangs behind the last item. -/
inductive Listed : Bool → List α → Text → Prop
  | one {x : α} {s : Text} : P x s → Listed false [x] s
  | hanging {x : α} {s b : Text} : P x s → Blank b → Listed true [x] (s ++ (b ++ [0x2c]))
  | more {h : Bool} {x : α} {xs : List α} {s b b' t : Text} :
      P x s → Blank b → Blank b' → Listed h xs t → Listed h (x :: xs) (s ++ (b ++ 0x2c :: (b' ++ t)))

variable {P} {h : Bool} {xs : List α} {s : Text}

theorem Listed.firm (hP : ∀ x t, P x t → Firm t) (hs : Listed P h xs s) : Firm s := by
  have hhead {s rest : Text} (hfirm : Firm s) : ∀ b ∈ (s ++ rest).head?, isSolid b = true := by
    obtain ⟨a, s, rfl⟩ := List.exists_cons_of_ne_nil hfirm.nonempty
    exact hfirm.head
  induction hs with
  | one hx => exact hP _ _ hx
  | hanging hx _ =>
    refine ⟨by simp, hhead (hP _ _ hx), fun b hb => ?_⟩
    rw [← List.append_assoc, List.getLast?_concat] at hb
    obtain rfl := Option.some.inj hb
    decide
  | @more _ _ _ s b b' t hx _ _ _ ih =>
    refine ⟨by simp, hhead (hP _ _ hx), fun a ha => ih.last a ?_⟩
    have hassoc : s ++ (b ++ 0x2c :: (b' ++ t)) = (s ++ (b ++ 0x2c :: b')) ++ t := by simp
    rwa [hassoc, List.getLast?_append_of_ne_nil _ ih.nonempty] at ha

theorem Listed.not_mem {b : UInt8} (hb : isSolid b = true) (hcomma : b ≠ 0x2c) (hP : ∀ x t, P x t → b ∉ t)
    (hs : Listed P h xs s) : b ∉ s := by
  induction hs with
  | one hx => exact hP _ _ hx
  | hanging hx hblank =>
    simp only [List.mem_append, List.mem_singleton, not_or]
    exact ⟨hP _ _ hx, hblank.not_mem hb, hcomma⟩
  | more hx hblank hblank' _ ih =>
    simp only [List.mem_append, List.mem_cons, not_or]
    exact ⟨hP _ _ hx, hblank.not_mem hb, hcomma, hblank'.not_mem hb, ih⟩

end Listed

def Enclosed (Q : Text → Prop) (s : Text) : Prop := ∃ m, Padded Q m ∧ s = 0x28 :: (m ++ [0x29])

def Tuple (xs : List Single) : Text → Prop := Enclosed (Listed Reads false xs)

theorem Enclosed.firm {Q : Text → Prop} {s : Text} (h : Enclosed Q s) : Firm s := by
  obtain ⟨m, _, rfl⟩ := h
  refine ⟨by simp, fun b hb => ?_, fun b hb => ?_⟩
  · obtain rfl := Option.some.inj hb
    decide
  · rw [← List.cons_append, List.getLast?_concat] at hb
    obtain rfl := Option.some.inj hb
    decide

theorem enclosed?_eq_some {s m : Text} : enclosed? s = some m ↔ s = 0x28 :: (m ++ [0x29]) := by
  constructor
  · intro h
    unfold enclosed? at h
    split at h
    · rename_i t
      split at h
      · rename_i inner hrev
        obtain rfl := Option.some.inj h
        rw [← List.reverse_cons, ← hrev, List.reverse_reverse]
      · cases h
    · cases h
  · rintro rfl
    simp [enclosed?]

/-! ## Tuples cut at their commas -/

theorem splitOn_cases {sep : UInt8} {s p : Text} {ps : List Text} (h : splitOn sep s = p :: ps) :
    (ps = [] ∧ s = p) ∨ ∃ t, s = p ++ sep :: t ∧ splitOn sep t = ps := by
  induction s generalizing p with
  | nil =>
    obtain ⟨rfl, rfl⟩ := List.cons.inj h
    exact Or.inl ⟨rfl, rfl⟩
  | cons b s ih =>
    rw [splitOn] at h
    split at h
    · rename_i hb
      obtain ⟨rfl, rfl⟩ := List.cons.inj h
      exact Or.inr ⟨s, by rw [hb]; rfl, rfl⟩
    · split at h
      · exact absurd ‹_› (splitOn_ne_nil sep s)
      · rename_i q qs hs
        obtain ⟨rfl, rfl⟩ := List.cons.inj h
        rcases ih hs with ⟨hnil, heq⟩ | ⟨t, heq, ht⟩
        · exact Or.inl ⟨hnil, by rw [heq]⟩
        · exact Or.inr ⟨t, by rw [heq, List.cons_append], ht⟩

theorem Reads.firm {x : Single} {t : Text} (h : Reads x t) : Firm t := h.element.firm

theorem padded_of_splitOn {xs : List Single} {s : Text}
    (h : List.Forall₂ (fun x p => Padded (Reads x) p) xs (splitOn 0x2c s)) :
    Padded (Listed Reads false xs) s := by
  induction xs generalizing s with
  | nil => exact absurd (List.forall₂_nil_left_iff.mp h) (splitOn_ne_nil _ s)
  | cons x xs ih =>
    obtain ⟨p, ps, hp, hps, hs⟩ := List.forall₂_cons_left_iff.mp h
    rcases splitOn_cases hs with ⟨rfl, rfl⟩ | ⟨t, rfl, rfl⟩
    · obtain rfl := List.forall₂_nil_right_iff.mp hps
      exact hp.imp fun _ => .one
    · obtain ⟨l, u, r, hl, hr, hu, rfl⟩ := hp
      obtain ⟨l', v, r', hl', hr', hv, rfl⟩ := ih hps
      exact ⟨l, _, r', hl, hr', .more hu hr hl' hv, by simp⟩

theorem Listed.splitOn {xs : List Single} {m : Text} (h : Listed Reads false xs m) {l r : Text}
    (hl : Blank l) (hr : Blank r) :
    List.Forall₂ (fun x p => Padded (Reads x) p) xs (Text.splitOn 0x2c (l ++ m ++ r)) := by
  have hsolid : isSolid 0x2c = true := by decide
  generalize hfalse : false = hanging at h
  induction h generalizing l with
  | @one x s hx =>
    have hnot : 0x2c ∉ l ++ s ++ r := by
      simp only [List.mem_append, not_or]
      exact ⟨⟨hl.not_mem hsolid, hx.element.not_mem.2.2.1⟩, hr.not_mem hsolid⟩
    rw [splitOn_of_not_mem hnot]
    exact .cons ⟨l, s, r, hl, hr, hx, rfl⟩ .nil
  | hanging => cases hfalse
  | @more _ x xs s b b' t hx hb hb' _ ih =>
    have hnot : 0x2c ∉ l ++ s ++ b := by
      simp only [List.mem_append, not_or]
      exact ⟨⟨hl.not_mem hsolid, hx.element.not_mem.2.2.1⟩, hb.not_mem hsolid⟩
    have hassoc : l ++ (s ++ (b ++ 0x2c :: (b' ++ t))) ++ r = l ++ s ++ b ++ 0x2c :: (b' ++ t ++ r) := by
      simp
    rw [hassoc, splitOn_append hnot]
    exact .cons ⟨l, s, b, hl, hb, hx, rfl⟩ (ih hb' hfalse)

theorem forall₂_splitOn_iff {xs : List Single} {s : Text} :
    List.Forall₂ Reads xs ((splitOn 0x2c s).map Text.trim) ↔ Padded (Listed Reads false xs) s := by
  have hpadded {x : Single} {p : Text} : Reads x (Text.trim p) ↔ Padded (Reads x) p :=
    (padded_iff fun _ => Reads.firm).symm
  simp only [List.forall₂_map_right_iff, hpadded]
  refine ⟨padded_of_splitOn, ?_⟩
  rintro ⟨l, m, r, hl, hr, hm, rfl⟩
  exact hm.splitOn hl hr

theorem not_mem_of_padded {h : Bool} {xs : List Single} {m : Text} (hm : Padded (Listed Reads h xs) m) :
    0x28 ∉ m ∧ 0x29 ∉ m ∧ 0x3d ∉ m := by
  obtain ⟨l, t, r, hl, hr, ht, rfl⟩ := hm
  have hnot {b : UInt8} (hb : isSolid b = true) (hcomma : b ≠ 0x2c) (hreads : ∀ x t, Reads x t → b ∉ t) :
      b ∉ l ++ t ++ r := by
    simp only [List.mem_append, not_or]
    exact ⟨⟨hl.not_mem hb, ht.not_mem hb hcomma hreads⟩, hr.not_mem hb⟩
  exact ⟨hnot (by decide) (by decide) fun _ _ hx => hx.element.not_mem.1,
    hnot (by decide) (by decide) fun _ _ hx => hx.element.not_mem.2.1,
    hnot (by decide) (by decide) fun _ _ hx => hx.element.not_mem.2.2.2⟩

/-- A text is split into numerals exactly if it is a tuple of them. -/
theorem splitTuple_iff {xs : List Single} {s : Text} :
    (∃ ts, splitTuple s = .ok ts ∧ List.Forall₂ Reads xs ts) ↔ Tuple xs s := by
  constructor
  · rintro ⟨ts, hsplit, hts⟩
    rw [splitTuple] at hsplit
    split at hsplit
    · cases hsplit
    · rename_i inner hinner
      split at hsplit
      · cases hsplit
      · obtain rfl := Except.ok.inj hsplit
        exact ⟨inner, forall₂_splitOn_iff.mp hts, enclosed?_eq_some.mp hinner⟩
  · rintro ⟨m, hm, rfl⟩
    obtain ⟨hopen, hclose, _⟩ := not_mem_of_padded hm
    have hany : (m.any fun b => b == 0x28 || b == 0x29) = false := by
      rw [List.any_eq_false]
      intro b hb
      simp only [Bool.or_eq_true, beq_iff_eq, not_or]
      exact ⟨fun h => hopen (h ▸ hb), fun h => hclose (h ▸ hb)⟩
    refine ⟨_, ?_, forall₂_splitOn_iff.mpr hm⟩
    rw [splitTuple, enclosed?_eq_some.mpr rfl]
    simp only [hany, Bool.false_eq_true, if_false]

theorem Tuple.firm {xs : List Single} {s : Text} (h : Tuple xs s) : Firm s := Enclosed.firm h

theorem Tuple.unique {xs ys : List Single} {s : Text} (hx : Tuple xs s) (hy : Tuple ys s) : xs = ys := by
  obtain ⟨ts, hts, hx⟩ := splitTuple_iff.mpr hx
  obtain ⟨us, hus, hy⟩ := splitTuple_iff.mpr hy
  obtain rfl : ts = us := Except.ok.inj (hts.symm.trans hus)
  exact List.left_unique_forall₂' Reads.unique hx hy

/-! ## Constants made of numerals -/

theorem mapM_readElement_iff {t : DataType} (ht : t.isInteger = false) {ts : List Text} {ys : List Double} :
    ts.mapM (readElement t) = .ok ys ↔
      ∃ xs, List.Forall₂ Reads xs ts ∧ ys = xs.map (·.convert .binary64) := by
  have hread {e : Text} {y : Double} :
      readElement t e = .ok y ↔ ∃ x, Reads x e ∧ y = x.convert .binary64 := by
    rw [readElement, ht, if_neg Bool.false_ne_true]
    cases hx : Numeral.readBinary .binary32 e with
    | ok x => simp [Reads, hx, eq_comm]
    | error why => simp [Reads, hx]
  rw [Outcome.mapM_eq_ok]
  simp only [hread]
  constructor
  · intro h
    induction h with
    | nil => exact ⟨[], .nil, rfl⟩
    | cons hx _ ih =>
      obtain ⟨x, hx, rfl⟩ := hx
      obtain ⟨xs, hxs, rfl⟩ := ih
      exact ⟨x :: xs, .cons hx hxs, rfl⟩
  · rintro ⟨xs, hxs, rfl⟩
    induction hxs with
    | nil => exact .nil
    | cons hx _ ih => exact .cons ⟨_, hx, rfl⟩ ih

theorem parseNumeric_eq_ok {t : DataType} {literal s : Text} {c : Constant} :
    parseNumeric t literal s = .ok c ↔ ∃ body space ts xs c',
      (if t.isColor then splitSpace s else .ok (s, [])) = .ok (body, space) ∧ elements t body = .ok ts ∧
        ts.mapM (readElement t) = .ok xs ∧ Constant.ofVector t xs = .ok c' ∧
        c = if space.isEmpty then c' else c'.withColorSpace space := by
  constructor
  · intro h
    obtain ⟨⟨body, space⟩, hspace, h⟩ : ∃ parts : Text × Text,
        (if t.isColor then splitSpace s else .ok (s, [])) = .ok parts ∧ (do
          let xs ← (do (← elements t parts.1).mapM (readElement t)).mapError (.malformed t literal)
          let c ← (Constant.ofVector t xs).mapError .components
          return if parts.2.isEmpty then c else c.withColorSpace parts.2) = (.ok c : Except Error Constant) := by
      rw [parseNumeric] at h
      split at h
      · rename_i hcolor
        obtain ⟨parts, hparts, h⟩ := Outcome.bind_eq_ok.mp h
        exact ⟨parts, by rw [if_pos hcolor, Outcome.mapError_eq_ok.mp hparts], h⟩
      · rename_i hcolor
        exact ⟨(s, []), if_neg hcolor, h⟩
    obtain ⟨xs, hxs, h⟩ := Outcome.bind_eq_ok.mp h
    obtain ⟨c', hc', h⟩ := Outcome.bind_eq_ok.mp h
    obtain ⟨ts, hts, hxs⟩ := Outcome.bind_eq_ok.mp (Outcome.mapError_eq_ok.mp hxs)
    exact ⟨body, space, ts, xs, c', hspace, hts, hxs, Outcome.mapError_eq_ok.mp hc',
      (Outcome.pure_eq_ok.mp h).symm⟩
  · rintro ⟨body, space, ts, xs, c', hspace, hts, hxs, hc', rfl⟩
    exact parseNumeric_of_splits space hspace hts hxs hc'

end ShaderGraph.Literal
