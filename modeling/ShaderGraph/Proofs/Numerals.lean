import ShaderGraph.Constant.Literal
import ShaderGraph.Proofs.Shortest
import ShaderGraph.Proofs.Widening

/-!
# Numbers read back

Every text that a decimal is written as, positional or with an exponent, is read as digits and
exponents with the value of the decimal. Together with the shortest decimal lying in the interval of
its number, the text of a number is read as that number.
-/
namespace ShaderGraph.Numeral

/-! ## Digits and what follows them -/

def AllDigits (t : Text) : Prop := ∀ b ∈ t, isDigit b = true

theorem allDigits_ofNat (n : Nat) : AllDigits (Text.ofNat n) := Text.isDigit_of_mem_ofNat n

theorem AllDigits.append {s t : Text} (hs : AllDigits s) (ht : AllDigits t) : AllDigits (s ++ t) := by
  intro b hb
  rcases List.mem_append.mp hb with hb | hb
  · exact hs b hb
  · exact ht b hb

theorem allDigits_zeros (k : Nat) : AllDigits (List.replicate k 0x30) := by
  intro b hb
  rw [List.eq_of_mem_replicate hb]
  rfl

theorem digitValue_zeros (k : Nat) :
    (List.replicate k (0x30 : UInt8)).map digitValue = List.replicate k 0 := by
  rw [List.map_replicate]
  rfl

theorem takeDigits_append {ds rest : Text} (hds : AllDigits ds)
    (hrest : ∀ b ∈ rest.head?, isDigit b = false) :
    takeDigits decimalDigit? (ds ++ rest) = (ds.map digitValue, rest) := by
  induction ds with
  | nil =>
    cases rest with
    | nil => rfl
    | cons b rest =>
      have hb : isDigit b = false := hrest b rfl
      simp [takeDigits, decimalDigit?, hb]
  | cons d ds ih =>
    have hd : isDigit d = true := hds d List.mem_cons_self
    simp [takeDigits, decimalDigit?, hd, ih fun b hb => hds b (List.mem_cons_of_mem d hb)]

theorem takeDigits_all {ds : Text} (hds : AllDigits ds) :
    takeDigits decimalDigit? ds = (ds.map digitValue, []) := by
  have h : ∀ b ∈ ([] : Text).head?, isDigit b = false := by simp
  simpa using takeDigits_append hds h

inductive Tail : Text → Int → Prop
  | none : Tail [] 0
  | exponent {t : Text} {e : Int} : readExponent? t = some e → Tail (0x65 :: t) e

theorem Tail.head {tail : Text} {e : Int} (h : Tail tail e) :
    ∀ b ∈ tail.head?, isDigit b = false ∧ b ≠ 0x2e := by
  cases h with
  | none => simp
  | exponent _ =>
    intro b hb
    obtain rfl : 0x65 = b := by simpa using hb
    decide

theorem readParts?_whole {w tail : Text} {e : Int} (hw : AllDigits w) (hne : w ≠ []) (ht : Tail tail e) :
    readParts? 10 decimalDigit? 0x65 false (w ++ tail) =
      some ⟨ofDigits 10 (w.map digitValue), 0, e⟩ := by
  have hsplit := takeDigits_append hw fun b hb => (ht.head b hb).1
  cases ht with
  | none =>
    simp only [readParts?, hsplit]
    simp [hne]
  | exponent he =>
    have hmark : lower 0x65 = 0x65 := rfl
    simp only [readParts?, hsplit]
    simp [hne, hmark, he]

theorem readParts?_fraction {w v tail : Text} {e : Int} (hw : AllDigits w) (hne : w ≠ [])
    (hv : AllDigits v) (ht : Tail tail e) :
    readParts? 10 decimalDigit? 0x65 false (w ++ 0x2e :: (v ++ tail)) =
      some ⟨ofDigits 10 ((w ++ v).map digitValue), v.length, e⟩ := by
  have hpoint : ∀ b ∈ (0x2e :: (v ++ tail) : Text).head?, isDigit b = false := by
    intro b hb
    obtain rfl : 0x2e = b := by simpa using hb
    rfl
  have hsplit := takeDigits_append hw hpoint
  have hsplit' := takeDigits_append hv fun b hb => (ht.head b hb).1
  cases ht with
  | none =>
    simp only [readParts?, hsplit, hsplit']
    simp [hne]
  | exponent he =>
    have hmark : lower 0x65 = 0x65 := rfl
    simp only [readParts?, hsplit, hsplit']
    simp [hne, hmark, he]

theorem readExponent?_signed {ds : Text} (hds : AllDigits ds) (hne : ds ≠ []) {e : Int}
    (he : ofDigits 10 (ds.map digitValue) = e.natAbs) :
    readExponent? ((if e < 0 then 0x2d else 0x2b) :: ds) = some e := by
  have hsign : takeSign ((if e < 0 then 0x2d else 0x2b) :: ds) = (decide (e < 0), ds) := by
    by_cases h : e < 0 <;> simp [h, takeSign]
  obtain ⟨b, t, rfl⟩ := List.exists_cons_of_ne_nil hne
  have hsplit := takeDigits_all hds
  rw [List.map_cons] at hsplit he
  simp only [readExponent?, hsign, hsplit, he, decide_eq_true_eq, Option.some.injEq]
  omega

def Parsed.value (p : Parsed) : ℚ := p.coefficient * 10 ^ (p.exponent - (p.places : Int))

/-! ## Numerals without special forms -/

def isPlain (b : UInt8) : Bool := isDigit b || b == 0x2e || b == 0x65 || b == 0x2b || b == 0x2d

structure Plain (t : Text) : Prop where
  head : ∃ b rest, t = b :: rest ∧ isDigit b = true
  bytes : ∀ b ∈ t, isPlain b = true

theorem isPlain_of_isDigit {b : UInt8} (h : isDigit b = true) : isPlain b = true := by
  simp [isPlain, h]

theorem isPlain_spec {b : UInt8} (h : isPlain b = true) :
    b ≠ 0x5f ∧ lower b ≠ 0x62 ∧ lower b ≠ 0x6f ∧ lower b ≠ 0x78 := by
  have hall : ∀ n < 256, isPlain (UInt8.ofNat n) = true → UInt8.ofNat n ≠ 0x5f ∧
      lower (UInt8.ofNat n) ≠ 0x62 ∧ lower (UInt8.ofNat n) ≠ 0x6f ∧ lower (UInt8.ofNat n) ≠ 0x78 := by
    decide +kernel
  simpa using hall b.toNat b.toNat_lt (by simpa using h)

theorem isDigit_spec {b : UInt8} (h : isDigit b = true) :
    lower b ≠ 0x69 ∧ lower b ≠ 0x6e ∧ b ≠ 0x2b ∧ b ≠ 0x2d := by
  have hall : ∀ n < 256, isDigit (UInt8.ofNat n) = true → lower (UInt8.ofNat n) ≠ 0x69 ∧
      lower (UInt8.ofNat n) ≠ 0x6e ∧ UInt8.ofNat n ≠ 0x2b ∧ UInt8.ofNat n ≠ 0x2d := by
    decide +kernel
  simpa using hall b.toNat b.toNat_lt (by simpa using h)

def signed (negative : Bool) (t : Text) : Text := if negative then 0x2d :: t else t

variable {t : Text}

theorem Plain.takeSign (h : Plain t) (negative : Bool) : takeSign (signed negative t) = (negative, t) := by
  obtain ⟨b, rest, rfl, hb⟩ := h.head
  obtain ⟨_, _, hplus, hminus⟩ := isDigit_spec hb
  cases negative with
  | true => rfl
  | false =>
    simp only [signed, Bool.false_eq_true, if_false]
    rw [Numeral.takeSign.eq_def]
    simp [hplus, hminus]

theorem Plain.special? {f : Format} (h : Plain t) (negative : Bool) :
    (Numeral.special? (signed negative t) : Option (Binary f)) = none := by
  have hsign := h.takeSign negative
  obtain ⟨b, rest, rfl, hb⟩ := h.head
  obtain ⟨hi, hn, _, _⟩ := isDigit_spec hb
  have hinf : Text.ofString "inf" = 0x69 :: Text.ofString "nf" := by decide
  have hinfinity : Text.ofString "infinity" = 0x69 :: Text.ofString "nfinity" := by decide
  have hnan : Text.ofString "nan" = 0x6e :: Text.ofString "an" := by decide
  have hminus : lower 0x2d ≠ 0x6e := by decide
  simp only [Numeral.special?, hsign, hinf, hinfinity, hnan, List.map_cons, List.cons.injEq, hi, false_and,
    or_self, if_false]
  cases negative <;> simp [signed, hn, hminus]

theorem underscoresFrom_of_plain (ht : ∀ b ∈ t, isPlain b = true) {saw : Before}
    (hsaw : saw ≠ .underscore) : underscoresFrom false saw t = true := by
  induction t generalizing saw with
  | nil => simpa [underscoresFrom] using hsaw
  | cons b t ih =>
    have hb := (isPlain_spec (ht b List.mem_cons_self)).1
    have hrest : ∀ b ∈ t, isPlain b = true := fun c hc => ht c (List.mem_cons_of_mem b hc)
    rw [underscoresFrom]
    split
    · exact ih hrest (by decide)
    · simp [hsaw, ih hrest]

theorem Plain.underscoresOk (h : Plain t) (negative : Bool) :
    Numeral.underscoresOk (signed negative t) = true := by
  have hfrom := underscoresFrom_of_plain h.bytes (show Before.start ≠ .underscore by decide)
  simp only [Numeral.underscoresOk, h.takeSign negative]
  split
  · rename_i m rest
    obtain ⟨_, hb, ho, hx⟩ := isPlain_spec (h.bytes m (by simp))
    simpa [hb, ho, hx] using hfrom
  · exact hfrom

theorem Plain.filter (h : Plain t) (negative : Bool) :
    (signed negative t).filter (· ≠ 0x5f) = signed negative t := by
  rw [List.filter_eq_self]
  intro b hb
  have hplain : isPlain b = true := by
    cases negative with
    | false => exact h.bytes b hb
    | true =>
      rcases List.mem_cons.mp hb with rfl | hb
      · rfl
      · exact h.bytes b hb
  simpa using (isPlain_spec hplain).1

theorem Plain.readBinary {f : Format} (h : Plain t) (negative : Bool) {p : Parsed}
    (hp : readParts? 10 decimalDigit? 0x65 false t = some p) (he : -99999 ≤ p.exponent ∧ p.exponent ≤ 99999)
    {magnitude : Nat} (hfinite : magnitude < f.infinity)
    (hnearest : ∀ num den : Nat, 0 < den → (num : ℚ) / den = p.value → f.nearest num den = magnitude) :
    Numeral.readBinary f (signed negative t) = .ok ⟨negative, magnitude⟩ := by
  have hclamp : clampExponent p.exponent = p.exponent := by
    rw [clampExponent]
    omega
  have hbounded {num den : Nat} (hden : 0 < den) (hvalue : (num : ℚ) / den = p.value) :
      bounded f negative num den = .ok ⟨negative, magnitude⟩ := by
    have hinf : magnitude ≠ f.infinity := hfinite.ne
    simp [bounded, Binary.ofRatio, hnearest num den hden hvalue, Binary.isInfinite, hinf]
  have hscaled := scaled_value 10 p.coefficient 1 (p.exponent - p.places)
  rw [show (p.coefficient : ℚ) / (1 : Nat) * (10 : Nat) ^ (p.exponent - (p.places : Int)) = p.value by
    simp [Parsed.value]] at hscaled
  simp only [Numeral.readBinary, h.special? negative, h.underscoresOk negative, h.filter negative,
    h.takeSign negative, hp, hclamp]
  rw [if_neg (by decide), if_neg]
  · split
    · rename_i hpos
      rw [if_pos hpos] at hscaled
      exact hbounded Nat.one_pos hscaled
    · rename_i hneg
      rw [if_neg hneg, Nat.one_mul] at hscaled
      exact hbounded (Nat.pow_pos (by decide)) hscaled
  · split
    · rename_i m _ _
      simpa using (isPlain_spec (h.bytes m (by simp))).2.2.2
    · simp

/-! ## Integers -/

theorem readNat_digits {limit : Nat} {ds : Text} (hds : AllDigits ds) {n : Nat}
    (h : n * 10 ^ ds.length + ofDigits 10 (ds.map digitValue) ≤ limit) :
    readNat limit n ds = .ok (n * 10 ^ ds.length + ofDigits 10 (ds.map digitValue)) := by
  induction ds generalizing n with
  | nil => simp [readNat, ofDigits]
  | cons d ds ih =>
    have hsplit : n * 10 ^ (d :: ds).length + ofDigits 10 ((d :: ds).map digitValue) =
        (n * 10 + digitValue d) * 10 ^ ds.length + ofDigits 10 (ds.map digitValue) := by
      rw [List.map_cons, ofDigits_cons, List.length_map, List.length_cons]
      ring
    rw [hsplit] at h ⊢
    have hstep : n * 10 + digitValue d ≤ limit := by
      have hpow : 0 < 10 ^ ds.length := Nat.pow_pos (by decide)
      have := Nat.le_mul_of_pos_right (n * 10 + digitValue d) hpow
      omega
    rw [readNat]
    simp only [hds d List.mem_cons_self, Bool.not_true, Bool.false_eq_true, if_false, Nat.not_lt.mpr hstep]
    exact ih (fun b hb => hds b (List.mem_cons_of_mem d hb)) h

theorem readNat_ofNat {limit n : Nat} (h : n ≤ limit) : readNat limit 0 (Text.ofNat n) = .ok n := by
  have hvalue : 0 * 10 ^ (Text.ofNat n).length + ofDigits 10 ((Text.ofNat n).map digitValue) = n := by
    rw [Text.ofDigits_ofNat, Nat.zero_mul, Nat.zero_add]
  have hread := readNat_digits (allDigits_ofNat n) (hvalue.trans_le h)
  rwa [hvalue] at hread

theorem ofNat_plain (n : Nat) : Plain (Text.ofNat n) := by
  obtain ⟨d, ds, hd⟩ := List.exists_cons_of_ne_nil (Text.ofNat_ne_nil n)
  have hdigits := allDigits_ofNat n
  exact ⟨⟨d, ds, hd, hdigits d (by simp [hd])⟩, fun b hb => isPlain_of_isDigit (hdigits b hb)⟩

theorem ofInt_eq_signed (n : Int) : Text.ofInt n = signed (n < 0) (Text.ofNat n.natAbs) := by
  cases n with
  | ofNat n => rfl
  | negSucc n =>
    have hneg : Int.negSucc n < 0 := Int.negSucc_lt_zero n
    simp [Text.ofInt, signed, hneg]

theorem readInt_ofInt {bits : Nat} (hbits : 0 < bits) {n : Int} (hlow : -(2 ^ (bits - 1)) ≤ n)
    (hhigh : n < 2 ^ (bits - 1)) : readInt bits (Text.ofInt n) = .ok n := by
  have hpow : (2 : Nat) ^ bits = 2 * 2 ^ (bits - 1) := by
    rw [← Nat.pow_succ']
    congr 1
    omega
  have hpos : 0 < 2 ^ (bits - 1) := Nat.pow_pos (by decide)
  have hlow' : -((2 ^ (bits - 1) : Nat) : Int) ≤ n := by exact_mod_cast hlow
  have hhigh' : n < ((2 ^ (bits - 1) : Nat) : Int) := by exact_mod_cast hhigh
  have hread : readNat (2 ^ bits - 1) 0 (Text.ofNat n.natAbs) = .ok n.natAbs :=
    readNat_ofNat (by omega)
  have hne : (Text.ofNat n.natAbs).isEmpty = false := by
    simp [Text.ofNat_ne_nil]
  simp only [readInt, ofInt_eq_signed, (ofNat_plain n.natAbs).takeSign, hne, Nat.pow_eq, hread, bind,
    Except.bind, pure, Except.pure, Bool.false_eq_true, if_false]
  by_cases hneg : n < 0
  · have hfits : ¬ 2 ^ (bits - 1) < n.natAbs := by omega
    rw [if_pos (by simpa using hneg), if_neg hfits]
    congr 1
    omega
  · have hfits : ¬ 2 ^ (bits - 1) ≤ n.natAbs := by omega
    rw [if_neg (by simpa using hneg), if_neg hfits]
    congr 1
    omega

end ShaderGraph.Numeral

/-! ## Decimals as they are written -/

namespace ShaderGraph.NumberLayout

open Numeral

theorem readParts?_positional (c : Nat) (point : Int) : ∃ p,
    readParts? 10 decimalDigit? 0x65 false (positional (Text.ofNat c) point) = some p ∧
      p.value = Decimal.value ⟨c, point⟩ ∧ p.exponent = 0 := by
  have hdigits := allDigits_ofNat c
  have hvalue := Text.ofDigits_ofNat c
  have hne := Text.ofNat_ne_nil c
  simp only [positional, Decimal.value]
  generalize Text.ofNat c = ds at *
  split
  · rename_i hpoint
    -- A zero before the point, and zeros behind it up to the first digit.
    have hzero : AllDigits [0x30] := allDigits_zeros 1
    have hread := readParts?_fraction hzero (by simp)
      ((allDigits_zeros (-point).toNat).append hdigits) .none
    have hcoefficient : ofDigits 10 (([0x30] ++ (List.replicate (-point).toNat 0x30 ++ ds)).map digitValue) =
        c := by
      rw [List.map_append, List.map_append, digitValue_zeros, ofDigits_append, ofDigits_append,
        ofDigits_zeros, hvalue]
      simp [ofDigits, digitValue]
    rw [List.append_nil, hcoefficient] at hread
    refine ⟨_, hread, ?_, rfl⟩
    simp only [Parsed.value, List.length_append, List.length_replicate]
    congr 2
    omega
  · rename_i hpoint
    split
    · rename_i hlen
      have hread := readParts?_whole (hdigits.append (allDigits_zeros (point.toNat - ds.length)))
        (by simp [hne]) .none
      rw [List.append_nil, List.map_append, digitValue_zeros, ofDigits_append, ofDigits_zeros, hvalue,
        List.length_replicate] at hread
      refine ⟨_, hread, ?_, rfl⟩
      simp only [Parsed.value, Nat.add_zero, Nat.cast_mul, Nat.cast_pow, Nat.cast_ofNat, Nat.cast_zero,
        sub_zero, zpow_zero, mul_one]
      rw [← zpow_natCast]
      congr 2
      omega
    · rename_i hlen
      have htake : AllDigits (ds.take point.toNat) := fun b hb => hdigits b (List.mem_of_mem_take hb)
      have hdrop : AllDigits (ds.drop point.toNat) := fun b hb => hdigits b (List.mem_of_mem_drop hb)
      have hwhole : ds.take point.toNat ≠ [] := by
        rw [Ne, List.take_eq_nil_iff, not_or]
        exact ⟨by omega, hne⟩
      have hread := readParts?_fraction htake hwhole hdrop .none
      rw [List.append_nil, List.take_append_drop, hvalue, List.length_drop] at hread
      refine ⟨_, hread, ?_, rfl⟩
      simp only [Parsed.value]
      congr 2
      omega

theorem readParts?_scientific (width : Nat) (c : Nat) (point : Int) : ∃ p,
    readParts? 10 decimalDigit? 0x65 false (scientific width (Text.ofNat c) (point - 1)) = some p ∧
      p.value = Decimal.value ⟨c, point⟩ ∧ p.exponent = point - 1 := by
  have hdigits := allDigits_ofNat c
  have hvalue := Text.ofDigits_ofNat c
  have hne := Text.ofNat_ne_nil c
  have hexp : AllDigits (List.replicate (width - (Text.ofNat (point - 1).natAbs).length) 0x30 ++
      Text.ofNat (point - 1).natAbs) := (allDigits_zeros _).append (allDigits_ofNat _)
  have hexpValue : ofDigits 10 ((List.replicate (width - (Text.ofNat (point - 1).natAbs).length) 0x30 ++
      Text.ofNat (point - 1).natAbs).map digitValue) = (point - 1).natAbs := by
    rw [List.map_append, digitValue_zeros, ofDigits_append, ofDigits_zeros, Text.ofDigits_ofNat]
    omega
  have htail := Tail.exponent (readExponent?_signed hexp (by simp [Text.ofNat_ne_nil]) hexpValue)
  simp only [scientific, Decimal.value]
  generalize Text.ofNat c = ds at hdigits hvalue hne
  cases ds with
  | nil => exact absurd rfl hne
  | cons d ds =>
    cases ds with
    | nil =>
      have hread := readParts?_whole hdigits hne htail
      rw [hvalue] at hread
      refine ⟨_, hread, ?_, rfl⟩
      simp [Parsed.value]
    | cons d' rest =>
      have hfirst : AllDigits [d] := by simpa [AllDigits] using hdigits d
      have hrest : AllDigits (d' :: rest) := fun b hb => hdigits b (List.mem_cons_of_mem d hb)
      have hread := readParts?_fraction hfirst (by simp) hrest htail
      have hcoefficient : ofDigits 10 (([d] ++ d' :: rest).map digitValue) = c := hvalue
      rw [hcoefficient] at hread
      refine ⟨_, hread, ?_, rfl⟩
      simp only [Parsed.value, List.length_cons]
      congr 2
      omega

theorem positional_plain (c : Nat) (point : Int) : Plain (positional (Text.ofNat c) point) := by
  have hdigits := allDigits_ofNat c
  obtain ⟨d, ds, hd⟩ := List.exists_cons_of_ne_nil (Text.ofNat_ne_nil c)
  rw [hd] at hdigits ⊢
  have hfirst := hdigits d List.mem_cons_self
  simp only [positional]
  split
  · refine ⟨⟨_, _, rfl, rfl⟩, fun b hb => ?_⟩
    simp only [List.mem_cons, List.mem_append] at hb
    rcases hb with rfl | rfl | hb | hb
    · rfl
    · rfl
    · exact isPlain_of_isDigit (allDigits_zeros _ b hb)
    · exact isPlain_of_isDigit (hdigits b (by simpa using hb))
  · rename_i hpoint
    split
    · refine ⟨⟨_, _, rfl, hfirst⟩, fun b hb => ?_⟩
      exact isPlain_of_isDigit (hdigits.append (allDigits_zeros _) b hb)
    · obtain ⟨n, hn⟩ : ∃ n, point.toNat = n + 1 := ⟨point.toNat - 1, by omega⟩
      rw [hn]
      refine ⟨⟨_, _, rfl, hfirst⟩, fun b hb => ?_⟩
      rw [List.mem_append, List.mem_cons] at hb
      rcases hb with hb | rfl | hb
      · exact isPlain_of_isDigit (hdigits b (List.mem_of_mem_take hb))
      · rfl
      · exact isPlain_of_isDigit (hdigits b (List.mem_of_mem_drop hb))

theorem scientific_plain (width c : Nat) (exponent : Int) :
    Plain (scientific width (Text.ofNat c) exponent) := by
  have hdigits := allDigits_ofNat c
  obtain ⟨d, ds, hd⟩ := List.exists_cons_of_ne_nil (Text.ofNat_ne_nil c)
  rw [hd] at hdigits ⊢
  have hfirst := hdigits d List.mem_cons_self
  have htail : ∀ b ∈ (0x65 :: (if exponent < 0 then 0x2d else 0x2b) ::
      (List.replicate (width - (Text.ofNat exponent.natAbs).length) 0x30 ++
        Text.ofNat exponent.natAbs) : Text), isPlain b = true := by
    intro b hb
    rw [List.mem_cons, List.mem_cons] at hb
    rcases hb with rfl | rfl | hb
    · rfl
    · split <;> rfl
    · exact isPlain_of_isDigit ((allDigits_zeros _).append (allDigits_ofNat _) b hb)
  simp only [scientific]
  cases ds with
  | nil =>
    refine ⟨⟨_, _, rfl, hfirst⟩, fun b hb => ?_⟩
    rcases List.mem_append.mp hb with hb | hb
    · exact isPlain_of_isDigit (hdigits b hb)
    · exact htail b hb
  | cons d' ds =>
    refine ⟨⟨_, _, rfl, hfirst⟩, fun b hb => ?_⟩
    rcases List.mem_append.mp hb with hb | hb
    · rcases List.mem_cons.mp hb with rfl | hb
      · exact isPlain_of_isDigit hfirst
      · rcases List.mem_cons.mp hb with rfl | hb
        · rfl
        · exact isPlain_of_isDigit (hdigits b (List.mem_cons_of_mem d hb))
    · exact htail b hb

theorem decimal_spec (layout : NumberLayout) (d : Decimal) : Plain (layout.decimal d) ∧ ∃ p,
    readParts? 10 decimalDigit? 0x65 false (layout.decimal d) = some p ∧ p.value = d.value ∧
      (p.exponent = 0 ∨ p.exponent = d.point - 1) := by
  rw [decimal]
  split
  · obtain ⟨p, hp, hvalue, he⟩ := readParts?_scientific layout.exponentDigits d.coefficient d.point
    exact ⟨scientific_plain _ _ _, p, hp, hvalue, Or.inr he⟩
  · obtain ⟨p, hp, hvalue, he⟩ := readParts?_positional d.coefficient d.point
    exact ⟨positional_plain _ _, p, hp, hvalue, Or.inl he⟩

end ShaderGraph.NumberLayout

/-! ## Numbers in single precision -/

namespace ShaderGraph

theorem Decimal.value_bounds {d : Decimal} (h : 0 < d.coefficient) :
    (10 : ℚ) ^ (d.point - 1) ≤ d.value ∧ d.value < 10 ^ d.point := by
  obtain ⟨hlow, hhigh⟩ := length_ofNat_bounds h
  have hlen : 0 < (Text.ofNat d.coefficient).length := List.length_pos_iff.mpr (Text.ofNat_ne_nil _)
  rw [Decimal.value]
  generalize (Text.ofNat d.coefficient).length = k at *
  have hpow : (0 : ℚ) < 10 ^ (d.point - (k : ℤ)) := by positivity
  constructor
  · have h : ((10 : ℚ)) ^ ((k - 1 : Nat) : ℤ) ≤ d.coefficient := by exact_mod_cast hlow
    have := mul_le_mul_of_nonneg_right h hpow.le
    rwa [← zpow_add₀ (by norm_num), show ((k - 1 : Nat) : ℤ) + (d.point - k) = d.point - 1 by omega] at this
  · have h : (d.coefficient : ℚ) < 10 ^ (k : ℤ) := by exact_mod_cast hhigh
    have := mul_lt_mul_of_pos_right h hpow
    rwa [← zpow_add₀ (by norm_num), show (k : ℤ) + (d.point - k) = d.point by omega] at this

/-- What rounds to a number in single precision is far from the bounds on exponents. -/
theorem Decimal.point_bounds {n : Nat} {d : Decimal} (hpos : 0 < n)
    (hn : n < Format.binary32.infinity) (hd : 0 < d.coefficient)
    (hcell : Format.binary32.InCell d.value n) : -99998 ≤ d.point ∧ d.point ≤ 100000 := by
  obtain ⟨hpoint, hpoint'⟩ := Decimal.value_bounds hd
  obtain ⟨k, rfl⟩ : ∃ k, n = k + 1 := ⟨n - 1, by omega⟩
  -- Numbers from the first middle to the middle before infinity are rounded to finite ones.
  have hatLeast : (2 : ℚ) ^ (-150 : ℤ) ≤ d.value := by
    have hfirst : Format.binary32.middle 0 = 2 ^ (-150 : ℤ) := by
      have hmiddle := Format.middle_eq (f := .binary32) (m := 0) (k := 0) (by decide) (Or.inl rfl)
      rw [Nat.zero_mul, Nat.zero_add] at hmiddle
      rw [hmiddle, show Format.binary32.quantum = -149 by decide]
      norm_num
    rw [← hfirst]
    exact (Format.binary32.middle_strictMono.monotone (Nat.zero_le k)).trans (hcell.low k rfl).1
  have hatMost : d.value ≤ 2 ^ (128 : ℤ) := by
    have hlast : Format.binary32.value Format.binary32.infinity = 2 ^ (128 : ℤ) := by
      rw [Format.value, show Format.binary32.parts Format.binary32.infinity = (8388608, 105) by decide]
      norm_num
    have hnext := (Format.binary32.middle_lt_value (k + 1)).le
    exact ((hcell.high hn).1.trans hnext).trans
      (hlast ▸ Format.binary32.value_strictMono.monotone hn)
  constructor
  · by_contra hlt
    have hle : (10 : ℚ) ^ d.point ≤ 10 ^ (-100 : ℤ) := zpow_le_zpow_right₀ (by norm_num) (by omega)
    have hsmall : (10 : ℚ) ^ (-100 : ℤ) < 2 ^ (-150 : ℤ) := by norm_num
    linarith
  · by_contra hlt
    have hle : (10 : ℚ) ^ (100 : ℤ) ≤ 10 ^ (d.point - 1) := zpow_le_zpow_right₀ (by norm_num) (by omega)
    have hlarge : (2 : ℚ) ^ (128 : ℤ) < 10 ^ (100 : ℤ) := by norm_num
    linarith

namespace Numeral

theorem readBinary_number (x : Single) :
    readBinary .binary32 (Literal.number x) = .ok (if x.isNaN then .nan else x) := by
  rw [Literal.number, NumberLayout.text]
  rcases x.cases_magnitude with hx | hx | hx
  · rw [if_pos hx, if_pos hx]
    rfl
  · have hnan : x.isNaN = false := by rw [hx]; simp [Binary.isNaN, Binary.infinite]
    have hinf : x.isInfinite = true := by rw [hx]; simp [Binary.isInfinite, Binary.infinite]
    rw [hnan, hinf, hx]
    cases x.negative <;> rfl
  · have hnan : x.isNaN = false := by simp [Binary.isNaN, hx.le]
    have hinf : x.isInfinite = false := by simp [Binary.isInfinite, hx.ne]
    rw [hnan, hinf]
    obtain ⟨negative, magnitude⟩ := x
    simp only [Bool.false_eq_true, if_false]
    rcases Nat.eq_zero_or_pos magnitude with rfl | hpos
    · cases negative <;> rfl
    · have hzero : (Binary.mk negative magnitude : Single).isZero = false := by
        simp [Binary.isZero, hpos.ne']
      obtain ⟨hcoefficient, hcell⟩ := Decimal.shortest_inCell (f := .binary32) hpos hx (by decide)
      obtain ⟨hlow, hhigh⟩ := Decimal.point_bounds hpos hx hcoefficient hcell
      obtain ⟨hplain, p, hp, hvalue, he⟩ :=
        NumberLayout.literal.decimal_spec (Decimal.shortest .binary32 magnitude)
      rw [hzero]
      refine hplain.readBinary negative hp (by omega) hx fun num den hden hv => ?_
      rw [hvalue] at hv
      exact Format.nearest_of_inCell hden (hv ▸ hcell)

end Numeral
end ShaderGraph
