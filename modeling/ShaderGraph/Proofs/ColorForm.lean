import ShaderGraph.Proofs.Grammar

/-!
# The form of color literals

A color is a tuple of numerals, with a mark and a quoted color space behind it or without. The mark
that counts is the last one, so a quoted text with the mark in it is never read. The parenthesis of the
mark is taken off where it stands, but it need not stand there. That is the only freedom: what is read
as a color is in form exactly if it ends with a closing parenthesis.
-/
namespace ShaderGraph.Text

/-! ## The ends of a quoted text -/

theorem getLast?_of_suffix {s t : Text} {b : UInt8} (h : s <:+ t) (hs : s.getLast? = some b) :
    t.getLast? = some b := by
  obtain ⟨r, rfl⟩ := h
  rw [List.getLast?_append, hs]
  rfl

theorem readDoubleQuoted?_last {fuel : Nat} {t value : Text} (h : readDoubleQuoted? fuel t = some value) :
    t.getLast? = some 0x22 := by
  induction fuel generalizing t value with
  | zero => cases h
  | succ fuel ih =>
    rw [readDoubleQuoted?] at h
    split at h
    · rename_i ht
      rw [ht]
      rfl
    · split at h
      · cases h
      · rename_i hread
        obtain ⟨_, hrest, _⟩ := Option.map_eq_some_iff.mp h
        exact getLast?_of_suffix (readQuoted?_suffix hread) (ih hrest)

theorem unquote?_ends {q value : Text} (h : unquote? q = some value) :
    ∃ m, (m = 0x22 ∨ m = 0x27 ∨ m = 0x60) ∧ q.head? = some m ∧ q.getLast? = some m := by
  rw [unquote?.eq_def] at h
  split at h
  · rename_i t
    exact ⟨0x22, Or.inl rfl, rfl, getLast?_of_suffix (List.suffix_cons _ t) (readDoubleQuoted?_last h)⟩
  · rename_i t
    refine ⟨0x27, Or.inr (Or.inl rfl), rfl, getLast?_of_suffix (List.suffix_cons _ t) ?_⟩
    split at h
    · rename_i ht
      rw [ht]
      rfl
    · split at h
      · rename_i hread
        exact getLast?_of_suffix (readQuoted?_suffix hread) rfl
      · cases h
  · rename_i t
    refine ⟨0x60, Or.inr (Or.inr rfl), rfl, getLast?_of_suffix (List.suffix_cons _ t) ?_⟩
    split at h
    · rename_i inner hrev
      rw [← List.reverse_reverse t, hrev, List.getLast?_reverse]
      rfl
    · cases h
  · cases h

theorem firm_of_unquote? {q value : Text} (h : unquote? q = some value) : Firm q := by
  obtain ⟨m, hm, hhead, hlast⟩ := unquote?_ends h
  have hsolid : isSolid m = true := by rcases hm with rfl | rfl | rfl <;> decide
  refine ⟨fun hnil => ?_, fun b hb => ?_, fun b hb => ?_⟩
  · rw [hnil] at hhead
    cases hhead
  · obtain rfl := Option.some.inj (hhead.symm.trans hb)
    exact hsolid
  · obtain rfl := Option.some.inj (hlast.symm.trans hb)
    exact hsolid

theorem dropSuffix_of_last {t : Text} {b : UInt8} (h : t.getLast? ≠ some b) : dropSuffix [b] t = t := by
  rw [dropSuffix]
  split
  · rename_i rest hrest
    rw [dropPrefix?_eq_some] at hrest
    rw [← List.head?_reverse, hrest] at h
    exact absurd rfl h
  · rfl

theorem dropSuffix_cases (b : UInt8) (t : Text) :
    t = dropSuffix [b] t ++ [b] ∨ t.getLast? ≠ some b ∧ dropSuffix [b] t = t := by
  by_cases h : t.getLast? = some b
  · obtain ⟨s, rfl⟩ := List.getLast?_eq_some_iff.mp h
    exact Or.inl (by rw [dropSuffix_append])
  · exact Or.inr ⟨h, dropSuffix_of_last h⟩

end ShaderGraph.Text

namespace ShaderGraph.Literal

open Text

/-! ## Color spaces -/

/-- What stands behind the tuple of a color: nothing, or the mark and a quoted color space without
another mark. The index says whether the parenthesis of the mark is closed. -/
inductive SpaceSuffix : Bool → Text → Text → Prop
  | none : SpaceSuffix true [] []
  | closed {space b p : Text} : Blank b → Padded (fun q => unquote? q = some space) p → ¬ Marked p →
      SpaceSuffix true space (b ++ (spaceMark ++ (p ++ [0x29])))
  | unclosed {space b l q : Text} : Blank b → Blank l → unquote? q = some space → ¬ Marked (l ++ q) →
      SpaceSuffix false space (b ++ (spaceMark ++ (l ++ q)))

def ColorText (closed : Bool) (xs : List Single) (space : Text) : Text → Prop :=
  Padded fun m => ∃ body suffix, Tuple xs body ∧ SpaceSuffix closed space suffix ∧ m = body ++ suffix

theorem SpaceSuffix.last {closed : Bool} {space suffix : Text} (h : SpaceSuffix closed space suffix) :
    (closed = true ∧ (suffix = [] ∨ suffix.getLast? = some 0x29)) ∨
      (closed = false ∧ ∃ m, (m = 0x22 ∨ m = 0x27 ∨ m = 0x60) ∧ suffix.getLast? = some m) := by
  cases h with
  | none => exact Or.inl ⟨rfl, Or.inl rfl⟩
  | closed _ _ _ => exact Or.inl ⟨rfl, Or.inr (by simp)⟩
  | @unclosed _ b l q _ _ hq _ =>
    obtain ⟨m, hm, _, hlast⟩ := unquote?_ends hq
    refine Or.inr ⟨rfl, m, hm, getLast?_of_suffix ⟨b ++ (spaceMark ++ l), ?_⟩ hlast⟩
    simp

theorem unquote?_trim {space p : Text} (h : Padded (fun q => unquote? q = some space) p) :
    unquote? (Text.trim p) = some space := (padded_iff fun _ => firm_of_unquote?).mp h

theorem firm_append {body suffix : Text} (hbody : Firm body) (h : suffix = [] ∨ ∃ b, suffix.getLast? = some b ∧
    isSolid b = true) : Firm (body ++ suffix) := by
  rcases h with rfl | ⟨b, hb, hsolid⟩
  · rwa [List.append_nil]
  · refine ⟨by simp [hbody.nonempty], ?_, fun a ha => ?_⟩
    · obtain ⟨c, body, rfl⟩ := List.exists_cons_of_ne_nil hbody.nonempty
      exact hbody.head
    · rw [List.getLast?_append, hb] at ha
      obtain rfl := Option.some.inj ha
      exact hsolid

theorem SpaceSuffix.firm {closed : Bool} {xs : List Single} {space body suffix : Text} (hbody : Tuple xs body)
    (h : SpaceSuffix closed space suffix) : Firm (body ++ suffix) := by
  refine firm_append hbody.firm ?_
  rcases h.last with ⟨_, hnil | hlast⟩ | ⟨_, m, hm, hlast⟩
  · exact Or.inl hnil
  · exact Or.inr ⟨_, hlast, by decide⟩
  · exact Or.inr ⟨m, hlast, by rcases hm with rfl | rfl | rfl <;> decide⟩

theorem colorText_iff {closed : Bool} {xs : List Single} {space s : Text} :
    ColorText closed xs space s ↔
      ∃ body suffix, Tuple xs body ∧ SpaceSuffix closed space suffix ∧ Text.trim s = body ++ suffix := by
  refine padded_iff ?_
  rintro _ ⟨body, suffix, hbody, hsuffix, rfl⟩
  exact hsuffix.firm hbody

/-- No mark follows the one that introduces a text without marks. -/
theorem mark_last {before p tail x y : Text} (hp : ¬ Marked p) (htail : tail = [] ∨ tail = [0x29])
    (heq : before ++ spaceMark ++ (p ++ tail) = x ++ spaceMark ++ y) : x.length ≤ before.length := by
  by_contra hlong
  obtain ⟨w, hw⟩ := mark_later (Nat.lt_of_not_le hlong) heq
  rcases htail with rfl | rfl
  · rw [List.append_nil] at hw
    exact hp ⟨w, y, hw.symm⟩
  · rcases List.eq_nil_or_concat y with rfl | ⟨y, b, rfl⟩
    · -- The mark does not end with a parenthesis.
      have hlast := congrArg List.getLast? hw
      rw [List.getLast?_concat, List.append_nil, List.getLast?_append_of_ne_nil _ (by decide)] at hlast
      exact absurd hlast (by decide)
    · rw [List.concat_eq_append, ← List.append_assoc] at hw
      exact hp ⟨w, y, (List.append_inj' hw rfl).1.symm⟩

theorem splitSpace_marked {xs : List Single} {body b p tail space : Text} (hbody : Tuple xs body)
    (hb : Blank b) (hp : ¬ Marked p) (htail : tail = [] ∨ tail = [0x29])
    (hspace : unquote? (Text.trim (dropSuffix [0x29] (p ++ tail))) = some space) :
    splitSpace (body ++ (b ++ (spaceMark ++ (p ++ tail)))) = .ok (body, space) := by
  have heq : body ++ (b ++ (spaceMark ++ (p ++ tail))) = body ++ b ++ spaceMark ++ (p ++ tail) := by simp
  have hclose : Text.ofString ")" = [0x29] := by decide
  have hbefore := trim_padded blank_nil hb hbody.firm
  have hne : body ++ b ≠ [] := by simp [hbody.firm.nonempty]
  rw [splitSpace_of_splitLast? (splitLast?_eq heq fun x y hxy => mark_last hp htail (heq.symm.trans hxy)) hne,
    hclose, hspace]
  rw [List.nil_append] at hbefore
  simp only [hbefore]

theorem splitSpace_of_suffix {closed : Bool} {xs : List Single} {space body suffix : Text}
    (hbody : Tuple xs body) (h : SpaceSuffix closed space suffix) :
    splitSpace (body ++ suffix) = .ok (body, space) := by
  cases h with
  | none =>
    obtain ⟨m, hm, rfl⟩ := hbody
    have hequals : 0x3d ∉ 0x28 :: (m ++ [0x29]) := by
      simp only [List.mem_cons, List.mem_append, List.not_mem_nil, not_or]
      exact ⟨by decide, (not_mem_of_padded hm).2.2, by decide, id⟩
    rw [List.append_nil, splitSpace_of_not_mem hequals]
  | closed hb hp hmarked =>
    refine splitSpace_marked hbody hb hmarked (Or.inr rfl) ?_
    rw [dropSuffix_append, unquote?_trim hp]
  | @unclosed _ b l q hb hl hq hmarked =>
    obtain ⟨m, hm, _, hlast⟩ := unquote?_ends hq
    have hend : (l ++ q).getLast? ≠ some 0x29 := by
      rw [getLast?_of_suffix ⟨l, rfl⟩ hlast]
      rcases hm with rfl | rfl | rfl <;> decide
    have htrim := trim_padded hl blank_nil (firm_of_unquote? hq)
    rw [List.append_nil] at htrim
    have hspace : unquote? (Text.trim (dropSuffix [0x29] (l ++ q ++ []))) = some space := by
      rw [List.append_nil, dropSuffix_of_last hend, htrim, hq]
    have hsplit := splitSpace_marked hbody hb hmarked (Or.inl rfl) hspace
    rwa [List.append_nil] at hsplit

theorem suffix_of_splitSpace {s body space : Text} (h : splitSpace s = .ok (body, space)) :
    ∃ closed l suffix r, Blank l ∧ Blank r ∧ SpaceSuffix closed space suffix ∧
      s = l ++ (body ++ suffix) ++ r := by
  have hclose : Text.ofString ")" = [0x29] := by decide
  have hwhole (h : (.ok (s, []) : Except Unit (Text × Text)) = .ok (body, space)) :
      ∃ closed l suffix r, Blank l ∧ Blank r ∧ SpaceSuffix closed space suffix ∧
        s = l ++ (body ++ suffix) ++ r := by
    obtain ⟨rfl, rfl⟩ := Prod.mk.inj (Except.ok.inj h)
    exact ⟨true, [], [], [], blank_nil, blank_nil, .none, by simp⟩
  have hspec := splitLast?_spec spaceMark s
  cases hlast : splitLast? spaceMark s with
  | none =>
    rw [splitSpace, hlast] at h
    exact hwhole h
  | some found =>
    obtain ⟨before, after⟩ := found
    by_cases hne : before = []
    · rw [splitSpace, hlast, hne] at h
      exact hwhole h
    · rw [hlast] at hspec
      obtain ⟨heq, hmax⟩ := hspec
      rw [splitSpace_of_splitLast? hlast hne, hclose] at h
      split at h
      swap
      · cases h
      rename_i space' hspace
      obtain ⟨rfl, rfl⟩ := Prod.mk.inj (Except.ok.inj h)
      have hmarked {p tail : Text} (hp : after = p ++ tail) : ¬ Marked p := by
        rintro ⟨x, y, rfl⟩
        have hle := hmax (before ++ spaceMark ++ x) (y ++ tail) (by rw [heq, hp]; simp)
        have hpos : 0 < spaceMark.length := by decide
        simp only [List.length_append] at hle
        omega
      obtain ⟨l, r, hl, hr, hbefore⟩ := exists_trim before
      rcases dropSuffix_cases 0x29 after with hafter | ⟨_, hafter⟩
      · generalize dropSuffix [0x29] after = p at hafter hspace
        refine ⟨true, l, _, [], hl, blank_nil, .closed hr ((padded_iff fun _ => firm_of_unquote?).mpr hspace)
          (hmarked hafter), ?_⟩
        rw [heq, hafter]
        conv_lhs => rw [hbefore]
        simp
      · rw [hafter] at hspace
        obtain ⟨l', r', hl', hr', htrim⟩ := exists_trim after
        refine ⟨false, l, _, r', hl, hr', .unclosed hr hl' hspace (hmarked htrim), ?_⟩
        rw [heq]
        conv_lhs => rw [hbefore, htrim]
        simp

/-! ## Colors -/

theorem parse_color_iff {ch : Channels} {s : Text} {c : Constant} :
    parse (DataType.color ch) s = .ok c ↔ ∃ closed space, ∃ v : Vector Single ch.count,
      ColorText closed v.toList space s ∧ c = .color ch v space := by
  have hcomponents : (DataType.color ch).components ≠ 1 := by cases ch <;> decide
  have hnonzero : (DataType.color ch).components ≠ 0 := by cases ch <;> decide
  have helements (body : Text) : elements (.color ch) body = splitTuple body := by
    have hmatrix : (DataType.color ch).isMatrix = false := rfl
    rw [elements, if_neg hcomponents, hmatrix, if_neg Bool.false_ne_true]
  have hwith (v : Vector Single ch.count) (space : Text) :
      (if space.isEmpty then (.color ch v [] : Constant) else (Constant.color ch v []).withColorSpace space) =
        .color ch v space := by
    cases space <;> rfl
  rw [parse_trimmed hnonzero (by simp), parseNumeric_eq_ok]
  constructor
  · rintro ⟨body, space, ts, ys, c', hspace, hts, hys, hc', rfl⟩
    obtain ⟨xs, hxs, rfl⟩ := (mapM_readElement_iff rfl).mp hys
    cases Constant.ofVector_eq_ok.mp hc' with
    | color v hv =>
      rw [map_single_of_reads hxs] at hv
      have hbody := splitTuple_iff.mp ⟨ts, helements body ▸ hts, hxs⟩
      obtain ⟨closed, l, suffix, r, hl, hr, hsuffix, htrim⟩ := suffix_of_splitSpace hspace
      obtain ⟨l', r', hl', hr', heq⟩ := exists_trim s
      refine ⟨closed, space, v, ⟨l' ++ l, body ++ suffix, r ++ r', hl'.append hl, hr.append hr',
        ⟨body, suffix, hv ▸ hbody, hsuffix, rfl⟩, ?_⟩, hwith v space⟩
      rw [heq, htrim]
      simp
  · rintro ⟨closed, space, v, hcolor, rfl⟩
    obtain ⟨body, suffix, hbody, hsuffix, htrim⟩ := colorText_iff.mp hcolor
    obtain ⟨ts, hts, hxs⟩ := splitTuple_iff.mpr hbody
    refine ⟨body, space, ts, _, .color ch v [], ?_, (helements body).trans hts,
      (mapM_readElement_iff rfl).mpr ⟨_, hxs, rfl⟩, Constant.ofVector_eq_ok.mpr (.color v ?_),
      (hwith v space).symm⟩
    · rw [DataType.isColor, if_pos rfl, htrim, splitSpace_of_suffix hbody hsuffix]
    · rw [map_single_of_reads hxs]

/-- The text is a tuple of as many numerals as the color has channels, with a quoted color space between
the mark and a closing parenthesis behind it or with nothing behind it. -/
def InForm (ch : Channels) (s : Text) (c : Constant) : Prop :=
  ∃ (v : Vector Single ch.count) (space : Text), c = .color ch v space ∧ ColorText true v.toList space s

/-- Color literals. A text is read as a color exactly if it is a tuple of the right length with a color
space behind it or without, and the last parenthesis may be missing behind a color space. What is read
is in form exactly if it ends with a closing parenthesis. -/
theorem color_in_form_iff (ch : Channels) (s : Text) (c : Constant) :
    (parse (DataType.color ch) s = .ok c ↔ ∃ closed space, ∃ v : Vector Single ch.count,
      ColorText closed v.toList space s ∧ c = .color ch v space) ∧
    (parse (DataType.color ch) s = .ok c → (InForm ch s c ↔ (Text.trim s).getLast? = some 0x29)) := by
  refine ⟨parse_color_iff, fun h => ⟨?_, fun hend => ?_⟩⟩
  · rintro ⟨v, space, _, hcolor⟩
    obtain ⟨body, suffix, hbody, hsuffix, htrim⟩ := colorText_iff.mp hcolor
    rw [htrim]
    rcases hsuffix.last with ⟨_, rfl | hlast⟩ | ⟨hopen, _⟩
    · obtain ⟨m, _, rfl⟩ := hbody
      rw [List.append_nil, ← List.cons_append, List.getLast?_concat]
    · exact getLast?_of_suffix ⟨body, rfl⟩ hlast
    · cases hopen
  · obtain ⟨closed, space, v, hcolor, rfl⟩ := parse_color_iff.mp h
    cases closed with
    | true => exact ⟨v, space, rfl, hcolor⟩
    | false =>
      -- Where the parenthesis is missing, the text ends with a quote.
      obtain ⟨body, suffix, _, hsuffix, htrim⟩ := colorText_iff.mp hcolor
      rcases hsuffix.last with ⟨hclosed, _⟩ | ⟨_, m, hm, hlast⟩
      · cases hclosed
      · rw [htrim, getLast?_of_suffix ⟨body, rfl⟩ hlast, Option.some.injEq] at hend
        subst hend
        exact absurd hm (by decide)

def linearBlue : Constant :=
  .color .rgb #v[.zero, .zero, ⟨false, 0x3f800000⟩] (Text.ofString "lin_srgb")

theorem linearBlue_out_of_form :
    (parse (DataType.color .rgb) (Text.ofString "(0, 0, 1) (colorSpace = \"lin_srgb\")") = .ok linearBlue ∧
      InForm .rgb (Text.ofString "(0, 0, 1) (colorSpace = \"lin_srgb\")") linearBlue) ∧
    (parse (DataType.color .rgb) (Text.ofString "(0, 0, 1) (colorSpace = \"lin_srgb\"") = .ok linearBlue ∧
      ¬ InForm .rgb (Text.ofString "(0, 0, 1) (colorSpace = \"lin_srgb\"") linearBlue) := by
  have hclosed : parse (DataType.color .rgb) (Text.ofString "(0, 0, 1) (colorSpace = \"lin_srgb\")") =
      .ok linearBlue := by decide +kernel
  have hopen : parse (DataType.color .rgb) (Text.ofString "(0, 0, 1) (colorSpace = \"lin_srgb\"") =
      .ok linearBlue := by decide +kernel
  refine ⟨⟨hclosed, ?_⟩, hopen, ?_⟩
  · rw [(color_in_form_iff .rgb _ linearBlue).2 hclosed]
    decide
  · rw [(color_in_form_iff .rgb _ linearBlue).2 hopen]
    decide

end ShaderGraph.Literal
