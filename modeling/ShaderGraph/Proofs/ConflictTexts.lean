import ShaderGraph.Network.Collect
import ShaderGraph.Proofs.Agreement
import ShaderGraph.Proofs.RoundTrip

/-!
# How a conflict shows its defaults

The message of a conflict shows each of the two defaults by the name of its type and its content:
texts between quotes, numbers one by one in brackets. What is shown can be read back, so it decides
the constant, with one exception: the color space of a color is not shown.
-/
namespace ShaderGraph

/-! ## Names of types -/

namespace DataType

theorem mem_all (t : DataType) : t ∈ all := by
  cases t with
  | int l | half l | float l => cases l <;> decide
  | color c => cases c <;> decide
  | matrix o => cases o <;> decide
  | bool | string | token | asset => decide

theorem name_injective {s t : DataType} (h : s.name = t.name) : s = t := by
  have hnodup : (all.map name).Nodup := by decide
  exact List.inj_on_of_nodup_map hnodup s.mem_all t.mem_all h

theorem blank_not_mem_name (t : DataType) : 0x20 ∉ t.name := by
  have hall : ∀ t ∈ all, 0x20 ∉ t.name := by decide
  exact hall t t.mem_all

end DataType

/-! ## Numbers in messages -/

namespace NumberLayout

theorem message_text_of_finite {x : Single} (h : x.magnitude < Format.binary32.infinity) :
    message.text x = Literal.number x := by
  obtain ⟨hnan, hinf⟩ := Binary.not_nan_of_finite (x := x) (by simpa [Binary.isFinite] using h)
  simp only [Literal.number, text, hnan, hinf, Bool.false_eq_true, if_false]
  rfl

theorem blank_not_mem_message (x : Single) : 0x20 ∉ message.text x := by
  rcases x.cases_magnitude with hx | hx | hx
  · rw [text, if_pos hx]
    decide
  · rw [hx]
    cases x.negative <;> decide
  · rw [message_text_of_finite hx]
    exact fun hb => absurd ((Literal.number_element x).bytes _ hb) (by decide)

theorem readBinary_message {x : Single} (h : x.isNaN = false) :
    Numeral.readBinary .binary32 (message.text x) = .ok x := by
  rcases x.cases_magnitude with hx | hx | hx
  · rw [h] at hx
    cases hx
  · rw [hx]
    cases x.negative <;> rfl
  · rw [message_text_of_finite hx, Numeral.readBinary_number, h]
    rfl

theorem message_texts_injective {xs ys : List Single} (hx : ∀ x ∈ xs, x.isNaN = false)
    (hy : ∀ y ∈ ys, y.isNaN = false) (h : xs.map message.text = ys.map message.text) : xs = ys := by
  have hread : ∀ {zs : List Single}, (∀ z ∈ zs, z.isNaN = false) →
      (zs.map message.text).map (Numeral.readBinary .binary32) = zs.map .ok := by
    intro zs hz
    rw [List.map_map]
    exact List.map_congr_left fun z hmem => readBinary_message (hz z hmem)
  have hall := congrArg (List.map (Numeral.readBinary .binary32)) h
  rw [hread hx, hread hy] at hall
  exact List.map_injective_iff.mpr (fun _ _ => Except.ok.inj) hall

end NumberLayout

theorem Text.ofInt_injective {m n : Int32} (h : Text.ofInt m.toInt = Text.ofInt n.toInt) : m = n := by
  have hread : ∀ k : Int32, Numeral.readInt 32 (Text.ofInt k.toInt) = .ok k.toInt := fun k =>
    Numeral.readInt_ofInt (by decide) (Constant.int32_bounds k).1 (Constant.int32_bounds k).2
  have hint := (hread m).symm.trans ((congrArg (Numeral.readInt 32) h).trans (hread n))
  exact Int32.toInt_inj.mp (Except.ok.inj hint)

theorem Text.quote_injective {s t : Text} (h : quote s = quote t) : s = t := by
  have hread := (unquote?_quote s).symm.trans ((congrArg unquote? h).trans (unquote?_quote t))
  exact Option.some.inj hread

namespace Constant

/-! ## Constants in messages -/

def shown (c : Constant) : Text := c.dataType.name ++ " " ++ c.describe

theorem blank_eq : Text.ofString " " = [0x20] := by decide

theorem shown_eq_iff {a b : Constant} :
    a.shown = b.shown ↔ a.dataType = b.dataType ∧ a.describe = b.describe := by
  have hsplit : ∀ c : Constant, Text.splitOn 0x20 c.shown =
      c.dataType.name :: Text.splitOn 0x20 c.describe := by
    intro c
    rw [shown, blank_eq, List.append_assoc]
    exact Literal.splitOn_append c.dataType.blank_not_mem_name c.describe
  constructor
  · intro h
    -- A name of a type has no blank, so it ends at the first one.
    have hparts := congrArg (Text.splitOn 0x20) h
    rw [hsplit a, hsplit b] at hparts
    have ht := DataType.name_injective (List.cons.inj hparts).1
    rw [shown, shown, ht] at h
    exact ⟨ht, List.append_cancel_left h⟩
  · rintro ⟨ht, hd⟩
    rw [shown, shown, ht, hd]

def bracketed (ts : List Text) : Text := "[" ++ Text.join " " ts ++ "]"

theorem bracketed_injective {ss ts : List Text} (hlen : ss.length = ts.length)
    (hs : ∀ t ∈ ss, 0x20 ∉ t) (ht : ∀ t ∈ ts, 0x20 ∉ t) (h : bracketed ss = bracketed ts) :
    ss = ts := by
  have hjoin := List.append_cancel_left (List.append_cancel_right h)
  rw [blank_eq] at hjoin
  cases ss with
  | nil => exact (List.length_eq_zero_iff.mp hlen.symm).symm
  | cons s ss =>
    have hne : ts ≠ [] := by
      rintro rfl
      simp at hlen
    rw [← Literal.splitOn_join_byte (List.cons_ne_nil s ss) hs, hjoin,
      Literal.splitOn_join_byte hne ht]

/-- The constant is no texture and each of its components is a number. -/
structure Showable (c : Constant) : Prop where
  noTexture : c.dataType ≠ .asset
  noNaN : ∀ x ∈ c.components, x.isNaN = false

theorem numbers_injective {xs ys : List Single} (hlen : xs.length = ys.length)
    (hx : ∀ x ∈ xs, x.isNaN = false) (hy : ∀ y ∈ ys, y.isNaN = false)
    (h : bracketed (xs.map NumberLayout.message.text) =
      bracketed (ys.map NumberLayout.message.text)) : xs = ys := by
  have hblank : ∀ zs : List Single, ∀ t ∈ zs.map NumberLayout.message.text, 0x20 ∉ t := by
    intro zs t ht
    obtain ⟨z, _, rfl⟩ := List.mem_map.mp ht
    exact NumberLayout.blank_not_mem_message z
  exact NumberLayout.message_texts_injective hx hy
    (bracketed_injective (by simpa using hlen) (hblank xs) (hblank ys) h)

theorem vector_eq_of_numbers {n : Nat} {v w : Vector Single n}
    (hv : ∀ x ∈ v.toList, x.isNaN = false) (hw : ∀ y ∈ w.toList, y.isNaN = false)
    (h : bracketed (v.toList.map NumberLayout.message.text) =
      bracketed (w.toList.map NumberLayout.message.text)) : v = w :=
  Vector.toList_inj.mp (numbers_injective (by simp) hv hw h)

theorem vector_eq_of_integers {n : Nat} {v w : Vector Int32 n}
    (h : bracketed (v.toList.map fun k => Text.ofInt k.toInt) =
      bracketed (w.toList.map fun k => Text.ofInt k.toInt)) : v = w := by
  have hblank : ∀ u : Vector Int32 n, ∀ t ∈ u.toList.map fun k => Text.ofInt k.toInt, 0x20 ∉ t := by
    intro u t ht
    obtain ⟨k, _, rfl⟩ := List.mem_map.mp ht
    exact fun hb => absurd ((Literal.ofInt_element k.toInt).bytes _ hb) (by decide)
  have htexts := bracketed_injective (by simp) (hblank v) (hblank w) h
  exact Vector.toList_inj.mp (List.map_injective_iff.mpr (fun _ _ => Text.ofInt_injective) htexts)

/-- The constants are one color but for their color spaces. -/
def Recolored (a b : Constant) : Prop :=
  ∃ channels v s t, s ≠ t ∧ a = .color channels v s ∧ b = .color channels v t

theorem eq_or_recolored {a b : Constant} (ha : a.Showable) (hb : b.Showable)
    (ht : a.dataType = b.dataType) (h : a.describe = b.describe) : a = b ∨ Recolored a b := by
  cases a <;> cases b <;> cases ht
  case bool.bool p q =>
    refine .inl (congrArg _ ?_)
    revert h
    cases p <;> cases q <;> decide
  case int.int l v w => exact .inl (congrArg _ (vector_eq_of_integers h))
  case half.half l v w => exact .inl (congrArg _ (vector_eq_of_numbers ha.noNaN hb.noNaN h))
  case float.float l v w => exact .inl (congrArg _ (vector_eq_of_numbers ha.noNaN hb.noNaN h))
  case string.string s t => exact .inl (congrArg _ (Text.quote_injective h))
  case token.token s t => exact .inl (congrArg _ (Text.quote_injective h))
  case asset.asset s t => exact absurd rfl ha.noTexture
  case color.color c v s t w =>
    obtain rfl := vector_eq_of_numbers ha.noNaN hb.noNaN h
    by_cases hst : s = t
    · exact .inl (congrArg _ hst)
    · exact .inr ⟨c, v, s, t, hst, rfl, rfl⟩
  case matrix.matrix o v w => exact .inl (congrArg _ (vector_eq_of_numbers ha.noNaN hb.noNaN h))

/-- Constants that disagree look alike exactly if they are one color in two color spaces. -/
theorem shown_eq_iff_recolored {a b : Constant} (ha : a.Showable) (hb : b.Showable)
    (hne : a.agrees b = false) : a.shown = b.shown ↔ Recolored a b := by
  rw [shown_eq_iff]
  constructor
  · rintro ⟨ht, hd⟩
    refine (eq_or_recolored ha hb ht hd).resolve_left ?_
    rintro rfl
    have hself : a.agrees a = true := by
      rw [agrees_self]
      simpa using ha.noNaN
    rw [hself] at hne
    cases hne
  · rintro ⟨channels, v, s, t, _, rfl, rfl⟩
    exact ⟨rfl, rfl⟩

def red (space : Text) : Constant := (rgb one .zero .zero).withColorSpace space

theorem showable_red (space : Text) : (red space).Showable where
  noTexture := by rintro ⟨⟩
  noNaN x hx := by
    have hall : (red space).components.all (!·.isNaN) = true := rfl
    simpa using List.all_eq_true.mp hall x hx

end Constant

namespace Conflict

def text (name : Text) (first other : Constant) : Text :=
  "parameter " ++ Text.quote name ++ " declared with conflicting defaults " ++ first.shown ++
    " and " ++ other.shown

theorem message_eq (name : Text) (a b : Constant) :
    message ⟨name, some a, some b⟩ = .ok (text name a b) := by
  simp only [message, text, Constant.shown, List.append_assoc]
  rfl

/-- The message of a conflict shows its two defaults, and they look alike exactly if they are one
color in two color spaces. -/
theorem defaults_alike_iff (name : Text) {a b : Constant} (ha : a.Showable) (hb : b.Showable)
    (hne : a.agrees b = false) :
    message ⟨name, some a, some b⟩ = .ok (text name a b) ∧ (a.shown = b.shown ↔ a.Recolored b) :=
  ⟨message_eq name a b, Constant.shown_eq_iff_recolored ha hb hne⟩

theorem reds_alike :
    (Constant.red "lin_srgb").agrees (Constant.red "srgb_texture") = false ∧
      (Constant.red "lin_srgb").shown = (Constant.red "srgb_texture").shown := by
  have hne : (Constant.red "lin_srgb").agrees (Constant.red "srgb_texture") = false := by decide
  have hiff := (defaults_alike_iff [] (Constant.showable_red _) (Constant.showable_red _) hne).2
  exact ⟨hne, hiff.mpr ⟨_, _, _, _, by decide, rfl, rfl⟩⟩

end Conflict
end ShaderGraph
