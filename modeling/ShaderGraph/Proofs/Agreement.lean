import ShaderGraph.Constant.Basic
import Mathlib.Data.List.Forall2

/-!
# Agreement of constants

Agreement is numeric equality: it is symmetric and transitive, and it fails to be reflexive only
because a number that is not one differs from itself.
-/
namespace ShaderGraph

theorem Binary.equals_comm {f : Format} (x y : Binary f) : x.equals y = y.equals x := by
  rw [Bool.eq_iff_iff]
  simp only [Binary.equals, Binary.isNaN, Binary.isZero, Bool.and_eq_true, Bool.or_eq_true,
    beq_iff_eq, Bool.not_eq_true']
  constructor
  · rintro ⟨⟨⟨hx, hy⟩, hm⟩, hs⟩
    exact ⟨⟨⟨hy, hx⟩, hm.symm⟩, hs.imp Eq.symm fun hz => hm ▸ hz⟩
  · rintro ⟨⟨⟨hy, hx⟩, hm⟩, hs⟩
    exact ⟨⟨⟨hx, hy⟩, hm.symm⟩, hs.imp Eq.symm fun hz => hm ▸ hz⟩

theorem Binary.equals_trans {f : Format} {x y z : Binary f} (hxy : x.equals y = true)
    (hyz : y.equals z = true) : x.equals z = true := by
  simp only [Binary.equals, Binary.isNaN, Binary.isZero, Bool.and_eq_true, Bool.or_eq_true,
    beq_iff_eq, Bool.not_eq_true'] at hxy hyz ⊢
  obtain ⟨⟨⟨hx, _⟩, hm⟩, hs⟩ := hxy
  obtain ⟨⟨⟨_, hz⟩, hm'⟩, hs'⟩ := hyz
  refine ⟨⟨⟨hx, hz⟩, hm.trans hm'⟩, ?_⟩
  rcases hs with hs | hs
  · exact hs'.imp (hs.trans ·) fun h => hm.trans h
  · exact Or.inr hs

theorem Binary.equals_self {f : Format} (x : Binary f) : x.equals x = !x.isNaN := by
  simp [Binary.equals]

theorem Binary.isNaN_ofRatio {f : Format} (negative : Bool) (num den : Nat) :
    (ofRatio negative num den : Binary f).isNaN = false := by
  have hle : f.nearest num den ≤ f.infinity := by
    rw [Format.nearest]
    split
    · exact Nat.zero_le _
    · exact Nat.min_le_left _ _
  exact decide_eq_false (Nat.not_lt.mpr hle)

theorem Binary.isNaN_ofInt {f : Format} (n : Int) : (ofInt n : Binary f).isNaN = false :=
  isNaN_ofRatio _ _ _

namespace Constant

theorem equalComponents_iff {xs ys : List Single} :
    equalComponents xs ys = true ↔ List.Forall₂ (fun x y => x.equals y = true) xs ys := by
  rw [equalComponents, List.forall₂_iff_zip, Bool.and_eq_true, beq_iff_eq, List.all_eq_true]
  simp

theorem equalComponents_comm (xs ys : List Single) :
    equalComponents xs ys = equalComponents ys xs := by
  rw [Bool.eq_iff_iff, equalComponents_iff, equalComponents_iff]
  constructor
  · exact fun h => h.flip.imp fun _ _ hxy => by rwa [Binary.equals_comm]
  · exact fun h => h.flip.imp fun _ _ hxy => by rwa [Binary.equals_comm]

theorem equalComponents_trans {xs ys zs : List Single} (hxy : equalComponents xs ys = true)
    (hyz : equalComponents ys zs = true) : equalComponents xs zs = true := by
  rw [equalComponents_iff] at *
  induction hxy generalizing zs with
  | nil => exact hyz
  | cons hx _ ih =>
    cases hyz with
    | cons hy hrest => exact .cons (Binary.equals_trans hx hy) (ih hrest)

theorem agrees_comm (a b : Constant) : a.agrees b = b.agrees a := by
  cases a <;> cases b <;> simp [agrees, equalComponents_comm, Bool.beq_comm]

theorem agrees_trans {a b c : Constant} (hab : a.agrees b = true) (hbc : b.agrees c = true) :
    a.agrees c = true := by
  -- Only constants of one kind agree, so one case is left for each kind.
  cases a <;> cases b <;>
    simp only [agrees, Bool.false_eq_true, Bool.and_eq_true, beq_iff_eq] at hab <;>
    cases c <;> simp only [agrees, Bool.false_eq_true, Bool.and_eq_true, beq_iff_eq] at hbc ⊢
  case bool => exact hab.trans hbc
  case int => exact ⟨hab.1.trans hbc.1, hab.2.trans hbc.2⟩
  case half => exact ⟨hab.1.trans hbc.1, equalComponents_trans hab.2 hbc.2⟩
  case float => exact ⟨hab.1.trans hbc.1, equalComponents_trans hab.2 hbc.2⟩
  case string => exact hab.trans hbc
  case token => exact hab.trans hbc
  case asset => exact hab.trans hbc
  case color =>
    exact ⟨⟨hab.1.1.trans hbc.1.1, equalComponents_trans hab.1.2 hbc.1.2⟩, hab.2.trans hbc.2⟩
  case matrix => exact ⟨hab.1.trans hbc.1, equalComponents_trans hab.2 hbc.2⟩

theorem agree?_comm (a b : Option Constant) : agree? a b = agree? b a := by
  cases a <;> cases b <;> simp [agree?, agrees_comm]

theorem agree?_trans {a b c : Option Constant} (hab : agree? a b = true)
    (hbc : agree? b c = true) : agree? a c = true := by
  cases a <;> cases b <;> cases c <;> simp only [agree?, Bool.false_eq_true] at hab hbc ⊢
  exact agrees_trans hab hbc

theorem equalComponents_self (xs : List Single) :
    equalComponents xs xs = !xs.any Binary.isNaN := by
  rw [Bool.eq_iff_iff, equalComponents_iff, List.forall₂_same]
  simp [Binary.equals_self]

theorem agrees_self (c : Constant) : c.agrees c = !c.components.any Binary.isNaN := by
  cases c with
  | bool b =>
    have hone : one.isNaN = false := Binary.isNaN_ofInt 1
    have hzero : (.zero : Single).isNaN = false := by decide
    cases b <;> simp [agrees, components, hone, hzero]
  | int l v =>
    have hnone : (components (.int l v)).any Binary.isNaN = false := by
      rw [List.any_eq_false]
      intro x hx
      obtain ⟨n, _, rfl⟩ := List.mem_map.mp hx
      simp [Binary.isNaN_ofInt]
    simp [agrees, hnone]
  | half l v => simp [agrees, components, equalComponents_self]
  | float l v => simp [agrees, components, equalComponents_self]
  | string s => simp [agrees, components]
  | token s => simp [agrees, components]
  | asset s => simp [agrees, components]
  | color ch v s => simp [agrees, components, equalComponents_self]
  | matrix o v => simp [agrees, components, equalComponents_self]

end Constant
end ShaderGraph
