import ShaderGraph.Number.Numeral
import Mathlib.Data.List.Induction
import Mathlib.Tactic.Ring

/-!
# Decimal digits

The text of a natural number is made of digits, the value of these digits is the number, and their
count is its size. Numbers with the same text are the same, so names made from numbers are distinct.
-/
namespace ShaderGraph.Numeral

theorem digit_spec {d : Nat} (h : d < 10) :
    isDigit (Text.digit d) = true ∧ digitValue (Text.digit d) = d := by
  have hall : ∀ d < 10, isDigit (Text.digit d) = true ∧ digitValue (Text.digit d) = d := by decide
  exact hall d h

theorem ofDigits_concat (ds : List Nat) (d : Nat) :
    ofDigits 10 (ds ++ [d]) = ofDigits 10 ds * 10 + d := by
  simp [ofDigits]

theorem ofDigits_append (ds es : List Nat) :
    ofDigits 10 (ds ++ es) = ofDigits 10 ds * 10 ^ es.length + ofDigits 10 es := by
  induction es using List.reverseRecOn with
  | nil => simp [ofDigits]
  | append_singleton es d ih =>
    rw [← List.append_assoc, ofDigits_concat, ofDigits_concat, ih, List.length_append,
      List.length_singleton, Nat.pow_succ]
    ring

theorem ofDigits_cons (d : Nat) (ds : List Nat) :
    ofDigits 10 (d :: ds) = d * 10 ^ ds.length + ofDigits 10 ds := by
  rw [← List.singleton_append, ofDigits_append]
  simp [ofDigits]

theorem ofDigits_zeros (k : Nat) : ofDigits 10 (List.replicate k 0) = 0 := by
  induction k with
  | zero => rfl
  | succ k ih => rw [List.replicate_succ', ofDigits_concat, ih]

end ShaderGraph.Numeral

namespace ShaderGraph.Text

open Numeral (isDigit digitValue ofDigits)

theorem ofNat_of_lt {n : Nat} (h : n < 10) : ofNat n = [digit n] := by
  rw [ofNat, Nat.toDigits_of_lt_base h]
  rfl

theorem ofNat_of_le {n : Nat} (h : 10 ≤ n) : ofNat n = ofNat (n / 10) ++ [digit (n % 10)] := by
  rw [ofNat, Nat.toDigits_of_base_le (by decide) h, List.map_append]
  rfl

theorem isDigit_of_mem_ofNat (n : Nat) : ∀ b ∈ ofNat n, isDigit b = true := by
  induction n using Nat.strongRecOn with
  | ind n ih =>
    intro b hb
    rcases Nat.lt_or_ge n 10 with h | h
    · rw [ofNat_of_lt h, List.mem_singleton] at hb
      rw [hb]
      exact (Numeral.digit_spec h).1
    · rw [ofNat_of_le h, List.mem_append, List.mem_singleton] at hb
      rcases hb with hb | hb
      · exact ih (n / 10) (by omega) b hb
      · rw [hb]
        exact (Numeral.digit_spec (Nat.mod_lt n (by decide))).1

theorem ofDigits_ofNat (n : Nat) : ofDigits 10 ((ofNat n).map digitValue) = n := by
  induction n using Nat.strongRecOn with
  | ind n ih =>
    rcases Nat.lt_or_ge n 10 with h | h
    · rw [ofNat_of_lt h]
      simp [ofDigits, (Numeral.digit_spec h).2]
    · have hd := (Numeral.digit_spec (Nat.mod_lt n (by decide : 0 < 10))).2
      rw [ofNat_of_le h, List.map_append, List.map_singleton, Numeral.ofDigits_concat, hd,
        ih (n / 10) (by omega)]
      omega

theorem ofNat_ne_nil (n : Nat) : ofNat n ≠ [] := by
  simp [ofNat, Nat.toDigits_ne_nil]

theorem length_ofNat_le_iff {n k : Nat} (hk : 0 < k) : (ofNat n).length ≤ k ↔ n < 10 ^ k := by
  rw [ofNat, List.length_map, Nat.length_toDigits_le_iff (by decide) hk]

end ShaderGraph.Text
