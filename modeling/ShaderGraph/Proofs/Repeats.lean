import ShaderGraph.Proofs.Uses

/-!
# One parameter read many times

Uses of one name with one and the same default give one entry of that name. They conflict only if
the default differs from itself, which it does when a component of it is not a number; then every
use after the first one is recorded as a conflict, because no conflict equals another.
-/
namespace ShaderGraph

theorem Conflict.agrees_self_of_agrees {k : Conflict} {name : Text} {first : Option Constant}
    {c : Constant} (h : k.agrees ⟨name, first, some c⟩ = true) : c.agrees c = true := by
  simp only [agrees, Bool.and_eq_true] at h
  exact Constant.agree?_trans ((Constant.agree?_comm (some c) k.other).trans h.2) h.2

namespace Collected

theorem Sums.filter_parameters {policy : ParameterPolicy} {uses : List Parameter} {c : Collected}
    (h : Sums policy uses c) (name : Text) :
    c.parameters.filter (·.name = name) = (uses.find? (·.name = name)).toList := by
  rw [← h.first]
  have hnodup := h.nodup
  generalize c.parameters = ps at hnodup
  induction ps with
  | nil => rfl
  | cons p ps ih =>
    obtain ⟨hp, hps⟩ := List.nodup_cons.mp hnodup
    by_cases hname : p.name = name
    · have hnone : ps.filter (·.name = name) = [] := by
        refine List.filter_eq_nil_iff.mpr fun q hq => ?_
        rw [← hname, decide_eq_true_eq]
        exact fun he => hp (List.mem_map.mpr ⟨q, hq, he⟩)
      simp [hname, hnone]
    · simp [hname, ih hps]

theorem add_of_same {found : Collected} {name : Text} {c : Constant}
    (hfirst : found.parameters.find? (·.name = name) = some ⟨name, some c⟩) :
    found.add .strict ⟨name, some c⟩ = if c.agrees c then found
      else { found with conflicts := found.conflicts ++ [⟨name, some c, some c⟩] } := by
  rw [Collected.add, hfirst]
  by_cases hc : c.agrees c = true
  · simp [Constant.agree?, hc]
  · -- No conflict equals the new one, because nothing agrees with its default.
    have hfresh : found.conflicts.any (·.agrees ⟨name, some c, some c⟩) = false :=
      List.any_eq_false.mpr fun k _ hk => hc (Conflict.agrees_self_of_agrees hk)
    simp [Constant.agree?, hc, hfresh]

theorem filter_conflicts_add {found : Collected} {name : Text} {p : Parameter}
    (hp : p.name ≠ name) : (found.add .strict p).conflicts.filter (·.name = name) =
      found.conflicts.filter (·.name = name) := by
  rw [Collected.add]
  split
  · rfl
  · dsimp only
    split
    · rfl
    · simp [hp]

variable {uses : List Parameter} {name : Text} {c : Constant}

theorem find?_of_same (hsame : ∀ p ∈ uses, p.name = name → p.default = some c) :
    uses.find? (·.name = name) =
      if uses.countP (·.name = name) = 0 then none else some ⟨name, some c⟩ := by
  cases hfind : uses.find? (·.name = name) with
  | none => rw [if_pos (List.countP_eq_zero.mpr (List.find?_eq_none.mp hfind))]
  | some p =>
    have hmem := List.mem_of_find?_eq_some hfind
    have hname : p.name = name := by simpa using List.find?_some hfind
    have hpos : 0 < uses.countP (·.name = name) :=
      List.countP_pos_iff.mpr ⟨p, hmem, by simpa using hname⟩
    rw [if_neg hpos.ne', ← hname, ← hsame p hmem hname]

theorem filter_conflicts_of_same (hsame : ∀ p ∈ uses, p.name = name → p.default = some c) :
    (uses.foldl (Collected.add .strict) ⟨[], []⟩).conflicts.filter (·.name = name) =
      List.replicate (if c.agrees c then 0 else uses.countP (·.name = name) - 1)
        ⟨name, some c, some c⟩ := by
  induction uses using List.reverseRecOn with
  | nil => simp
  | append_singleton uses p ih =>
    obtain ⟨hold, hnew⟩ := List.forall_mem_append.mp hsame
    have hfirst := ((sums_foldl .strict uses).first name).trans (find?_of_same hold)
    specialize ih hold
    rw [List.foldl_append, List.foldl_cons, List.foldl_nil, List.countP_append,
      List.countP_singleton]
    generalize uses.foldl (Collected.add .strict) ⟨[], []⟩ = found at ih hfirst ⊢
    by_cases hname : p.name = name
    · have hp : p = ⟨name, some c⟩ := by
        rw [← hname, ← hnew p (List.mem_singleton_self p) hname]
      subst hp
      by_cases hzero : uses.countP (·.name = name) = 0
      · rw [if_pos hzero] at hfirst
        simp [Collected.add, hfirst, ih, hzero]
      · rw [if_neg hzero] at hfirst
        rw [add_of_same hfirst]
        split
        · rename_i hc
          simpa [hc] using ih
        · rename_i hc
          obtain ⟨n, hn⟩ := Nat.exists_eq_add_one_of_ne_zero hzero
          rw [if_neg hc, hn, Nat.add_sub_cancel] at ih
          simp [ih, hn, List.replicate_succ']
    · rw [filter_conflicts_add hname, ih]
      simp [hname]

end Collected

/-- If all uses of a name have the same default, there is one entry of the name, and no conflict of the
name unless a component of the default is NaN. In that case there is one for each use but the first. -/
theorem Network.parameters_of_one_default {net : Network} {roots : List NodeId} {name : Text}
    {c : Constant} (hv : ∀ id, net.Reaches roots id → (net.node? id).isSome = true)
    (hsame : ∀ id n i d, net.Reaches roots id → net.node? id = some n → i ∈ n.inputs →
      i.value.source = .parameter name d → d = some c) :
    ∃ ids collected, net.appendReachable [] roots = .ok ids ∧
      net.parameters .strict roots = .ok collected ∧
      collected.parameters.filter (·.name = name) =
        (if (net.uses ids).countP (·.name = name) = 0 then [] else [⟨name, some c⟩]) ∧
      collected.conflicts.filter (·.name = name) =
        List.replicate (if c.components.any Binary.isNaN then
          (net.uses ids).countP (·.name = name) - 1 else 0) ⟨name, some c, some c⟩ := by
  obtain ⟨ids, hids, horder⟩ := exists_appendReachable hv
  have huses : ∀ p ∈ net.uses ids, p.name = name → p.default = some c := by
    intro p hp hname
    obtain ⟨n, hn, hp⟩ := List.mem_flatMap.mp hp
    obtain ⟨id, hid, hnode⟩ := List.mem_filterMap.mp hn
    obtain ⟨i, hi, hs⟩ := Node.mem_parameters.mp hp
    exact hsame id n i p.default ((horder.mem_iff id).mp hid) hnode hi (hname ▸ hs)
  refine ⟨ids, _, hids, parameters_eq_foldl hids .strict, ?_, ?_⟩
  · rw [(Collected.sums_foldl .strict _).filter_parameters, Collected.find?_of_same huses]
    split <;> rfl
  · rw [Collected.filter_conflicts_of_same huses, Constant.agrees_self]
    cases c.components.any Binary.isNaN <;> rfl

def undecidedCalls : List Call :=
  [.node "Blend" [numbered "a" .nan, numbered "b" .nan, numbered "c" .nan]
    [⟨"out", DataType.token⟩]]

theorem undecided_conflicts : ∃ collected,
    (Network.after undecidedCalls).parameters .strict [1] = .ok collected ∧
    collected.parameters.filter (·.name = Text.ofString "glow") =
      [⟨"glow", some (.float .one #v[.nan])⟩] ∧
    collected.conflicts.filter (·.name = Text.ofString "glow") =
      List.replicate 2 ⟨"glow", some (.float .one #v[.nan]), some (.float .one #v[.nan])⟩ := by
  have hroots : ∀ r ∈ [1], ((Network.after undecidedCalls).node? r).isSome = true := by
    decide +kernel
  have hreads : ∀ n ∈ (Network.after undecidedCalls).nodes, ∀ i ∈ n.inputs,
      i.value.source = .parameter "glow" (some (.float .one #v[.nan])) := by decide +kernel
  obtain ⟨ids, collected, hids, hc, hparameters, hconflicts⟩ :=
    Network.parameters_of_one_default
      (fun _ => (Network.sound_after undecidedCalls).isSome_of_reaches hroots)
      fun _ n i _ _ hn hi hs => ((Source.parameter.inj
        ((hreads n (Network.mem_nodes_of_node? hn) i hi).symm.trans hs)).2).symm
  have hone : (Network.after undecidedCalls).appendReachable [] [1] = .ok [1] := by decide +kernel
  obtain rfl : ids = [1] := Except.ok.inj (hids.symm.trans hone)
  have hcount : ((Network.after undecidedCalls).uses [1]).countP
      (·.name = Text.ofString "glow") = 3 := by decide +kernel
  have hnan : (Constant.float .one #v[.nan]).components.any Binary.isNaN = true := by
    decide +kernel
  rw [hcount] at hparameters hconflicts
  rw [if_pos hnan] at hconflicts
  exact ⟨collected, hc, hparameters, hconflicts⟩

end ShaderGraph
