import Mathlib.Logic.Equiv.Basic
import ShaderGraph.Proofs.Calls
import ShaderGraph.Proofs.Embedding

/-!
# Handles of nodes are only names

If a permutation of handles takes one network to another, each is embedded in the other one. So a
compilation comes to the same in both: the same problems, or one document in which the blocks and the
paths have the names of the permuted handles.
-/
namespace ShaderGraph

/-- The second network is the first one with its nodes renamed. Graphs keep their handles. -/
structure Network.Renamed (σ : Equiv.Perm NodeId) (net net' : Network) : Prop where
  nodes : ∀ id, net'.node? (σ id) = (net.node? id).map (Node.rename σ)
  graphs : net'.graphs = net.graphs.map (NodeGraph.rename σ)

namespace Network.Renamed

variable {σ : Equiv.Perm NodeId} {net net' : Network}

theorem graph? (h : net.Renamed σ net') (k : GraphId) :
    net'.graph? k = (net.graph? k).map (NodeGraph.rename σ) := by
  cases k with
  | zero => rfl
  | succ k => rw [Network.graph?, h.graphs, List.getElem?_map]; rfl

theorem embeds (h : net.Renamed σ net') (listed : List GraphId) : net.Embeds σ listed net' := by
  refine ⟨σ.injective, fun id n hn => ?_, fun k g hg => ?_, fun k _ g hg => ?_⟩
  · rw [h.nodes, hn, Option.map_some]
  · exact ⟨g.rename σ, by rw [h.graph?, hg, Option.map_some], rfl⟩
  · rw [h.graph?, hg, Option.map_some]

theorem symm (h : net.Renamed σ net') : net'.Renamed σ.symm net := by
  have hnode : ∀ n : Node, (n.rename σ).rename σ.symm = n := by
    intro n
    rw [n.rename_rename]
    exact n.rename_eq_self σ.symm_apply_apply
  have hgraph : ∀ g : NodeGraph, (g.rename σ).rename σ.symm = g := by
    intro g
    rw [g.rename_rename]
    exact g.rename_eq_self σ.symm_apply_apply
  constructor
  · intro id
    have hid := h.nodes (σ.symm id)
    rw [σ.apply_symm_apply] at hid
    rw [hid, Option.map_map]
    simp [Function.comp_def, hnode]
  · rw [h.graphs, List.map_map]
    simp [Function.comp_def, hgraph]

end Network.Renamed

namespace Stage

variable {σ : Equiv.Perm NodeId} {net net' : Network}

theorem compile_renamed (h : net.Renamed σ net') (settings : Settings) (mat : Material) :
    (∃ m m', m.Dangling ∧ m'.Dangling ∧ compile settings net mat = .error (.misuse m) ∧
      compile settings net' (mat.rename σ) = .error (.misuse m')) ∨
    compile settings net' (mat.rename σ) = (compile settings net mat).map (Compiled.rename σ) := by
  rcases compile_carried (h.embeds mat.nodeGraphs) settings with ⟨m, hm, hc⟩ | hc
  · -- The other network is embedded in this one and has no other outcome than this one.
    have hback : (mat.rename σ).rename σ.symm = mat := by
      rw [Material.rename_rename]
      exact mat.rename_eq_self σ.symm_apply_apply
    have hembeds : net'.Embeds σ.symm (mat.rename σ).nodeGraphs net := h.symm.embeds mat.nodeGraphs
    have hback' := compile_carried hembeds settings
    rw [hback, hc] at hback'
    left
    rcases hback' with ⟨m', hm', hc'⟩ | he
    · exact ⟨m, m', hm, hm', hc, hc'⟩
    · refine ⟨m, m, hm, hm, hc, ?_⟩
      cases hc' : compile settings net' (mat.rename σ) with
      | error e =>
        rw [hc'] at he
        rw [Except.error.inj he]
      | ok c =>
        rw [hc'] at he
        cases he
  · exact Or.inr hc

/-- Renaming the nodes of a network and of a material changes nothing but names in the text. The same
problems are found, or the same textures are bound and the same document is written with the name of
each node replaced by the name of its image. Otherwise both networks are misused, in the same way or
both by handles that lead nowhere. -/
theorem appendLines_renamed (settings : Settings) (dst : List Text) (h : net.Renamed σ net')
    (mat : Material) :
    (∃ c, compile settings net mat = .ok c ∧
      appendLines settings dst net mat =
        .ok ⟨dst ++ c.document.linesBy nodeName, c.textures, none⟩ ∧
      appendLines settings dst net' (mat.rename σ) =
        .ok ⟨dst ++ c.document.linesBy (fun id => nodeName (σ id)), c.textures, none⟩) ∨
    (∃ e, appendLines settings dst net mat = .ok ⟨dst, [], some e⟩ ∧
      appendLines settings dst net' (mat.rename σ) = .ok ⟨dst, [], some e⟩) ∨
    ∃ m m', (m = m' ∨ m.Dangling ∧ m'.Dangling) ∧ appendLines settings dst net mat = .error m ∧
      appendLines settings dst net' (mat.rename σ) = .error m' := by
  rcases compile_renamed h settings mat with ⟨m, m', hm, hm', hc, hc'⟩ | hc'
  · right; right
    exact ⟨m, m', Or.inr ⟨hm, hm'⟩, by rw [appendLines, hc], by rw [appendLines, hc']⟩
  · rw [appendLines, appendLines, hc']
    cases compile settings net mat with
    | ok c =>
      left
      refine ⟨c, rfl, rfl, ?_⟩
      have hlines : (c.rename σ).lines = c.document.linesBy (fun id => nodeName (σ id)) :=
        c.document.lines_rename σ
      rw [← hlines]
      rfl
    | error e =>
      cases e with
      | emptyName => exact Or.inr (Or.inl ⟨.emptyName, rfl, rfl⟩)
      | faults messages => exact Or.inr (Or.inl ⟨.faults messages, rfl, rfl⟩)
      | misuse m => exact Or.inr (Or.inr ⟨m, m, Or.inl rfl, rfl, rfl⟩)

def pulseCalls (first second : Call) (time sine : NodeId) : List Call :=
  [first, second,
   .arithmetic .add ⟨DataType.scalarFloat, .node time "out"⟩ ⟨DataType.scalarFloat, .node sine "out"⟩,
   .unlitSurface .absent ⟨DataType.scalarFloat, .node 3 "out"⟩]

def sineCall : Call := .sin (.ofConstant (.scalar Constant.one))

def pulse : Network := .after (pulseCalls .time sineCall 1 2)

def pulse' : Network := .after (pulseCalls sineCall .time 2 1)

def pulseMaterial : Material := ⟨"Pulse", ⟨DataType.token, .node 4 "out"⟩, .absent, []⟩

theorem pulse_renamed : pulse.Renamed (Equiv.swap 1 2) pulse' := by
  refine ⟨fun (id : Nat) => ?_, by decide +kernel⟩
  have hlength : pulse.nodes.length = 4 ∧ pulse'.nodes.length = 4 := by decide +kernel
  rcases Nat.lt_or_ge id 5 with hlt | hge
  · have hsmall : ∀ k < 5, pulse'.node? (Equiv.swap 1 2 k) =
        (pulse.node? k).map (Node.rename (Equiv.swap 1 2)) := by decide +kernel
    exact hsmall id hlt
  · obtain ⟨k, rfl⟩ : ∃ k : Nat, id = k + 5 := ⟨id - 5, by omega⟩
    have hne : k + 5 ≠ 1 ∧ k + 5 ≠ 2 := by omega
    rw [Equiv.swap_apply_of_ne_of_ne hne.1 hne.2, Network.node?, Network.node?,
      List.getElem?_eq_none (by omega), List.getElem?_eq_none (by omega), Option.map_none]

theorem pulse_appendLines : pulse.Renamed (Equiv.swap 1 2) pulse' ∧
    ∃ c : Compiled, appendLines .standard [] pulse pulseMaterial =
        .ok ⟨c.document.linesBy nodeName, c.textures, none⟩ ∧
      appendLines .standard [] pulse' (pulseMaterial.rename (Equiv.swap 1 2)) =
        .ok ⟨c.document.linesBy (fun id => nodeName (Equiv.swap 1 2 id)), c.textures, none⟩ := by
  have hok : (appendLines .standard [] pulse pulseMaterial).toOption.map (·.error) = some none := by
    decide +kernel
  refine ⟨pulse_renamed, ?_⟩
  rcases appendLines_renamed .standard [] pulse_renamed pulseMaterial with
    ⟨c, _, h, h'⟩ | ⟨e, h, _⟩ | ⟨m, _, _, h, _⟩
  · exact ⟨c, h, h'⟩
  · rw [h] at hok
    cases hok
  · rw [h] at hok
    cases hok

end Stage
end ShaderGraph
