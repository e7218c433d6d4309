import Mathlib.Logic.Equiv.Defs
import ShaderGraph.Proofs.Relabel
import ShaderGraph.Proofs.Reload

/-!
# Loads up to the handles of nodes

Two loads are isomorphic if a permutation of the handles takes the one to the other. Whatever has a
chart loads, up to such a permutation.
-/
namespace ShaderGraph

namespace Blueprint

/-- The second load is the first one with its nodes renamed. Graphs keep their handles, their inputs
and their order. -/
structure Loaded.Renamed (ρ : NodeId → NodeId) (l l' : Loaded) : Prop where
  nodes : ∀ id, l'.network.node? (ρ id) = (l.network.node? id).map (Node.rename ρ)
  graphs : l'.network.graphs = l.network.graphs.map (NodeGraph.rename ρ)
  materials : l'.materials = l.materials.map (Stage.Material.rename ρ)

def Loaded.Isomorphic (l l' : Loaded) : Prop := ∃ ρ : Equiv.Perm NodeId, l.Renamed ρ l'

end Blueprint

/-! ## Orders as permutations -/

def place (order : List NodeId) : NodeId → NodeId
  | 0 => 0
  | k + 1 => order[k]?.getD (k + 1)

variable {order : List NodeId}

theorem Places.place_eq {id' id : NodeId} (h : Places order id' id) : place order id' = id := by
  cases id' with
  | zero => exact h.elim
  | succ k =>
    have hk : order[k]? = some id := h
    rw [place, hk, Option.getD_some]

theorem place_of_length_lt {id : Nat} (h : order.length < id) : place order id = id := by
  cases id with
  | zero => rfl
  | succ k => rw [place, List.getElem?_eq_none (Nat.le_of_lt_succ h), Option.getD_none]

theorem perm_range'_of_nodup (hnodup : order.Nodup) (hpos : ∀ id ∈ order, 0 < id)
    (hle : ∀ id ∈ order, id ≤ order.length) : order.Perm (List.range' 1 order.length) := by
  have hsub : order ⊆ List.range' 1 order.length := by
    intro id hid
    exact List.mem_range'_1.mpr ⟨hpos id hid, Nat.lt_one_add_iff.mpr (hle id hid)⟩
  exact (List.subperm_of_subset hnodup hsub).perm_of_length_le (by simp)

theorem place_cases (order : List NodeId) (id' : Nat) :
    place order id' = id' ∧ (id' = 0 ∨ order.length < id') ∨
    Places order id' (place order id') := by
  by_cases hin : 0 < id' ∧ id' ≤ order.length
  · obtain ⟨id, hid⟩ := Places.exists_of_le hin.1 hin.2
    rw [hid.place_eq]
    exact Or.inr hid
  · rcases Nat.eq_zero_or_pos id' with rfl | hpos
    · exact Or.inl ⟨rfl, Or.inl rfl⟩
    · have hlt : order.length < id' := by omega
      exact Or.inl ⟨place_of_length_lt hlt, Or.inr hlt⟩

theorem place_bijective (hnodup : order.Nodup) (hpos : ∀ id ∈ order, 0 < id)
    (hle : ∀ id ∈ order, id ≤ order.length) : Function.Bijective (place order) := by
  have hfree : ∀ id : Nat, (id = 0 ∨ order.length < id) → id ∉ order := by
    intro id hid hmem
    have h₁ : 0 < id := hpos id hmem
    have h₂ : id ≤ order.length := hle id hmem
    omega
  constructor
  · intro x y hxy
    rcases place_cases order x with ⟨hx, hout⟩ | hx <;>
      rcases place_cases order y with ⟨hy, hout'⟩ | hy
    · exact hx.symm.trans (hxy.trans hy)
    · exact absurd hy.mem (by rw [← hxy, hx]; exact hfree x hout)
    · exact absurd hx.mem (by rw [hxy, hy]; exact hfree y hout')
    · rw [hxy] at hx
      exact hx.injective hnodup hy
  · intro (id : Nat)
    by_cases hmem : id ∈ order
    · obtain ⟨id', hid'⟩ := Places.exists_of_mem hmem
      exact ⟨id', hid'.place_eq⟩
    · have hout : id = 0 ∨ order.length < id := by
        have hrange := mt (perm_range'_of_nodup hnodup hpos hle).mem_iff.mpr hmem
        rw [List.mem_range'_1] at hrange
        omega
      rcases hout with rfl | hlt
      · exact ⟨0, rfl⟩
      · exact ⟨id, place_of_length_lt hlt⟩

/-! ## What has moved is renamed -/

theorem Value.Moves.rename_eq {v' v : Value} (h : v'.Moves order v) :
    v'.rename (place order) = v := by
  obtain ⟨type', source'⟩ := v'
  obtain ⟨type, source⟩ := v
  obtain rfl : type = type' := h.type
  have hs := h.source
  cases source' with
  | node id' slot =>
    obtain ⟨id, hid, rfl⟩ := hs
    simp [Value.rename, Source.rename, hid.place_eq]
  | _ =>
    obtain rfl : source = _ := hs
    rfl

theorem map_eq_of_forall₂_eq {α β : Type} {f : α → β} {xs : List α} {ys : List β}
    (h : List.Forall₂ (fun x y => f x = y) xs ys) : xs.map f = ys :=
  (Blueprint.map_eq_of_forall₂ (g := id) h).trans (List.map_id ys)

theorem Node.Moves.rename_eq {n' n : Node} (h : n'.Moves order n) (hid : Places order n'.id n.id) :
    n'.rename (place order) = n := by
  have hinputs : n'.inputs.map (Input.rename (place order)) = n.inputs := by
    refine map_eq_of_forall₂_eq (h.inputs.imp fun i' i hi => ?_)
    rw [Input.rename, hi.value.rename_eq, ← hi.name, ← hi.type]
  rw [Node.rename, hid.place_eq, hinputs, ← h.type, ← h.outputs, ← h.graph]

theorem NodeGraph.Moves.rename_eq {g' g : NodeGraph} (h : g'.Moves order g) (hid : g'.id = g.id) :
    g'.rename (place order) = g := by
  have houtputs : g'.outputs.map (GraphOutput.rename (place order)) = g.outputs := by
    refine map_eq_of_forall₂_eq (h.outputs.imp fun o' o ho => ?_)
    rw [GraphOutput.rename, ho.value.rename_eq, ← ho.name]
  rw [NodeGraph.rename, hid, houtputs, ← h.name, ← h.inputs]

theorem Network.node?_eq_none {net : Network} {id : Nat} (h : id = 0 ∨ net.nodes.length < id) :
    net.node? id = none := by
  cases id with
  | zero => rfl
  | succ k => exact List.getElem?_eq_none (by omega)

namespace Blueprint

theorem Material.Moves.rename_eq {mat' mat : Stage.Material} (h : Material.Moves order mat' mat) :
    mat'.rename (place order) = mat := by
  rw [Stage.Material.rename, h.surface.rename_eq, h.geometryModifier.rename_eq, ← h.name,
    ← h.nodeGraphs]

/-- A blueprint that has a chart loads, with its nodes in an order of its own. -/
theorem Chart.exists_isomorphic {bp : Blueprint} {base : Text} {l : Loaded}
    {parameters : List (Text × Constant)} {high : Nat} {handle : Text → Option NodeId}
    (h : Chart bp base l parameters high handle) :
    ∃ l', load bp base = .ok l' ∧ l'.Isomorphic l := by
  obtain ⟨l', order, hload, hs', htracks, hgraphs, hnodes, hle, hmaterials⟩ := h.exists_load
  have hlength : order.length = l.network.nodes.length := htracks.length.trans hnodes
  have hpos : ∀ id ∈ order, 0 < id := by
    intro id hid
    obtain ⟨id', hplace⟩ := Places.exists_of_mem hid
    obtain ⟨_, n, _, hn, _⟩ := htracks.node hplace
    exact Nat.pos_of_ne_zero fun h => by simp [h, Network.node?] at hn
  have hrenamed : l'.Renamed (place order) l := by
    refine ⟨fun id' => ?_, ?_, ?_⟩
    · rcases place_cases order id' with ⟨hid', hout⟩ | hplace
      · -- There is no such node in either network.
        rw [hid', Network.node?_eq_none (hlength ▸ hout),
          Network.node?_eq_none (htracks.length ▸ hout), Option.map_none]
      · obtain ⟨n', n, hn', hn, hmoves⟩ := htracks.node hplace
        rw [hn', hn, Option.map_some, hmoves.rename_eq]
        rwa [hs'.id_of_node? hn', h.sound.id_of_node? hn]
    · refine (map_eq_of_forall₂_eq (List.forall₂_iff_get.mpr ⟨hgraphs, fun k hk' hk => ?_⟩)).symm
      obtain ⟨g', g, hg', hg, hmoves⟩ := htracks.graph (Nat.succ_pos k) hk
      have hget' : l'.network.graphs[k] = g' := (List.getElem?_eq_some_iff.mp hg').2
      have hget : l.network.graphs[k] = g := (List.getElem?_eq_some_iff.mp hg).2
      rw [List.get_eq_getElem, List.get_eq_getElem, hget', hget]
      exact hmoves.rename_eq ((hs'.id_of_graph? hg').trans (h.sound.id_of_graph? hg).symm)
    · exact (map_eq_of_forall₂_eq (hmaterials.imp fun _ _ hm => hm.rename_eq)).symm
  exact ⟨l', hload, Equiv.ofBijective _ (place_bijective htracks.nodup hpos hle), hrenamed⟩

end Blueprint

end ShaderGraph
