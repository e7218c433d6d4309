import ShaderGraph.Network.Basic
import Mathlib.Logic.Relation
import Mathlib.Order.Lattice.Nat

/-!
# Paths along inputs

The relation between nodes that the inputs of a network define, its closure from a set of roots, and
the length of a shortest path. Nothing here depends on how a network is walked.
-/
namespace ShaderGraph

theorem Value.node?_eq_some {v : Value} {id : NodeId} :
    v.node? = some id ↔ ∃ slot, v.source = .node id slot := by
  obtain ⟨type, source⟩ := v
  cases source <;> simp [Value.node?]

theorem Node.mem_sources {n : Node} {id : NodeId} :
    id ∈ n.sources ↔ ∃ i ∈ n.inputs, ∃ slot, i.value.source = .node id slot := by
  simp only [Node.sources, List.mem_filterMap, Value.node?_eq_some]

namespace Network

def Reads (net : Network) (a b : NodeId) : Prop := ∃ n, net.node? a = some n ∧ b ∈ n.sources

def Reaches (net : Network) (roots : List NodeId) (id : NodeId) : Prop :=
  ∃ r ∈ roots, Relation.ReflTransGen net.Reads r id

def ReachesIn (net : Network) (roots : List NodeId) : Nat → NodeId → Prop
  | 0, id => id ∈ roots
  | k + 1, id => ∃ a, net.ReachesIn roots k a ∧ net.Reads a id

noncomputable def distance (net : Network) (roots : List NodeId) (id : NodeId) : Nat :=
  sInf {k | net.ReachesIn roots k id}

variable {net : Network} {roots : List NodeId}

theorem Reaches.root {id : NodeId} (h : id ∈ roots) : net.Reaches roots id := ⟨id, h, .refl⟩

theorem Reaches.step {a b : NodeId} (h : net.Reaches roots a) (hab : net.Reads a b) :
    net.Reaches roots b := by
  obtain ⟨r, hr, hra⟩ := h
  exact ⟨r, hr, hra.tail hab⟩

theorem Reaches.induction {P : NodeId → Prop} (root : ∀ r ∈ roots, P r)
    (step : ∀ a b, P a → net.Reads a b → P b) {id : NodeId} (h : net.Reaches roots id) : P id := by
  obtain ⟨r, hr, hra⟩ := h
  induction hra with
  | refl => exact root r hr
  | tail _ hab ih => exact step _ _ ih hab

theorem reaches_iff_reachesIn {id : NodeId} :
    net.Reaches roots id ↔ ∃ k, net.ReachesIn roots k id := by
  constructor
  · intro h
    refine h.induction (P := fun id => ∃ k, net.ReachesIn roots k id) (fun r hr => ⟨0, hr⟩) ?_
    rintro a b ⟨k, hk⟩ hab
    exact ⟨k + 1, a, hk, hab⟩
  · rintro ⟨k, hk⟩
    induction k generalizing id with
    | zero => exact .root hk
    | succ k ih =>
      obtain ⟨a, ha, hab⟩ := hk
      exact (ih ha).step hab

theorem distance_le {k : Nat} {id : NodeId} (h : net.ReachesIn roots k id) :
    net.distance roots id ≤ k := Nat.sInf_le h

theorem reachesIn_distance {id : NodeId} (h : net.Reaches roots id) :
    net.ReachesIn roots (net.distance roots id) id := Nat.sInf_mem (reaches_iff_reachesIn.mp h)

theorem Reaches.mono {roots' : List NodeId} (hr : ∀ r ∈ roots, r ∈ roots') {id : NodeId}
    (h : net.Reaches roots id) : net.Reaches roots' id := by
  obtain ⟨r, hmem, hra⟩ := h
  exact ⟨r, hr r hmem, hra⟩

def ReachesFrom (net : Network) (values : List Value) (id : NodeId) : Prop :=
  net.Reaches (values.filterMap Value.node?) id

def Occurs (net : Network) (values : List Value) (v : Value) : Prop :=
  v ∈ values ∨
    ∃ id n i, net.ReachesFrom values id ∧ net.node? id = some n ∧ i ∈ n.inputs ∧ i.value = v

theorem ReachesFrom.mono {values values' : List Value} (hv : ∀ v ∈ values, v ∈ values')
    {id : NodeId} (h : net.ReachesFrom values id) : net.ReachesFrom values' id := by
  refine Reaches.mono (fun r hr => ?_) h
  obtain ⟨v, hm, hn⟩ := List.mem_filterMap.mp hr
  exact List.mem_filterMap.mpr ⟨v, hv v hm, hn⟩

theorem Occurs.mono {values values' : List Value} (hv : ∀ v ∈ values, v ∈ values') {v : Value}
    (h : net.Occurs values v) : net.Occurs values' v := by
  rcases h with h | ⟨id, n, i, hr, hn, hi, he⟩
  · exact Or.inl (hv v h)
  · exact Or.inr ⟨id, n, i, hr.mono hv, hn, hi, he⟩

theorem Occurs.reaches {values : List Value} {v : Value} {id : NodeId} {slot : Text}
    (h : net.Occurs values v) (hs : v.source = .node id slot) : net.ReachesFrom values id := by
  rcases h with hv | ⟨a, n, i, hr, hn, hi, rfl⟩
  · exact .root (List.mem_filterMap.mpr ⟨v, hv, Value.node?_eq_some.mpr ⟨slot, hs⟩⟩)
  · exact Reaches.step hr ⟨n, hn, Node.mem_sources.mpr ⟨i, hi, slot, hs⟩⟩

theorem Occurs.trans {values : List Value} {v w : Value} (h : net.Occurs values v)
    (hw : net.Occurs [v] w) : net.Occurs values w := by
  rcases hw with hw | ⟨id, n, i, ⟨r, hr, hpath⟩, hn, hi, he⟩
  · rwa [List.mem_singleton.mp hw]
  · obtain ⟨u, hu, hnode⟩ := List.mem_filterMap.mp hr
    obtain ⟨slot, hs⟩ := Value.node?_eq_some.mp (List.mem_singleton.mp hu ▸ hnode)
    obtain ⟨root, hroot, hup⟩ := h.reaches hs
    exact Or.inr ⟨id, n, i, ⟨root, hroot, hup.trans hpath⟩, hn, hi, he⟩

theorem reachesFrom_iff {values : List Value} {id : NodeId} :
    net.ReachesFrom values id ↔ ∃ v ∈ values, net.ReachesFrom [v] id := by
  constructor
  · rintro ⟨r, hr, hra⟩
    obtain ⟨v, hv, hn⟩ := List.mem_filterMap.mp hr
    exact ⟨v, hv, r, List.mem_filterMap.mpr ⟨v, List.mem_singleton_self v, hn⟩, hra⟩
  · rintro ⟨v, hv, h⟩
    exact h.mono fun w hw => List.mem_singleton.mp hw ▸ hv

theorem reachesFrom_congr {values values' : List Value} (hv : ∀ v, v ∈ values ↔ v ∈ values')
    {id : NodeId} : net.ReachesFrom values id ↔ net.ReachesFrom values' id :=
  ⟨.mono fun v => (hv v).mp, .mono fun v => (hv v).mpr⟩

theorem occurs_congr {values values' : List Value} (hv : ∀ v, v ∈ values ↔ v ∈ values')
    {v : Value} : net.Occurs values v ↔ net.Occurs values' v :=
  ⟨.mono fun v => (hv v).mp, .mono fun v => (hv v).mpr⟩

end Network
end ShaderGraph
