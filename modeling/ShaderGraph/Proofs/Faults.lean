import ShaderGraph.Proofs.Collect
import ShaderGraph.Proofs.Soundness

/-!
# Faults, each reported once

A fault stands at a spot: at a position among the given values, or at a position among the inputs
of a node that they reach. The collected messages answer to the spots one by one. The given values
come first, in their order. The reachable nodes follow, breadth first and each once however many
paths lead to it, with their inputs in order.

Values that reach nothing new and are no faults themselves can change the order in which nodes are
met, and with it the order of the messages, but not the messages.
-/
namespace ShaderGraph

/-! ## Roots that repeat -/

theorem discover_eq_eraseDups (seen ids : List NodeId) :
    discover seen ids = (ids.filter (· ∉ seen)).eraseDups := by
  induction ids generalizing seen with
  | nil => simp [discover]
  | cons a ids ih =>
    rw [discover]
    by_cases ha : a ∈ seen
    · rw [if_pos ha, ih, List.filter_cons_of_neg (by simpa using ha)]
    · rw [if_neg ha, ih, List.filter_cons_of_pos (by simpa using ha), List.eraseDups_cons,
        List.filter_filter]
      congr 3
      funext x
      rw [Bool.eq_iff_iff]
      simp

theorem rootNodes_eq_eraseDups (values : List Value) :
    rootNodes values = (values.filterMap Value.node?).eraseDups := by
  rw [rootNodes, discover_eq_eraseDups, List.filter_eq_self.mpr (by simp)]

theorem Fifo.eraseDups_of_nodup {ids : List NodeId} (h : ids.Nodup) : ids.eraseDups = ids := by
  induction ids with
  | nil => simp
  | cons a ids ih =>
    obtain ⟨ha, hids⟩ := List.nodup_cons.mp h
    have hne : ids.filter (fun b => !b == a) = ids :=
      List.filter_eq_self.mpr fun b hb => by simpa using ne_of_mem_of_not_mem hb ha
    rw [List.eraseDups_cons, hne, ih hids]

theorem Fifo.start_rootNodes (values : List Value) :
    start (rootNodes values) = start (values.filterMap Value.node?) := by
  rw [start_spec, start_spec, rootNodes_eq_eraseDups, eraseDups_of_nodup (nodup_eraseDups _)]

theorem BreadthFirst.of_rootNodes {net : Network} {values : List Value} {ids : List NodeId}
    (h : BreadthFirst net (rootNodes values) ids) :
    BreadthFirst net (values.filterMap Value.node?) ids := by
  obtain ⟨_, hrun⟩ := h.fifo
  rw [Fifo.start_rootNodes] at hrun
  exact (Fifo.breadthFirst_of_run hrun).2

/-! ## Spots -/

inductive Spot where
  | root (position : Nat)
  | input (id : NodeId) (position : Nat)
deriving DecidableEq, Repr

def messageAt? {α : Type} (f : α → Option Text) (xs : List α) (position : Nat) : Option Text :=
  xs[position]?.bind f

theorem filterMap_messageAt? {α : Type} (f : α → Option Text) (xs : List α) :
    (List.range xs.length).filterMap (messageAt? f xs) = xs.filterMap f := by
  induction xs with
  | nil => rfl
  | cons x xs ih =>
    rw [List.length_cons, List.range_succ_eq_map, List.filterMap_cons, List.filterMap_map,
      List.filterMap_cons, ← ih]
    rfl

namespace Network

variable {net : Network} {values : List Value} {ids : List NodeId} {ms : List Text}

/-- The given value at the spot, or the one on an input of a reachable node, is a fault. -/
def FaultAt (net : Network) (values : List Value) : Spot → Text → Prop
  | .root k, m => ∃ v, values[k]? = some v ∧ v.source = .fault m
  | .input id k, m => net.ReachesFrom values id ∧
      ∃ n i, net.node? id = some n ∧ n.inputs[k]? = some i ∧ i.value.source = .fault m

def inputsOf (net : Network) (id : NodeId) : List Input := (net.node? id).elim [] (·.inputs)

def faultAt? (net : Network) (values : List Value) : Spot → Option Text
  | .root k => messageAt? Value.fault? values k
  | .input id k => messageAt? (·.value.fault?) (net.inputsOf id) k

def spots (net : Network) (values : List Value) (ids : List NodeId) : List Spot :=
  (List.range values.length).map .root ++
    ids.flatMap fun id => (List.range (net.inputsOf id).length).map (.input id)

theorem nodup_spots (h : ids.Nodup) : (net.spots values ids).Nodup := by
  refine List.nodup_append.mpr ⟨?_, ?_, ?_⟩
  · exact List.nodup_range.map fun _ _ he => Spot.root.inj he
  · refine List.nodup_flatMap.mpr ⟨fun id _ => ?_, h.imp fun {a b} hab => ?_⟩
    · exact List.nodup_range.map fun _ _ he => (Spot.input.inj he).2
    · intro s hs hs'
      obtain ⟨_, _, rfl⟩ := List.mem_map.mp hs
      obtain ⟨_, _, he⟩ := List.mem_map.mp hs'
      exact hab (Spot.input.inj he).1.symm
  · intro s hs t ht he
    obtain ⟨_, _, rfl⟩ := List.mem_map.mp hs
    obtain ⟨_, _, ht⟩ := List.mem_flatMap.mp ht
    obtain ⟨_, _, rfl⟩ := List.mem_map.mp ht
    cases he

theorem filterMap_spots : (net.spots values ids).filterMap (net.faultAt? values) =
    values.filterMap Value.fault? ++ (ids.filterMap net.node?).flatMap Node.faults := by
  have hroots : ((List.range values.length).map Spot.root).filterMap (net.faultAt? values) =
      values.filterMap Value.fault? := by
    rw [List.filterMap_map, ← filterMap_messageAt? Value.fault? values]
    rfl
  have hinputs : ∀ id, ((List.range (net.inputsOf id).length).map (Spot.input id)).filterMap
      (net.faultAt? values) = ((net.node? id).elim [] Node.faults) := by
    intro id
    rw [List.filterMap_map]
    refine (filterMap_messageAt? (·.value.fault?) (net.inputsOf id)).trans ?_
    rw [inputsOf]
    cases net.node? id <;> rfl
  rw [spots, List.filterMap_append, hroots, List.filterMap_flatMap]
  congr 1
  simp only [hinputs]
  induction ids with
  | nil => rfl
  | cons id ids ih =>
    rw [List.flatMap_cons, ih, List.filterMap_cons]
    cases net.node? id <;> rfl

theorem mem_spots_root {k : Nat} :
    .root k ∈ net.spots values ids ↔ k < values.length := by
  simp [spots]

theorem mem_spots_input {id : NodeId} {k : Nat} :
    .input id k ∈ net.spots values ids ↔ id ∈ ids ∧ k < (net.inputsOf id).length := by
  simp [spots]

theorem inputsOf_eq_some {id : NodeId} {k : Nat} {i : Input} : (net.inputsOf id)[k]? = some i ↔
    ∃ n, net.node? id = some n ∧ n.inputs[k]? = some i := by
  rw [inputsOf]
  cases net.node? id <;> simp

theorem faultAt_iff (hids : ∀ id, id ∈ ids ↔ net.ReachesFrom values id) {s : Spot} {m : Text} :
    net.FaultAt values s m ↔ s ∈ net.spots values ids ∧ net.faultAt? values s = some m := by
  cases s with
  | root k =>
    simp only [FaultAt, faultAt?, messageAt?, Option.bind_eq_some_iff, Value.fault?_eq_some,
      mem_spots_root]
    refine ⟨fun h => ⟨?_, h⟩, And.right⟩
    obtain ⟨v, hv, _⟩ := h
    exact (List.getElem?_eq_some_iff.mp hv).1
  | input id k =>
    simp only [FaultAt, faultAt?, messageAt?, Option.bind_eq_some_iff, Value.fault?_eq_some,
      mem_spots_input, hids, inputsOf_eq_some]
    constructor
    · rintro ⟨hr, n, i, hn, hi, hm⟩
      have hi' := inputsOf_eq_some.mpr ⟨n, hn, hi⟩
      exact ⟨⟨hr, (List.getElem?_eq_some_iff.mp hi').1⟩, i, ⟨n, hn, hi⟩, hm⟩
    · rintro ⟨⟨hr, _⟩, i, ⟨n, hn, hi⟩, hm⟩
      exact ⟨hr, n, i, hn, hi, hm⟩

/-- The messages answer to the spots of faults one by one, and no spot comes twice. -/
theorem exists_faulty_spots (hn : ids.Nodup) (hids : ∀ id, id ∈ ids ↔ net.ReachesFrom values id) :
    ∃ spots : List Spot, spots.Nodup ∧ (∀ s, s ∈ spots ↔ ∃ m, net.FaultAt values s m) ∧
      List.Forall₂ (net.FaultAt values) spots
        (values.filterMap Value.fault? ++ (ids.filterMap net.node?).flatMap Node.faults) := by
  have hfaulty : ∀ l : List Spot, (∀ s ∈ l, s ∈ net.spots values ids) →
      List.Forall₂ (net.FaultAt values) (l.filter fun s => (net.faultAt? values s).isSome)
        (l.filterMap (net.faultAt? values)) := by
    intro l hl
    induction l with
    | nil => exact .nil
    | cons s l ih =>
      have hrest := ih fun t ht => hl t (List.mem_cons_of_mem _ ht)
      cases hs : net.faultAt? values s with
      | none => simpa [hs] using hrest
      | some m =>
        rw [List.filter_cons_of_pos (by simp [hs]), List.filterMap_cons_some hs]
        exact .cons ((faultAt_iff hids).mpr ⟨hl s List.mem_cons_self, hs⟩) hrest
  refine ⟨_, (nodup_spots hn).filter _, fun s => ?_, filterMap_spots ▸ hfaulty _ fun _ h => h⟩
  simp only [faultAt_iff hids, List.mem_filter, Option.isSome_iff_exists, exists_and_left]

/-! ## The collected messages -/

structure Diagnosis (net : Network) (values : List Value) (ids : List NodeId) (ms : List Text) :
    Prop where
  listed : net.appendReachable [] (values.filterMap Value.node?) = .ok ids
  order : BreadthFirst net (values.filterMap Value.node?) ids
  messages : ms = values.filterMap Value.fault? ++ (ids.filterMap net.node?).flatMap Node.faults
  once : ∃ spots : List Spot, spots.Nodup ∧ (∀ s, s ∈ spots ↔ ∃ m, net.FaultAt values s m) ∧
    List.Forall₂ (net.FaultAt values) spots ms

theorem exists_diagnosis (hv : ∀ id, net.ReachesFrom values id → (net.node? id).isSome = true) :
    ∃ ids ms, net.faults values = .ok ms ∧ net.Diagnosis values ids ms := by
  obtain ⟨ids, hids, hb⟩ := exists_appendReachable hv
  obtain ⟨ids', ns, hns, hr⟩ := exists_reached hv
  obtain rfl : ids' = ids := hr.order.of_rootNodes.unique hb
  refine ⟨ids', _, Outcome.bind_eq_ok.mpr ⟨ns, hns, rfl⟩, hids, hb, by rw [hr.eq_filterMap], ?_⟩
  rw [hr.eq_filterMap]
  exact exists_faulty_spots hb.nodup hb.mem_iff

theorem faults_of_unknown {id : NodeId}
    (h : net.appendReachable [] (rootNodes values) = .error (.nodeHandle id)) :
    net.faults values = .error (.nodeHandle id) := by
  simp only [faults, reachableNodes, reachable, h, bind, Except.bind]

theorem Diagnosis.perm {values' : List Value} {ids' : List NodeId} {ms' : List Text}
    (h : net.Diagnosis values ids ms) (h' : net.Diagnosis values' ids' ms')
    (hfaults : values'.filterMap Value.fault? = values.filterMap Value.fault?)
    (hreach : ∀ id, net.ReachesFrom values' id ↔ net.ReachesFrom values id) : ms'.Perm ms := by
  have hids : ids'.Perm ids := by
    refine (List.perm_ext_iff_of_nodup h'.order.nodup h.order.nodup).mpr fun id => ?_
    rw [h'.order.mem_iff, h.order.mem_iff]
    exact hreach id
  rw [h.messages, h'.messages, hfaults]
  exact ((hids.filterMap _).flatMap_right _).append_left _

theorem reachesFrom_append {more : List Value}
    (hmore : ∀ v ∈ more, ∀ id, v.node? = some id → net.ReachesFrom values id) {id : NodeId} :
    net.ReachesFrom (values ++ more) id ↔ net.ReachesFrom values id := by
  refine ⟨fun h => ?_, ReachesFrom.mono fun v hv => List.mem_append_left _ hv⟩
  refine Reaches.induction (fun r hr => ?_) (fun _ _ ha hab => ha.step hab) h
  obtain ⟨v, hv, hnode⟩ := List.mem_filterMap.mp hr
  rcases List.mem_append.mp hv with hv | hv
  · exact .root (List.mem_filterMap.mpr ⟨v, hv, hnode⟩)
  · exact hmore v hv r hnode

theorem faults_append {more : List Value} (h : net.Diagnosis values ids ms)
    (hv : ∀ id, net.ReachesFrom values id → (net.node? id).isSome = true)
    (hfault : ∀ v ∈ more, v.fault? = none)
    (hmore : ∀ v ∈ more, ∀ id, v.node? = some id → net.ReachesFrom values id) :
    ∃ ms', net.faults (values ++ more) = .ok ms' ∧ ms'.Perm ms := by
  have hv' : ∀ id, net.ReachesFrom (values ++ more) id → (net.node? id).isSome = true :=
    fun id hid => hv id ((reachesFrom_append hmore).mp hid)
  obtain ⟨ids', ms', hms', h'⟩ := exists_diagnosis hv'
  refine ⟨ms', hms', h.perm h' ?_ fun _ => reachesFrom_append hmore⟩
  rw [List.filterMap_append, List.filterMap_eq_nil_iff.mpr hfault, List.append_nil]

/-- Either every reachable handle has a node, and the messages are those of the spots of faults, each
once and in order, or some reachable handle has none, and collecting reports such a handle. -/
theorem faults_exact (net : Network) (values : List Value) :
    ((∀ id, net.ReachesFrom values id → (net.node? id).isSome = true) ∧
      ∃ ids ms, net.faults values = .ok ms ∧ net.Diagnosis values ids ms ∧
        (ms = [] ↔ ∀ v, net.Occurs values v → ∀ m, v.source ≠ .fault m) ∧
        ∀ more, (∀ v ∈ more, v.fault? = none) →
          (∀ v ∈ more, ∀ id, v.node? = some id → net.ReachesFrom values id) →
          ∃ ms', net.faults (values ++ more) = .ok ms' ∧ ms'.Perm ms) ∨
    ∃ id, net.ReachesFrom values id ∧ net.node? id = none ∧
      net.faults values = .error (.nodeHandle id) := by
  rcases net.appendReachable_cases [] (rootNodes values) with ⟨_, _, _, hrun⟩ | ⟨id, he, hn, hid⟩
  · have hv : ∀ id, net.ReachesFrom values id → (net.node? id).isSome = true :=
      fun id hid => (Fifo.breadthFirst_of_run hrun).1 id (reaches_rootNodes.mpr hid)
    obtain ⟨ids, ms, hms, h⟩ := exists_diagnosis hv
    refine Or.inl ⟨hv, ids, ms, hms, h, ?_, fun more => faults_append h hv⟩
    rw [List.eq_nil_iff_forall_not_mem]
    simp only [mem_faults_iff hms]
    grind
  · exact Or.inr ⟨id, reaches_rootNodes.mp hid, hn, faults_of_unknown he⟩

def faultyCalls : List Call :=
  [.node "Base" [⟨"a", DataType.scalarFloat, .ofParameter "glow" (.float .one #v[.zero])⟩,
     ⟨"b", DataType.scalarFloat, ⟨DataType.scalarFloat, .fault "dim"⟩⟩]
     [⟨"out", DataType.scalarFloat⟩],
   .node "Blend" [⟨"a", DataType.scalarFloat, ⟨DataType.scalarFloat, .fault "worn"⟩⟩,
     ⟨"b", DataType.scalarFloat, ⟨DataType.scalarFloat, .node 1 "out"⟩⟩,
     ⟨"c", DataType.scalarFloat, ⟨DataType.scalarFloat, .fault "dim"⟩⟩]
     [⟨"out", DataType.scalarFloat⟩]]

def faultyNetwork : Network :=
  ((after faultyCalls).overwriteInput 1 0 ⟨DataType.scalarFloat, .node 2 "out"⟩).getD .empty

def faultyRoots : List Value :=
  [⟨DataType.token, .fault "lost"⟩, ⟨DataType.scalarFloat, .node 2 "out"⟩,
   ⟨DataType.scalarFloat, .node 2 "out"⟩]

theorem faulty_faults_exact : ∃ ids ms, faultyNetwork.faults faultyRoots = .ok ms ∧
    faultyNetwork.Diagnosis faultyRoots ids ms ∧
    ms = ["lost", "worn", "dim", "dim"].map Text.ofString ∧
    ∃ ms', faultyNetwork.faults (faultyRoots ++ [⟨DataType.scalarFloat, .node 1 "out"⟩]) = .ok ms' ∧
      ms'.Perm ms := by
  have hok : faultyNetwork.faults faultyRoots =
      .ok (["lost", "worn", "dim", "dim"].map Text.ofString) := by decide +kernel
  rcases faultyNetwork.faults_exact faultyRoots with ⟨_, ids, ms, hms, h, _, hmore⟩ | ⟨_, _, _, he⟩
  · have hreads : ∃ n, faultyNetwork.node? 2 = some n ∧ 1 ∈ n.sources := by decide +kernel
    refine ⟨ids, ms, hms, h, Except.ok.inj (hms.symm.trans hok), hmore _ (by decide) ?_⟩
    rintro v hv id hid
    obtain rfl := List.mem_singleton.mp hv
    obtain rfl : 1 = id := Option.some.inj hid
    exact (Reaches.root (by decide)).step hreads
  · cases hok.symm.trans he

end Network
end ShaderGraph
