import ShaderGraph.Network.Basic
import ShaderGraph.Proofs.Outcome
import Mathlib.Data.List.Basic

/-!
# Growth of networks

Building only adds to a network: nodes and graphs keep their handles, graphs keep their names, and
the declared inputs and outputs of a graph only get longer. `Extends` says once what a single
addition is, with all that was checked before it, and every operation that succeeds is one of its cases.
Whatever a value refers to is still there after any addition.
-/
namespace ShaderGraph

theorem Value.isAbsent_iff {v : Value} : v.isAbsent = true ↔ v.source = .absent := by
  cases hs : v.source <;> simp [Value.isAbsent, hs]

theorem NodeGraph.isSome_input? (g : NodeGraph) (slot : Text) :
    (g.input? slot).isSome = true ↔ slot ∈ g.inputs.map (·.name) := by
  simp [NodeGraph.input?, List.find?_isSome]

theorem NodeGraph.isSome_output? (g : NodeGraph) (slot : Text) :
    (g.output? slot).isSome = true ↔ slot ∈ g.outputs.map (·.name) := by
  simp [NodeGraph.output?, List.find?_isSome]

theorem Node.isSome_output? (n : Node) (slot : Text) :
    (n.output? slot).isSome = true ↔ slot ∈ n.outputs.map (·.name) := by
  simp [Node.output?, List.find?_isSome]

namespace Network

variable {net net' : Network} {given : List Value}

/-! ## Handles -/

theorem node_eq_ok {id : NodeId} {n : Node} : net.node id = .ok n ↔ net.node? id = some n := by
  unfold Network.node
  cases net.node? id <;> simp

theorem graph_eq_ok {id : GraphId} {g : NodeGraph} :
    net.graph id = .ok g ↔ net.graph? id = some g := by
  unfold Network.graph
  cases net.graph? id <;> simp

theorem mem_nodes_of_node? {id : NodeId} {n : Node} (h : net.node? id = some n) :
    n ∈ net.nodes := by
  cases id with
  | zero => simp [node?] at h
  | succ k => exact List.mem_of_getElem? h

theorem mem_graphs_of_graph? {id : GraphId} {g : NodeGraph} (h : net.graph? id = some g) :
    g ∈ net.graphs := by
  cases id with
  | zero => simp [graph?] at h
  | succ k => exact List.mem_of_getElem? h

/-! ## What a value refers to -/

def HasOutput (net : Network) (id : NodeId) (slot : Text) : Prop :=
  ∃ n, net.node? id = some n ∧
    if n.isReference then ∃ g, net.graph? n.graph = some g ∧ slot ∈ g.outputs.map (·.name)
    else slot ∈ n.outputs.map (·.name)

def HasInput (net : Network) (id : GraphId) (slot : Text) : Prop :=
  ∃ g, net.graph? id = some g ∧ slot ∈ g.inputs.map (·.name)

def Resolves (net : Network) (v : Value) : Prop :=
  match v.source with
  | .node id slot => net.HasOutput id slot
  | .graphInput id slot => net.HasInput id slot
  | .parameter _ default => default.isSome
  | .constant c => c.isSome
  | .absent | .fault _ => True

theorem outputType_eq_ok {id : NodeId} {slot : Text} {type : TypeTag} :
    net.outputType id slot = .ok type ↔ ∃ n, net.node? id = some n ∧
      if n.isReference then
        ∃ g o, net.graph? n.graph = some g ∧ g.output? slot = some o ∧ o.value.type = type
      else ∃ o, n.output? slot = some o ∧ o.type = type := by
  rw [outputType, Outcome.bind_eq_ok]
  refine exists_congr fun n => and_congr node_eq_ok ?_
  split
  · rw [Outcome.bind_eq_ok]
    simp only [graph_eq_ok]
    constructor
    · rintro ⟨g, hg, ho⟩
      split at ho
      · rename_i o ho'
        exact ⟨g, o, hg, ho', Outcome.pure_eq_ok.mp ho⟩
      · cases ho
    · rintro ⟨g, o, hg, ho, rfl⟩
      refine ⟨g, hg, ?_⟩
      rw [ho]
      rfl
  · constructor
    · intro ho
      split at ho
      · rename_i o ho'
        exact ⟨o, ho', Outcome.pure_eq_ok.mp ho⟩
      · cases ho
    · rintro ⟨o, ho, rfl⟩
      rw [ho]
      rfl

theorem outputType_ok_iff {id : NodeId} {slot : Text} :
    (∃ t, net.outputType id slot = .ok t) ↔ net.HasOutput id slot := by
  simp only [outputType_eq_ok, HasOutput]
  rw [exists_comm]
  refine exists_congr fun n => ?_
  rw [exists_and_left]
  refine and_congr_right fun _ => ?_
  split
  · simp only [← NodeGraph.isSome_output?, Option.isSome_iff_exists]
    exact ⟨fun ⟨_, g, o, hg, ho, _⟩ => ⟨g, hg, o, ho⟩, fun ⟨g, hg, o, ho⟩ => ⟨_, g, o, hg, ho, rfl⟩⟩
  · simp only [← Node.isSome_output?, Option.isSome_iff_exists]
    exact ⟨fun ⟨_, o, ho, _⟩ => ⟨o, ho⟩, fun ⟨o, ho⟩ => ⟨_, o, ho, rfl⟩⟩

theorem resolve_eq_ok {v : Value} : net.resolve v = .ok () ↔ net.Resolves v := by
  obtain ⟨type, source⟩ := v
  cases source with
  | absent => simp [resolve, Resolves]
  | constant c => cases c <;> simp [resolve, Resolves]
  | node id slot =>
    simp only [resolve, Resolves]
    rw [Outcome.bind_eq_ok, ← outputType_ok_iff]
    simp [pure, Except.pure]
  | graphInput id slot =>
    simp only [resolve, Resolves, HasInput]
    rw [Outcome.bind_eq_ok]
    simp only [graph_eq_ok]
    refine exists_congr fun g => and_congr_right fun _ => ?_
    rw [← g.isSome_input? slot]
    cases g.input? slot <;> simp [pure, Except.pure, throw, throwThe, MonadExceptOf.throw]
  | parameter name default => cases default <;> simp [resolve, Resolves]
  | fault message => simp [resolve, Resolves]

/-! ## Wired inputs and new nodes -/

structure Wired (net : Network) (i : Input) : Prop where
  type : i.type.isValid = true
  value : i.value.isAbsent = true ∨ i.value.type = i.type
  resolves : net.Resolves i.value

theorem connect_cases (node : Text) (i : Input) :
    connect node i = i.value ∧ (i.value.isAbsent = true ∨ i.value.type = i.type) ∨
      ∃ message, connect node i = .ofFault i.type message := by
  unfold connect
  split
  next h => exact Or.inl ⟨rfl, by simpa using h⟩
  next h => exact Or.inr ⟨_, rfl⟩

theorem wire_eq_ok {node : Text} {i j : Input} : net.wire node i = .ok j ↔
    i.type.isValid = true ∧ net.Resolves i.value ∧ { i with value := connect node i } = j := by
  have hc : net.wire node i = (if (!i.type.isValid) = true then throw (.inputType node i.name)
      else net.resolve i.value >>= fun _ => pure { i with value := connect node i }) := rfl
  rw [hc, Outcome.guard_eq_ok, Outcome.bind_eq_ok]
  simp only [Outcome.pure_eq_ok, ← resolve_eq_ok]
  constructor
  · rintro ⟨ht, u, hr, he⟩
    exact ⟨by simpa using ht, hr, he⟩
  · rintro ⟨ht, hr, he⟩
    exact ⟨by simpa using ht, (), hr, he⟩

theorem Wired.of_wire {node : Text} {i j : Input} (h : net.wire node i = .ok j) : net.Wired j := by
  obtain ⟨ht, hr, rfl⟩ := wire_eq_ok.mp h
  rcases connect_cases node i with ⟨hc, hv⟩ | ⟨message, hc⟩
  · exact ⟨ht, by rw [hc]; exact hv, by rw [hc]; exact hr⟩
  · exact ⟨ht, Or.inr (by rw [hc]; rfl), by rw [hc]; trivial⟩

theorem value_of_wire {node : Text} {i j : Input} (h : net.wire node i = .ok j) :
    j.value = i.value ∨ ∃ message, j.value = .ofFault j.type message := by
  obtain ⟨_, _, rfl⟩ := wire_eq_ok.mp h
  exact (connect_cases node i).imp_left And.left

theorem name_of_wire {node : Text} {i j : Input} (h : net.wire node i = .ok j) :
    j.name = i.name := by
  obtain ⟨_, _, rfl⟩ := wire_eq_ok.mp h
  rfl

/-- What a network checks of a node before it holds it as its next one. -/
structure Admits (net : Network) (n : Node) : Prop where
  id : n.id = net.nodes.length + 1
  type : n.type ≠ []
  inputs : ∀ i ∈ n.inputs, net.Wired i
  outputs : ∀ o ∈ n.outputs, o.type.isValid = true
  reference : n.isReference = true → n.outputs = [] ∧ ∃ g, net.graph? n.graph = some g ∧
    ∀ i ∈ n.inputs, i.name ∈ g.inputs.map (·.name)

theorem addNode_eq_ok {type : Text} {inputs : List Input} {outputs : List Output} {graph : GraphId}
    {r : NodeId × Network} : net.addNode type inputs outputs graph = .ok r ↔
    type ≠ [] ∧ ∃ wired, inputs.mapM (net.wire type) = .ok wired ∧
      (∀ o ∈ outputs, o.type.isValid = true) ∧
      (net.nodes.length + 1, { net with
        nodes := net.nodes ++ [⟨net.nodes.length + 1, type, wired, outputs, graph⟩] }) = r := by
  have hc : net.addNode type inputs outputs graph =
      (if type.isEmpty = true then throw .emptyNodeType
      else inputs.mapM (net.wire type) >>= fun wired => outputs.forM (checkOutput type) >>= fun _ =>
        pure (net.nodes.length + 1, { net with
          nodes := net.nodes ++ [⟨net.nodes.length + 1, type, wired, outputs, graph⟩] })) := rfl
  have ho : outputs.forM (checkOutput type) = .ok () ↔ ∀ o ∈ outputs, o.type.isValid = true := by
    rw [Outcome.forM_eq_ok]
    refine forall₂_congr fun o _ => ?_
    unfold checkOutput
    split <;> simp_all
  rw [hc, Outcome.guard_eq_ok, List.isEmpty_iff]
  refine and_congr_right fun _ => ?_
  rw [Outcome.bind_eq_ok]
  refine exists_congr fun wired => and_congr_right fun _ => ?_
  rw [Outcome.bind_eq_ok, ← ho]
  simp only [Outcome.pure_eq_ok]
  exact ⟨fun ⟨_, hu, hr⟩ => ⟨hu, hr⟩, fun ⟨hu, hr⟩ => ⟨(), hu, hr⟩⟩

/-! ## Additions -/

def Takes (given : List Value) (i : Input) : Prop :=
  i.value ∈ given ∨ ∃ message, i.value = .ofFault i.type message

/-- One addition to a network, with what was checked for it. The inputs of a node and the outputs of
a graph get only values that are given. -/
inductive Extends (given : List Value) (net : Network) : Network → Prop
  | node {n : Node} : net.Admits n → (∀ i ∈ n.inputs, Takes given i) →
      Extends given net { net with nodes := net.nodes ++ [n] }
  | graph {name : Text} : name ≠ [] → name ∉ net.graphs.map (·.name) → Extends given net
      { net with graphs := net.graphs ++ [⟨net.graphs.length + 1, name, [], []⟩] }
  | input {id : GraphId} {g : NodeGraph} {i : GraphInput} : net.graph? id = some g →
      i.type.isValid = true → i.name ∉ g.inputs.map (·.name) →
      Extends given net (net.setGraph id { g with inputs := g.inputs ++ [i] })
  | output {id : GraphId} {g : NodeGraph} {name : Text} {v : Value} : net.graph? id = some g →
      v ∈ given → v.isAbsent = false → name ∉ g.outputs.map (·.name) →
      Extends given net (net.setGraph id { g with outputs := g.outputs ++ [⟨name, v⟩] })

theorem admits_node {type : Text} {inputs wired : List Input} {outputs : List Output}
    (ht : type ≠ []) (hw : inputs.mapM (net.wire type) = .ok wired)
    (ho : ∀ o ∈ outputs, o.type.isValid = true) :
    net.Admits ⟨net.nodes.length + 1, type, wired, outputs, 0⟩ := by
  refine ⟨rfl, ht, fun i hi => ?_, ho, by simp [Node.isReference]⟩
  obtain ⟨j, _, hj⟩ := (Outcome.mem_mapM hw).mp hi
  exact Wired.of_wire hj

theorem takes_of_wired {node : Text} {inputs wired : List Input}
    (hv : ∀ i ∈ inputs, i.value ∈ given) (hw : inputs.mapM (net.wire node) = .ok wired) :
    ∀ i ∈ wired, Takes given i := by
  intro i hi
  obtain ⟨j, hj, hij⟩ := (Outcome.mem_mapM hw).mp hi
  rcases value_of_wire hij with he | hf
  · exact Or.inl (he ▸ hv j hj)
  · exact Or.inr hf

theorem addNode_extends {type : Text} {inputs : List Input} {outputs : List Output} {id : NodeId}
    (hv : ∀ i ∈ inputs, i.value ∈ given)
    (h : net.addNode type inputs outputs 0 = .ok (id, net')) : Extends given net net' := by
  obtain ⟨ht, wired, hw, ho, he⟩ := addNode_eq_ok.mp h
  obtain ⟨rfl, rfl⟩ := Prod.mk.inj he
  exact .node (admits_node ht hw ho) (takes_of_wired hv hw)

theorem checkGraphInput_eq_ok {g : NodeGraph} {i : Input} :
    checkGraphInput g i = .ok () ↔ i.name ∈ g.inputs.map (·.name) := by
  rw [checkGraphInput, ← g.isSome_input?]
  split <;> simp_all

theorem addReference_eq_ok {graph : GraphId} {inputs : List Input} {r : NodeId × Network} :
    net.addReference graph inputs = .ok r ↔ ∃ g, net.graph? graph = some g ∧
      (∀ i ∈ inputs, i.name ∈ g.inputs.map (·.name)) ∧
      net.addNode referenceType inputs [] graph = .ok r := by
  have hc : net.addReference graph inputs = (net.graph graph >>= fun g =>
      inputs.forM (checkGraphInput g) >>= fun _ => net.addNode referenceType inputs [] graph) := rfl
  rw [hc, Outcome.bind_eq_ok]
  refine exists_congr fun g => ?_
  rw [graph_eq_ok, Outcome.bind_eq_ok]
  refine and_congr_right fun _ => ?_
  constructor
  · rintro ⟨_, hforM, hr⟩
    exact ⟨fun i hi => checkGraphInput_eq_ok.mp (Outcome.forM_eq_ok.mp hforM i hi), hr⟩
  · rintro ⟨hin, hr⟩
    exact ⟨(), Outcome.forM_eq_ok.mpr fun i hi => checkGraphInput_eq_ok.mpr (hin i hi), hr⟩

theorem admits_reference {graph : GraphId} {g : NodeGraph} {inputs wired : List Input}
    (hg : net.graph? graph = some g) (hin : ∀ i ∈ inputs, i.name ∈ g.inputs.map (·.name))
    (hw : inputs.mapM (net.wire referenceType) = .ok wired) :
    net.Admits ⟨net.nodes.length + 1, referenceType, wired, [], graph⟩ := by
  have htype : referenceType ≠ [] := by decide
  refine ⟨rfl, htype, fun i hi => ?_, by simp, fun _ => ⟨rfl, g, hg, fun i hi => ?_⟩⟩
  · obtain ⟨j, _, hj⟩ := (Outcome.mem_mapM hw).mp hi
    exact Wired.of_wire hj
  · -- The slot kept the name that was looked up among the inputs of the graph.
    obtain ⟨j, hj, hw⟩ := (Outcome.mem_mapM hw).mp hi
    rw [name_of_wire hw]
    exact hin j hj

theorem addReference_extends {graph : GraphId} {inputs : List Input} {id : NodeId}
    (hv : ∀ i ∈ inputs, i.value ∈ given)
    (h : net.addReference graph inputs = .ok (id, net')) : Extends given net net' := by
  obtain ⟨g, hg, hin, h⟩ := addReference_eq_ok.mp h
  obtain ⟨_, wired, hw, _, he⟩ := addNode_eq_ok.mp h
  obtain ⟨rfl, rfl⟩ := Prod.mk.inj he
  exact .node (admits_reference hg hin hw) (takes_of_wired hv hw)

theorem addGraph_eq_ok {name : Text} {r : GraphId × Network} : net.addGraph name = .ok r ↔
    name ≠ [] ∧ net.findGraph? name = none ∧ (net.graphs.length + 1,
      { net with graphs := net.graphs ++ [⟨net.graphs.length + 1, name, [], []⟩] }) = r := by
  unfold addGraph
  by_cases hname : name = []
  · simp [hname]
  · cases hfind : net.findGraph? name <;> simp [hname]

theorem addGraph_extends {name : Text} {id : GraphId} (h : net.addGraph name = .ok (id, net')) :
    Extends given net net' := by
  obtain ⟨hname, hfind, he⟩ := addGraph_eq_ok.mp h
  obtain ⟨_, rfl⟩ := Prod.mk.inj he
  refine .graph hname fun hm => ?_
  obtain ⟨g, hg, hname⟩ := List.mem_map.mp hm
  simpa [hname] using List.find?_eq_none.mp hfind g hg

theorem addGraphInput_eq_ok {graph : GraphId} {i : GraphInput} {r : Value × Network} :
    net.addGraphInput graph i = .ok r ↔ ∃ g, net.graph? graph = some g ∧ i.type.isValid = true ∧
      i.name ∉ g.inputs.map (·.name) ∧ (⟨i.type, .graphInput g.id i.name⟩,
        net.setGraph graph { g with inputs := g.inputs ++ [i] }) = r := by
  have hc : net.addGraphInput graph i = (net.graph graph >>= fun g =>
      if (!i.type.isValid) = true then throw (.graphInputType g.name i.name)
      else if (g.input? i.name).isSome = true then throw (.graphInputTaken g.name i.name)
      else pure (⟨i.type, .graphInput g.id i.name⟩,
        net.setGraph graph { g with inputs := g.inputs ++ [i] })) := rfl
  rw [hc, Outcome.bind_eq_ok]
  simp only [graph_eq_ok, Outcome.guard_eq_ok, Outcome.pure_eq_ok, NodeGraph.isSome_input?]
  simp

theorem addGraphOutput_eq_ok {graph : GraphId} {name : Text} {v : Value} {r : Unit × Network} :
    net.addGraphOutput graph name v = .ok r ↔ ∃ g, net.graph? graph = some g ∧ v.isAbsent = false ∧
      name ∉ g.outputs.map (·.name) ∧
      ((), net.setGraph graph { g with outputs := g.outputs ++ [⟨name, v⟩] }) = r := by
  have hc : net.addGraphOutput graph name v = (net.graph graph >>= fun g =>
      if v.isAbsent = true then throw (.graphOutputAbsent g.name name)
      else if (g.output? name).isSome = true then throw (.graphOutputTaken g.name name)
      else pure ((), net.setGraph graph { g with outputs := g.outputs ++ [⟨name, v⟩] })) := rfl
  rw [hc, Outcome.bind_eq_ok]
  simp only [graph_eq_ok, Outcome.guard_eq_ok, Outcome.pure_eq_ok, NodeGraph.isSome_output?]
  simp

theorem addGraphInput_extends {graph : GraphId} {i : GraphInput} {v : Value}
    (h : net.addGraphInput graph i = .ok (v, net')) : Extends given net net' := by
  obtain ⟨g, hg, ht, hn, he⟩ := addGraphInput_eq_ok.mp h
  obtain ⟨_, rfl⟩ := Prod.mk.inj he
  exact .input hg ht hn

theorem addGraphOutput_extends {graph : GraphId} {name : Text} {v : Value} {u : Unit}
    (h : net.addGraphOutput graph name v = .ok (u, net')) : Extends [v] net net' := by
  obtain ⟨g, hg, ha, hn, he⟩ := addGraphOutput_eq_ok.mp h
  obtain ⟨_, rfl⟩ := Prod.mk.inj he
  exact .output hg List.mem_cons_self ha hn

/-! ## Growth -/

theorem graph?_setGraph_self {id : GraphId} {g₀ : NodeGraph} (g : NodeGraph)
    (h : net.graph? id = some g₀) : (net.setGraph id g).graph? id = some g := by
  cases id with
  | zero => simp [graph?] at h
  | succ k =>
    have hk : k < net.graphs.length := (List.getElem?_eq_some_iff.mp h).1
    simp [graph?, setGraph, hk]

theorem graph?_setGraph_of_ne {id other : GraphId} {g₀ : NodeGraph} (g : NodeGraph)
    (h : net.graph? id = some g₀) (hne : other ≠ id) :
    (net.setGraph id g).graph? other = net.graph? other := by
  cases id with
  | zero => simp [graph?] at h
  | succ k =>
    cases other with
    | zero => rfl
    | succ l =>
      have hkl : k ≠ l := fun he => hne (by rw [he])
      simp [graph?, setGraph, hkl]

structure Grows (net net' : Network) : Prop where
  nodes : net.nodes <+: net'.nodes
  graphs : ∀ id g, net.graph? id = some g → ∃ g', net'.graph? id = some g' ∧ g'.id = g.id ∧
    g'.name = g.name ∧ g.inputs <+: g'.inputs ∧ g.outputs <+: g'.outputs

theorem Grows.refl (net : Network) : net.Grows net :=
  ⟨List.prefix_rfl, fun _ g hg => ⟨g, hg, rfl, rfl, List.prefix_rfl, List.prefix_rfl⟩⟩

theorem Grows.trans {net'' : Network} (h : net.Grows net') (h' : net'.Grows net'') :
    net.Grows net'' := by
  refine ⟨h.nodes.trans h'.nodes, fun id g hg => ?_⟩
  obtain ⟨g', hg', hid, hname, hin, hout⟩ := h.graphs id g hg
  obtain ⟨g'', hg'', hid', hname', hin', hout'⟩ := h'.graphs id g' hg'
  exact ⟨g'', hg'', hid'.trans hid, hname'.trans hname, hin.trans hin', hout.trans hout'⟩

theorem Grows.of_setGraph {id : GraphId} {g₀ g : NodeGraph} (h : net.graph? id = some g₀)
    (hid : g.id = g₀.id) (hname : g.name = g₀.name) (hin : g₀.inputs <+: g.inputs)
    (hout : g₀.outputs <+: g.outputs) : net.Grows (net.setGraph id g) := by
  refine ⟨List.prefix_rfl, fun other g' hg' => ?_⟩
  by_cases he : other = id
  · subst he
    rw [h] at hg'
    obtain rfl := Option.some.inj hg'
    exact ⟨g, graph?_setGraph_self g h, hid, hname, hin, hout⟩
  · refine ⟨g', ?_, rfl, rfl, List.prefix_rfl, List.prefix_rfl⟩
    rw [graph?_setGraph_of_ne g h he, hg']

theorem Grows.of_node (n : Node) : net.Grows { net with nodes := net.nodes ++ [n] } := by
  refine ⟨List.prefix_append _ _, fun id g hg => ?_⟩
  exact ⟨g, hg, rfl, rfl, List.prefix_rfl, List.prefix_rfl⟩

theorem Extends.grows (h : Extends given net net') : net.Grows net' := by
  cases h with
  | node _ _ => exact .of_node _
  | graph _ _ =>
    refine ⟨List.prefix_rfl, fun id g hg => ⟨g, ?_, rfl, rfl, List.prefix_rfl, List.prefix_rfl⟩⟩
    cases id with
    | zero => simp [graph?] at hg
    | succ k =>
      have hk : k < net.graphs.length := (List.getElem?_eq_some_iff.mp hg).1
      simpa only [graph?, List.getElem?_append_left hk] using hg
  | input hg _ _ =>
    exact .of_setGraph hg rfl rfl (List.prefix_append _ _) List.prefix_rfl
  | output hg _ _ _ =>
    exact .of_setGraph hg rfl rfl List.prefix_rfl (List.prefix_append _ _)

theorem node?_of_nodes (h : net.nodes <+: net'.nodes) {id : NodeId} {n : Node}
    (hn : net.node? id = some n) : net'.node? id = some n := by
  cases id with
  | zero => simp [Network.node?] at hn
  | succ k =>
    obtain ⟨later, hl⟩ := h
    have hk : k < net.nodes.length := (List.getElem?_eq_some_iff.mp hn).1
    simpa only [Network.node?, ← hl, List.getElem?_append_left hk] using hn

theorem Grows.node? (h : net.Grows net') {id : NodeId} {n : Node} (hn : net.node? id = some n) :
    net'.node? id = some n := node?_of_nodes h.nodes hn

theorem Grows.hasInput (h : net.Grows net') {id : GraphId} {slot : Text}
    (hs : net.HasInput id slot) : net'.HasInput id slot := by
  obtain ⟨g, hg, hm⟩ := hs
  obtain ⟨g', hg', _, _, hin, _⟩ := h.graphs id g hg
  exact ⟨g', hg', (hin.map _).subset hm⟩

theorem Grows.hasOutput (h : net.Grows net') {id : NodeId} {slot : Text}
    (hs : net.HasOutput id slot) : net'.HasOutput id slot := by
  obtain ⟨n, hn, hm⟩ := hs
  refine ⟨n, h.node? hn, ?_⟩
  split at hm
  next hr =>
    obtain ⟨g, hg, hm⟩ := hm
    obtain ⟨g', hg', _, _, _, hout⟩ := h.graphs n.graph g hg
    rw [if_pos hr]
    exact ⟨g', hg', (hout.map _).subset hm⟩
  next hr =>
    rw [if_neg hr]
    exact hm

theorem Grows.resolves (h : net.Grows net') {v : Value} (hv : net.Resolves v) :
    net'.Resolves v := by
  obtain ⟨type, source⟩ := v
  cases source with
  | node id slot => exact h.hasOutput hv
  | graphInput id slot => exact h.hasInput hv
  | absent => trivial
  | constant c => exact hv
  | parameter name default => exact hv
  | fault message => trivial

end Network
end ShaderGraph
