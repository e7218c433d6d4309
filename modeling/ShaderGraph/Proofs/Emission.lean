import ShaderGraph.Proofs.Refusal

/-!
# What a document contains

The entities of a document, said in terms of the network: which nodes have a block, which slots are
declared, and which connections are written. A material and a node graph are two instances of one
description, with the values that drive their outputs as roots.
-/
namespace ShaderGraph.Stage

open Renderer

def Declares (slots : List Declaration) (side : Side) (name : Text) : Prop :=
  ∃ d ∈ slots, d.side = side ∧ d.name = name

def Entity.declarations (e : Entity) : List Declaration := e.slots ++ e.nodes.flatMap (·.slots)

def Connects (ds : List Declaration) (t : Target) : Prop := ∃ d ∈ ds, d.assignment = .connection t

/-- The entity is driven by the values: it has a block for each node that they reach, and its
connections are those of the values and of the inputs of these nodes. -/
structure Entity.DrivenBy (e : Entity) (net : Network) (values : List Value) : Prop where
  blocks : ∀ b, b ∈ e.nodes ↔ ∃ id n, net.ReachesFrom values id ∧ net.node? id = some n ∧
    (renderer net).nodeBlock net e.name id n = .ok b
  complete : ∀ id n, net.ReachesFrom values id → net.node? id = some n →
    ∃ b, (renderer net).nodeBlock net e.name id n = .ok b
  connections : ∀ t, Connects e.declarations t ↔
    ∃ v, net.Occurs values v ∧ assignment net e.name v = .ok (.connection t)

variable {settings : Settings} {net : Network} {mat : Material} {entity : Text} {r : Renderer}

/-! ## Connections -/

theorem Connects.append {ds ds' : List Declaration} {t : Target} :
    Connects (ds ++ ds') t ↔ Connects ds t ∨ Connects ds' t := by
  simp [Connects, or_and_right, exists_or]

theorem assignment_connection {v : Value} {t : Target} :
    assignment net entity v = .ok (.connection t) ↔
      (∃ id slot, v.source = .node id slot ∧ t = .output entity id slot) ∨
      (∃ k x g, v.source = .graphInput k x ∧ net.graph? k = some g ∧ t = .input g.name x) ∨
      ∃ name c, v.source = .parameter name c ∧ t = .input entity name := by
  obtain ⟨type, source⟩ := v
  cases source with
  | constant c => cases c <;> simp [assignment]
  | graphInput k x =>
    simp only [assignment, Outcome.bind_eq_ok, Network.graph_eq_ok, Outcome.pure_eq_ok]
    simp [eq_comm]
  | _ => simp [assignment, eq_comm]

theorem inputAssignment_connection {v : Value} {t : Target} :
    (renderer net).inputAssignment entity v = .ok (.connection t) ↔
      assignment net entity v = .ok (.connection t) := by
  rw [inputAssignment]
  split
  · rename_i ha
    have hs := Value.isAbsent_iff.mp ha
    simp [assignment, hs]
  · rfl

/-! ## Blocks of nodes -/

theorem inputDeclaration_eq_ok {i : Input} {d : Declaration} :
    r.inputDeclaration entity i = .ok d ↔
      ∃ a, r.inputAssignment entity i.value = .ok a ∧ ⟨i.type, .inputs, i.name, a⟩ = d := by
  simp only [inputDeclaration, Outcome.bind_eq_ok, Outcome.pure_eq_ok]

theorem nodeBlock_eq_ok {id : NodeId} {n : Node} {b : NodeBlock} :
    r.nodeBlock net entity id n = .ok b ↔
      ∃ kind, nodeKind net n = .ok kind ∧ ∃ inputs,
        n.inputs.mapM (r.inputDeclaration entity) = .ok inputs ∧
        ⟨id, kind, inputs ++ n.outputs.map outputDeclaration⟩ = b := by
  simp only [nodeBlock, Outcome.bind_eq_ok, Outcome.pure_eq_ok]

theorem nodeBlocks_eq_ok {roots : List NodeId} {bs : List NodeBlock} :
    r.nodeBlocks net entity roots = .ok bs ↔ ∃ ids, net.reachable roots = .ok ids ∧
      List.Forall₂ (fun id b => ∃ n, net.node? id = some n ∧ r.nodeBlock net entity id n = .ok b)
        ids bs := by
  simp only [nodeBlocks, Outcome.bind_eq_ok, Outcome.mapM_eq_ok, Network.node_eq_ok]

theorem nodeBlock_id {id : NodeId} {n : Node} {b : NodeBlock}
    (h : r.nodeBlock net entity id n = .ok b) : b.id = id := by
  obtain ⟨kind, _, inputs, _, rfl⟩ := nodeBlock_eq_ok.mp h
  rfl

theorem nodeBlock_instanceOf {id : NodeId} {n : Node} {b : NodeBlock}
    (h : r.nodeBlock net entity id n = .ok b) {name : Text} : b.kind = .instanceOf name ↔
      n.isReference = true ∧ ∃ g, net.graph? n.graph = some g ∧ g.name = name := by
  obtain ⟨kind, hkind, inputs, _, rfl⟩ := nodeBlock_eq_ok.mp h
  rw [nodeKind] at hkind
  split at hkind
  · rename_i href
    simp only [Outcome.bind_eq_ok, Network.graph_eq_ok, Outcome.pure_eq_ok] at hkind
    obtain ⟨g, hg, rfl⟩ := hkind
    simp [href, hg]
  · rename_i href
    obtain rfl := Except.ok.inj hkind
    simp [href]

theorem nodeBlock_declares {id : NodeId} {n : Node} {b : NodeBlock}
    (h : r.nodeBlock net entity id n = .ok b) {slot : Text}
    (hs : slot ∈ n.outputs.map (·.name)) : Declares b.slots .outputs slot := by
  obtain ⟨kind, _, inputs, _, rfl⟩ := nodeBlock_eq_ok.mp h
  obtain ⟨o, ho, rfl⟩ := List.mem_map.mp hs
  exact ⟨outputDeclaration o, List.mem_append_right _ (List.mem_map_of_mem ho), rfl, rfl⟩

theorem nodeBlock_connects {id : NodeId} {n : Node} {b : NodeBlock}
    (h : (renderer net).nodeBlock net entity id n = .ok b) {t : Target} : Connects b.slots t ↔
      ∃ i ∈ n.inputs, assignment net entity i.value = .ok (.connection t) := by
  obtain ⟨kind, _, inputs, hin, rfl⟩ := nodeBlock_eq_ok.mp h
  have hout : ¬ Connects (n.outputs.map outputDeclaration) t := by
    simp [Connects, outputDeclaration]
  rw [Connects.append, or_iff_left hout]
  simp only [Connects, Outcome.mem_mapM hin, inputDeclaration_eq_ok, ← inputAssignment_connection]
  constructor
  · rintro ⟨d, ⟨i, hi, a, ha, rfl⟩, hd⟩
    obtain rfl : a = .connection t := hd
    exact ⟨i, hi, ha⟩
  · rintro ⟨i, hi, ha⟩
    exact ⟨_, ⟨i, hi, _, ha, rfl⟩, rfl⟩

/-! ## Entities -/

theorem drivenBy_of_nodeBlocks {e : Entity} {values : List Value}
    (hb : (renderer net).nodeBlocks net e.name (rootNodes values) = .ok e.nodes)
    (hs : ∀ t, Connects e.slots t ↔ ∃ v ∈ values, assignment net e.name v = .ok (.connection t)) :
    e.DrivenBy net values := by
  obtain ⟨ids, hids, hmap⟩ := Outcome.bind_eq_ok.mp hb
  have hmem : ∀ id, id ∈ ids ↔ net.ReachesFrom values id := by
    intro id
    rw [(Network.breadthFirst_of_reachable hids).mem_iff, reaches_rootNodes]
  have hblocks : ∀ b, b ∈ e.nodes ↔ ∃ id n, net.ReachesFrom values id ∧ net.node? id = some n ∧
      (renderer net).nodeBlock net e.name id n = .ok b := by
    intro b
    simp only [Outcome.mem_mapM hmap, hmem, Outcome.bind_eq_ok, Network.node_eq_ok, exists_and_left]
  have hcomplete : ∀ id n, net.ReachesFrom values id → net.node? id = some n →
      ∃ b, (renderer net).nodeBlock net e.name id n = .ok b := by
    intro id n hid hn
    obtain ⟨b, hb⟩ := Outcome.exists_mapM.mp ⟨_, hmap⟩ id ((hmem id).mpr hid)
    obtain ⟨m, hm, hnb⟩ := Outcome.bind_eq_ok.mp hb
    obtain rfl : m = n := Option.some.inj ((Network.node_eq_ok.mp hm).symm.trans hn)
    exact ⟨b, hnb⟩
  refine ⟨hblocks, hcomplete, fun t => ?_⟩
  rw [Entity.declarations, Connects.append, hs]
  constructor
  · intro h
    rcases h with ⟨v, hv, ha⟩ | ⟨d, hd, hdt⟩
    · exact ⟨v, Or.inl hv, ha⟩
    · obtain ⟨b, hbm, hdb⟩ := List.mem_flatMap.mp hd
      obtain ⟨id, n, hid, hn, hnb⟩ := (hblocks b).mp hbm
      obtain ⟨i, hi, ha⟩ := (nodeBlock_connects hnb).mp ⟨d, hdb, hdt⟩
      exact ⟨i.value, Or.inr ⟨id, n, i, hid, hn, hi, rfl⟩, ha⟩
  · intro ⟨v, ho, ha⟩
    rcases ho with hv | ⟨id, n, i, hid, hn, hi, rfl⟩
    · exact Or.inl ⟨v, hv, ha⟩
    · obtain ⟨b, hnb⟩ := hcomplete id n hid hn
      obtain ⟨d, hdb, hdt⟩ := (nodeBlock_connects hnb).mpr ⟨i, hi, ha⟩
      have hbm : b ∈ e.nodes := (hblocks b).mpr ⟨id, n, hid, hn, hnb⟩
      exact Or.inr ⟨d, List.mem_flatMap.mpr ⟨b, hbm, hdb⟩, hdt⟩

theorem Entity.DrivenBy.connects_input_iff {e : Entity} {values : List Value}
    (h : e.DrivenBy net values) {x : Text} : Connects e.declarations (.input entity x) ↔
      (∃ v k g, net.Occurs values v ∧ v.source = .graphInput k x ∧ net.graph? k = some g ∧
        g.name = entity) ∨
      (e.name = entity ∧ ∃ v c, net.Occurs values v ∧ v.source = .parameter x c) := by
  simp only [h.connections, assignment_connection, Target.input.injEq, reduceCtorEq, and_false,
    exists_false, false_or]
  constructor
  · intro ⟨v, ho, hv⟩
    rcases hv with ⟨k, y, g, hv, hg, rfl, rfl⟩ | ⟨name, c, hv, rfl, rfl⟩
    · exact Or.inl ⟨v, k, g, ho, hv, hg, rfl⟩
    · exact Or.inr ⟨rfl, v, c, ho, hv⟩
  · intro hor
    rcases hor with ⟨v, k, g, ho, hv, hg, rfl⟩ | ⟨rfl, v, c, ho, hv⟩
    · exact ⟨v, ho, Or.inl ⟨k, x, g, hv, hg, rfl, rfl⟩⟩
    · exact ⟨v, ho, Or.inr ⟨x, c, hv, rfl, rfl⟩⟩

theorem slotAssignment_connection {v : Value} {t : Target} (hv : ¬ Undriven v) :
    (renderer net).slotAssignment entity v = .ok (.connection t) ↔
      assignment net entity v = .ok (.connection t) := by
  obtain ⟨type, source⟩ := v
  cases source with
  | constant c => exact absurd ⟨by simp, by simp, by simp⟩ hv
  | graphInput k x => exact absurd ⟨by simp, by simp, by simp⟩ hv
  | parameter name c => exact absurd ⟨by simp, by simp, by simp⟩ hv
  | _ => simp [slotAssignment, assignment, Value.node?]

theorem slotDeclaration_eq_ok {slot : Text} {v : Value} {d : Declaration} :
    r.slotDeclaration entity slot v = .ok d ↔
      ∃ a, r.slotAssignment entity v = .ok a ∧ ⟨DataType.token, .outputs, slot, a⟩ = d := by
  simp only [slotDeclaration, Outcome.bind_eq_ok, Outcome.pure_eq_ok]

theorem Declares.append {ds ds' : List Declaration} {side : Side} {x : Text} :
    Declares (ds ++ ds') side x ↔ Declares ds side x ∨ Declares ds' side x := by
  simp [Declares, or_and_right, exists_or]

theorem literal_inputs {α : Type} {name : α → Text} {f : α → Except Misuse Declaration}
    {xs : List α} {ds : List Declaration} (h : xs.mapM f = .ok ds)
    (hf : ∀ x d, f x = .ok d → ∃ type text, d = ⟨type, .inputs, name x, .literal text⟩) :
    (∀ x, Declares ds .inputs x ↔ x ∈ xs.map name) ∧ ∀ t, ¬ Connects ds t := by
  have hall : ∀ x ∈ xs, ∃ d, f x = .ok d := Outcome.exists_mapM.mp ⟨ds, h⟩
  refine ⟨fun x => ?_, fun t ⟨d, hd, ht⟩ => ?_⟩
  · rw [List.mem_map]
    constructor
    · intro ⟨d, hd, _, hname⟩
      obtain ⟨y, hy, hyd⟩ := (Outcome.mem_mapM h).mp hd
      obtain ⟨type, text, rfl⟩ := hf y d hyd
      exact ⟨y, hy, hname⟩
    · intro ⟨y, hy, hname⟩
      obtain ⟨d, hd⟩ := hall y hy
      obtain ⟨type, text, rfl⟩ := hf y d hd
      exact ⟨_, (Outcome.mem_mapM h).mpr ⟨y, hy, hd⟩, rfl, hname⟩
  · obtain ⟨y, _, hyd⟩ := (Outcome.mem_mapM h).mp hd
    obtain ⟨type, text, rfl⟩ := hf y d hyd
    simp at ht

theorem parameterDeclaration_eq_ok {p : Parameter} {d : Declaration} :
    (renderer net).parameterDeclaration p = .ok d ↔ ∃ c, p.default = some c ∧
      ⟨c.dataType, .inputs, p.name, .literal c.literal⟩ = d := by
  obtain ⟨name, _ | c⟩ := p
  · simp [parameterDeclaration, required, bind, Except.bind]
  · simp [parameterDeclaration, required, bind, Except.bind, Outcome.pure_eq_ok]

theorem graphInputDeclaration_eq_ok {i : GraphInput} {d : Declaration} :
    (renderer net).graphInputDeclaration i = .ok d ↔ ∃ c, i.defaultValue = .ok c ∧
      ⟨i.type, .inputs, i.name, .literal c.literal⟩ = d := by
  simp only [graphInputDeclaration, renderer_literal_some, Outcome.bind_eq_ok, Outcome.pure_eq_ok,
    Except.ok.injEq, exists_eq_left']

theorem materialEntity_spec {parameters : List Parameter} {e : Entity}
    (hs : ¬ Undriven mat.surface) (hm : ¬ Undriven mat.geometryModifier)
    (h : (renderer net).materialEntity net mat parameters = .ok e) :
    e.name = mat.name ∧ (∀ x, Declares e.slots .inputs x ↔ x ∈ parameters.map (·.name)) ∧
      e.DrivenBy net [mat.surface, mat.geometryModifier] := by
  obtain ⟨inputs, hinputs, h⟩ := Outcome.bind_eq_ok.mp h
  obtain ⟨surface, hsurface, h⟩ := Outcome.bind_eq_ok.mp h
  obtain ⟨vertex, hvertex, h⟩ := Outcome.bind_eq_ok.mp h
  obtain ⟨nodes, hnodes, h⟩ := Outcome.bind_eq_ok.mp h
  obtain rfl := Outcome.pure_eq_ok.mp h
  obtain ⟨a, ha, rfl⟩ := slotDeclaration_eq_ok.mp hsurface
  obtain ⟨b, hb, rfl⟩ := slotDeclaration_eq_ok.mp hvertex
  have hliteral : ∀ p d, (renderer net).parameterDeclaration p = .ok d →
      ∃ type text, d = ⟨type, .inputs, p.name, .literal text⟩ := by
    intro p d hd
    obtain ⟨c, _, rfl⟩ := parameterDeclaration_eq_ok.mp hd
    exact ⟨_, _, rfl⟩
  obtain ⟨hdeclares, hconnects⟩ := literal_inputs hinputs hliteral
  refine ⟨rfl, fun x => ?_, drivenBy_of_nodeBlocks hnodes fun t => ?_⟩
  · rw [Declares.append, hdeclares]
    simp [Declares]
  · rw [Connects.append, or_iff_right (hconnects t)]
    simp only [Connects, List.mem_cons, List.not_mem_nil, or_false, exists_eq_or_imp,
      exists_eq_left, ← slotAssignment_connection hs, ← slotAssignment_connection hm, ha, hb,
      Except.ok.injEq]

/-- An output is declared twice, first unset and then with its value. -/
theorem mem_graphOutputs {outputs : List GraphOutput} {dss : List (List Declaration)}
    (h : outputs.mapM ((renderer net).graphOutputDeclarations entity) = .ok dss) {d : Declaration} :
    d ∈ dss.flatten ↔ ∃ o ∈ outputs, ∃ a, assignment net entity o.value = .ok a ∧
      (d = ⟨o.value.type, .outputs, o.name, .unset⟩ ∨
        d = ⟨o.value.type, .outputs, o.name, a⟩) := by
  simp only [List.mem_flatten, Outcome.mem_mapM h, graphOutputDeclarations, Outcome.bind_eq_ok,
    Outcome.pure_eq_ok, renderer_reference]
  constructor
  · rintro ⟨ds, ⟨o, ho, a, ha, rfl⟩, hd⟩
    exact ⟨o, ho, a, ha, by simpa using hd⟩
  · rintro ⟨o, ho, a, ha, hd⟩
    exact ⟨_, ⟨o, ho, a, ha, rfl⟩, by simpa using hd⟩

theorem graphEntity_spec {k : GraphId} {g : NodeGraph} {e : Entity} (hg : net.graph? k = some g)
    (h : (renderer net).graphEntity net k = .ok e) :
    e.name = g.name ∧ (∀ x, Declares e.slots .inputs x ↔ x ∈ g.inputs.map (·.name)) ∧
      (∀ x ∈ g.outputs.map (·.name), Declares e.slots .outputs x) ∧
      e.DrivenBy net g.outputValues := by
  obtain ⟨g', hg', h⟩ := Outcome.bind_eq_ok.mp h
  obtain rfl : g = g' := Option.some.inj (hg.symm.trans (Network.graph_eq_ok.mp hg'))
  obtain ⟨inputs, hinputs, h⟩ := Outcome.bind_eq_ok.mp h
  obtain ⟨outputs, houtputs, h⟩ := Outcome.bind_eq_ok.mp h
  obtain ⟨nodes, hnodes, h⟩ := Outcome.bind_eq_ok.mp h
  obtain rfl := Outcome.pure_eq_ok.mp h
  have hliteral : ∀ i d, (renderer net).graphInputDeclaration i = .ok d →
      ∃ type text, d = ⟨type, .inputs, i.name, .literal text⟩ := by
    intro i d hd
    obtain ⟨c, _, rfl⟩ := graphInputDeclaration_eq_ok.mp hd
    exact ⟨_, _, rfl⟩
  obtain ⟨hdeclares, hconnects⟩ := literal_inputs hinputs hliteral
  have hout := fun d => mem_graphOutputs houtputs (d := d)
  refine ⟨rfl, fun x => ?_, fun x hx => ?_, drivenBy_of_nodeBlocks hnodes fun t => ?_⟩
  · have hnone : ¬ Declares outputs.flatten .inputs x := by
      intro ⟨d, hd, hside, _⟩
      obtain ⟨o, _, a, _, rfl | rfl⟩ := (hout d).mp hd <;> simp at hside
    rw [Declares.append, hdeclares, or_iff_left hnone]
  · obtain ⟨o, ho, rfl⟩ := List.mem_map.mp hx
    obtain ⟨ds, hds⟩ := Outcome.exists_mapM.mp ⟨_, houtputs⟩ o ho
    obtain ⟨a, ha, _⟩ := Outcome.bind_eq_ok.mp hds
    exact Declares.append.mpr (Or.inr ⟨_, (hout _).mpr ⟨o, ho, a, ha, Or.inl rfl⟩, rfl, rfl⟩)
  · rw [Connects.append, or_iff_right (hconnects t)]
    constructor
    · intro ⟨d, hd, ht⟩
      obtain ⟨o, ho, a, ha, rfl | rfl⟩ := (hout d).mp hd
      · simp at ht
      · obtain rfl : a = .connection t := ht
        exact ⟨o.value, List.mem_map_of_mem ho, ha⟩
    · intro ⟨v, hv, ha⟩
      obtain ⟨o, ho, rfl⟩ := List.mem_map.mp hv
      exact ⟨_, (hout _).mpr ⟨o, ho, _, ha, Or.inr rfl⟩, rfl⟩

/-! ## Documents -/

structure Emits (net : Network) (mat : Material) (d : Document) : Prop where
  name : d.material.name = mat.name
  parameters : ∀ x, Declares d.material.slots .inputs x ↔
    ∃ place p, net.ReadsParameter [mat.surface, mat.geometryModifier] place p ∧ p.name = x
  driven : d.material.DrivenBy net [mat.surface, mat.geometryModifier]
  graphs : ∀ e, e ∈ d.graphs ↔ ∃ k ∈ mat.nodeGraphs, (renderer net).graphEntity net k = .ok e
  listed : ∀ k ∈ mat.nodeGraphs, ∃ g e, net.graph? k = some g ∧
    (renderer net).graphEntity net k = .ok e

theorem build_eq_ok {parameters : List Parameter} {c : Compiled} :
    r.build settings net mat parameters = .ok c ↔
      ∃ material, r.materialEntity net mat parameters = .ok material ∧
      ∃ graphs, mat.nodeGraphs.mapM (r.graphEntity net) = .ok graphs ∧
      ⟨⟨⟨settings.root, settings.metersPerUnit, settings.upAxis⟩, material, graphs⟩,
        boundTextures parameters⟩ = c := by
  simp only [build, Outcome.bind_eq_ok, Outcome.pure_eq_ok]

theorem listed_of_build {parameters : List Parameter} {c : Compiled}
    (h : r.build settings net mat parameters = .ok c) :
    ∀ k ∈ mat.nodeGraphs, ∃ g e, net.graph? k = some g ∧ r.graphEntity net k = .ok e := by
  intro k hk
  obtain ⟨_, _, graphs, hgraphs, _⟩ := build_eq_ok.mp h
  obtain ⟨e, he⟩ := Outcome.exists_mapM.mp ⟨_, hgraphs⟩ k hk
  obtain ⟨g, hg, _⟩ := Outcome.bind_eq_ok.mp he
  exact ⟨g, e, Network.graph_eq_ok.mp hg, he⟩

theorem emits_of_compile {c : Compiled} (hv : HandlesValid net mat)
    (h : compile settings net mat = .ok c) :
    ¬ Refused settings net mat ∧ Emits net mat c.document := by
  obtain ⟨hr, collected, hc, hbuild⟩ := not_refused_of_compile hv h
  have hlisted := listed_of_build hbuild
  obtain ⟨material, hmaterial, graphs, hgraphs, rfl⟩ := build_eq_ok.mp hbuild
  obtain ⟨hname, hinputs, hdriven⟩ :=
    materialEntity_spec (mt .surface hr) (mt .geometryModifier hr) hmaterial
  refine ⟨hr, hname, fun x => ?_, hdriven, fun e => Outcome.mem_mapM hgraphs, hlisted⟩
  rw [hinputs]
  exact Network.mem_parameter_names hc

end ShaderGraph.Stage
