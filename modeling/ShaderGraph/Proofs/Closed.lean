import ShaderGraph.Proofs.Emission
import ShaderGraph.Proofs.Session

/-!
# Connections that lead somewhere

A document is closed if every connection in it leads to a slot that it declares and every instance
refers to a graph that it defines. After a session with issued values, connections to outputs and
references are always of this kind. Connections to inputs are if and only if the material is scoped:
a parameter is read inside a graph only under the name of an input of that graph, and an input of a
graph is read only if the graph is listed.
-/
namespace ShaderGraph.Stage

def Document.entities (d : Document) : List Entity := d.material :: d.graphs

inductive Document.Resolves (d : Document) : Target → Prop
  | own {e : Entity} {b : NodeBlock} {slot : Text} : e ∈ d.entities → b ∈ e.nodes →
      Declares b.slots .outputs slot → Resolves d (.output e.name b.id slot)
  | shown {e g : Entity} {b : NodeBlock} {slot : Text} : e ∈ d.entities → b ∈ e.nodes →
      g ∈ d.graphs → b.kind = .instanceOf g.name → Declares g.slots .outputs slot →
      Resolves d (.output e.name b.id slot)
  | input {e : Entity} {slot : Text} : e ∈ d.entities → Declares e.slots .inputs slot →
      Resolves d (.input e.name slot)

def Document.OutputsResolve (d : Document) : Prop :=
  ∀ e ∈ d.entities, ∀ entity id slot, Connects e.declarations (.output entity id slot) →
    d.Resolves (.output entity id slot)

def Document.InputsResolve (d : Document) : Prop :=
  ∀ e ∈ d.entities, ∀ entity slot, Connects e.declarations (.input entity slot) →
    d.Resolves (.input entity slot)

def Document.ReferencesResolve (d : Document) : Prop :=
  ∀ e ∈ d.entities, ∀ b ∈ e.nodes, ∀ name, b.kind = .instanceOf name →
    ∃ g ∈ d.graphs, g.name = name

structure Document.Closed (d : Document) : Prop where
  outputs : d.OutputsResolve
  inputs : d.InputsResolve
  references : d.ReferencesResolve

/-- Parameters and graph inputs are read where they are declared. In the last case the graph is not
listed, but the material has its name and a parameter of the name of its input. -/
structure Scoped (net : Network) (mat : Material) : Prop where
  parameters : ∀ k ∈ mat.nodeGraphs, ∀ g, net.graph? k = some g → ∀ v name c,
    net.Occurs g.outputValues v → v.source = .parameter name c → name ∈ g.inputs.map (·.name)
  graphInputs : ∀ v k x, net.Occurs (rootValues net mat) v → v.source = .graphInput k x →
    k ∈ mat.nodeGraphs ∨ ∃ g, net.graph? k = some g ∧ g.name = mat.name ∧
      ∃ place p, net.ReadsParameter [mat.surface, mat.geometryModifier] place p ∧ p.name = x

structure Accepted (settings : Settings) (net : Network) (mat : Material) (d : Document) :
    Prop where
  sound : net.Sound
  resolves : ∀ v, net.Occurs (rootValues net mat) v → net.Resolves v
  allowed : ¬ Refused settings net mat
  emits : Emits net mat d

variable {settings : Settings} {net : Network} {mat : Material} {d : Document}

namespace Accepted

theorem graph_entity (h : Accepted settings net mat d) {k : GraphId} {g : NodeGraph}
    (hk : k ∈ mat.nodeGraphs) (hg : net.graph? k = some g) :
    ∃ e ∈ d.graphs, e.name = g.name ∧
      (∀ x, Declares e.slots .inputs x ↔ x ∈ g.inputs.map (·.name)) ∧
      (∀ x ∈ g.outputs.map (·.name), Declares e.slots .outputs x) ∧
      e.DrivenBy net g.outputValues := by
  obtain ⟨g', e, hg', he⟩ := h.emits.listed k hk
  obtain rfl : g' = g := Option.some.inj (hg'.symm.trans hg)
  exact ⟨e, (h.emits.graphs e).mpr ⟨k, hk, he⟩, graphEntity_spec hg he⟩

theorem driven (h : Accepted settings net mat d) {e : Entity} (he : e ∈ d.entities) :
    ∃ values, e.DrivenBy net values ∧ ∀ v ∈ values, v ∈ rootValues net mat := by
  rcases List.mem_cons.mp he with rfl | he
  · exact ⟨_, h.emits.driven, material_subset_rootValues⟩
  · obtain ⟨k, hk, hke⟩ := (h.emits.graphs e).mp he
    obtain ⟨g, _, hg, _⟩ := h.emits.listed k hk
    exact ⟨_, (graphEntity_spec hg hke).2.2.2, graph_subset_rootValues hk hg⟩

theorem instance_listed (h : Accepted settings net mat d) {id : NodeId} {n : Node}
    (hid : net.ReachesFrom (rootValues net mat) id) (hn : net.node? id = some n)
    (href : n.isReference = true) : n.graph ∈ mat.nodeGraphs := by
  by_contra hnot
  exact h.allowed (.unlisted hid hn href hnot)

theorem referencesResolve (h : Accepted settings net mat d) : d.ReferencesResolve := by
  intro e he b hb name hkind
  obtain ⟨values, hd, hsub⟩ := h.driven he
  obtain ⟨id, n, hid, hn, hnb⟩ := (hd.blocks b).mp hb
  obtain ⟨href, g, hg, rfl⟩ := (nodeBlock_instanceOf hnb).mp hkind
  have hlisted := h.instance_listed (hid.mono hsub) hn href
  obtain ⟨e', he', hname, _⟩ := h.graph_entity hlisted hg
  exact ⟨e', he', hname⟩

theorem block_of_connects (h : Accepted settings net mat d) {e : Entity} (he : e ∈ d.entities)
    {entity slot : Text} {id : NodeId} (hc : Connects e.declarations (.output entity id slot)) :
    entity = e.name ∧ ∃ b ∈ e.nodes, b.id = id ∧ (Declares b.slots .outputs slot ∨
      ∃ g ∈ d.graphs, b.kind = .instanceOf g.name ∧ Declares g.slots .outputs slot) := by
  obtain ⟨values, hd, hsub⟩ := h.driven he
  obtain ⟨v, ho, ha⟩ := (hd.connections _).mp hc
  rcases assignment_connection.mp ha with ⟨id', slot', hs, ht⟩ | ⟨_, _, _, _, _, ht⟩ | ⟨_, _, _, ht⟩
  · obtain ⟨rfl, rfl, rfl⟩ := Target.output.inj ht
    have hid := ho.reaches hs
    have hres := h.resolves v (ho.mono hsub)
    rw [Network.Resolves, hs] at hres
    obtain ⟨n, hn, hslot⟩ := hres
    obtain ⟨b, hnb⟩ := hd.complete id n hid hn
    have hb : b ∈ e.nodes := (hd.blocks b).mpr ⟨id, n, hid, hn, hnb⟩
    refine ⟨rfl, b, hb, nodeBlock_id hnb, ?_⟩
    split at hslot
    · rename_i href
      obtain ⟨g, hg, hslot⟩ := hslot
      have hlisted := h.instance_listed (hid.mono hsub) hn href
      obtain ⟨e', he', hname, _, hout, _⟩ := h.graph_entity hlisted hg
      exact Or.inr ⟨e', he', (nodeBlock_instanceOf hnb).mpr ⟨href, g, hg, hname.symm⟩,
        hout slot hslot⟩
    · exact Or.inl (nodeBlock_declares hnb hslot)
  · simp at ht
  · simp at ht

theorem outputsResolve (h : Accepted settings net mat d) : d.OutputsResolve := by
  intro e he entity id slot hc
  obtain ⟨rfl, b, hb, rfl, hslot⟩ := h.block_of_connects he hc
  rcases hslot with hslot | ⟨g, hg, hkind, hslot⟩
  · exact .own he hb hslot
  · exact .shown he hb hg hkind hslot

theorem resolves_input_iff (h : Accepted settings net mat d) {entity x : Text} :
    d.Resolves (.input entity x) ↔
      (entity = mat.name ∧
        ∃ place p, net.ReadsParameter [mat.surface, mat.geometryModifier] place p ∧ p.name = x) ∨
      ∃ k ∈ mat.nodeGraphs, ∃ g, net.graph? k = some g ∧ g.name = entity ∧
        x ∈ g.inputs.map (·.name) := by
  constructor
  · intro hr
    generalize ht : Target.input entity x = t at hr
    cases hr with
    | own => simp at ht
    | shown => simp at ht
    | @input e slot he hd =>
      obtain ⟨rfl, rfl⟩ := Target.input.inj ht
      rcases List.mem_cons.mp he with rfl | he
      · exact Or.inl ⟨h.emits.name, (h.emits.parameters x).mp hd⟩
      · obtain ⟨k, hk, hke⟩ := (h.emits.graphs e).mp he
        obtain ⟨g, _, hg, _⟩ := h.emits.listed k hk
        obtain ⟨hname, hin, _⟩ := graphEntity_spec hg hke
        exact Or.inr ⟨k, hk, g, hg, hname.symm, (hin x).mp hd⟩
  · intro hr
    rcases hr with ⟨rfl, hp⟩ | ⟨k, hk, g, hg, rfl, hx⟩
    · have hd := (h.emits.parameters x).mpr hp
      rw [← h.emits.name]
      exact .input List.mem_cons_self hd
    · obtain ⟨e, he, hname, hin, _⟩ := h.graph_entity hk hg
      rw [← hname]
      exact .input (List.mem_cons_of_mem _ he) ((hin x).mpr hx)

theorem resolves_graphInput_iff (h : Accepted settings net mat d) {k : GraphId} {g : NodeGraph}
    {x : Text} (hg : net.graph? k = some g) (hx : x ∈ g.inputs.map (·.name)) :
    d.Resolves (.input g.name x) ↔ k ∈ mat.nodeGraphs ∨ g.name = mat.name ∧
      ∃ place p, net.ReadsParameter [mat.surface, mat.geometryModifier] place p ∧ p.name = x := by
  rw [h.resolves_input_iff]
  constructor
  · intro hr
    rcases hr with hp | ⟨l, hl, g', hg', hname, _⟩
    · exact Or.inr hp
    · rw [h.sound.eq_of_name hg hg' hname.symm]
      exact Or.inl hl
  · intro hr
    rcases hr with hk | hp
    · exact Or.inr ⟨k, hk, g, hg, rfl, hx⟩
    · exact Or.inl hp

theorem reads_parameter (h : Accepted settings net mat d) {v : Value} {name : Text}
    {c : Option Constant} (ho : net.Occurs [mat.surface, mat.geometryModifier] v)
    (hv : v.source = .parameter name c) :
    ∃ place, net.ReadsParameter [mat.surface, mat.geometryModifier] place ⟨name, c⟩ := by
  have hundriven : Undriven v := ⟨by simp [hv], by simp [hv], by simp [hv]⟩
  -- Only nodes drive the slots of the material, so the parameter stands at an input.
  rcases ho with hroot | ⟨id, n, i, hid, hn, hi, rfl⟩
  · simp only [List.mem_cons, List.not_mem_nil, or_false] at hroot
    rcases hroot with rfl | rfl
    · exact absurd (.surface hundriven) h.allowed
    · exact absurd (.geometryModifier hundriven) h.allowed
  · obtain ⟨k, hk⟩ := List.mem_iff_getElem?.mp hi
    exact ⟨(id, k), hid, n, i, hn, hk, hv⟩

theorem declares_parameter (h : Accepted settings net mat d) {v : Value} {name : Text}
    {c : Option Constant} (ho : net.Occurs [mat.surface, mat.geometryModifier] v)
    (hv : v.source = .parameter name c) : Declares d.material.slots .inputs name := by
  obtain ⟨place, hplace⟩ := h.reads_parameter ho hv
  exact (h.emits.parameters name).mpr ⟨place, _, hplace, rfl⟩

theorem resolves_parameter (h : Accepted settings net mat d) {v : Value} {name : Text}
    {c : Option Constant} (ho : net.Occurs [mat.surface, mat.geometryModifier] v)
    (hv : v.source = .parameter name c) : d.Resolves (.input mat.name name) := by
  rw [← h.emits.name]
  exact .input List.mem_cons_self (h.declares_parameter ho hv)

theorem resolves_parameter_iff (h : Accepted settings net mat d) {k : GraphId} {g : NodeGraph}
    {name : Text} (hk : k ∈ mat.nodeGraphs) (hg : net.graph? k = some g) :
    d.Resolves (.input g.name name) ↔ name ∈ g.inputs.map (·.name) := by
  rw [h.resolves_input_iff]
  constructor
  · intro hr
    rcases hr with ⟨hname, _⟩ | ⟨l, _, g', hg', hname, hx⟩
    · exact absurd (.namesake hk hg hname) h.allowed
    · -- Names of graphs are distinct, so it is the same graph.
      obtain rfl := h.sound.eq_of_name hg hg' hname.symm
      obtain rfl : g' = g := Option.some.inj (hg'.symm.trans hg)
      exact hx
  · intro hx
    exact Or.inr ⟨k, hk, g, hg, rfl, hx⟩

theorem hasInput (h : Accepted settings net mat d) {v : Value} {k : GraphId} {x : Text}
    (ho : net.Occurs (rootValues net mat) v) (hv : v.source = .graphInput k x) :
    net.HasInput k x := by
  have hres := h.resolves v ho
  rwa [Network.Resolves, hv] at hres

theorem connects_input_iff (h : Accepted settings net mat d) {entity x : Text} :
    (∃ e ∈ d.entities, Connects e.declarations (.input entity x)) ↔
      (∃ v k g, net.Occurs (rootValues net mat) v ∧ v.source = .graphInput k x ∧
        net.graph? k = some g ∧ g.name = entity) ∨
      (mat.name = entity ∧
        ∃ v c, net.Occurs [mat.surface, mat.geometryModifier] v ∧ v.source = .parameter x c) ∨
      ∃ k ∈ mat.nodeGraphs, ∃ g, net.graph? k = some g ∧ g.name = entity ∧
        ∃ v c, net.Occurs g.outputValues v ∧ v.source = .parameter x c := by
  constructor
  · intro ⟨e, he, hc⟩
    rcases List.mem_cons.mp he with rfl | he
    · rcases h.emits.driven.connects_input_iff.mp hc with ⟨v, k, g, ho, hrest⟩ | ⟨hname, hp⟩
      · exact Or.inl ⟨v, k, g, ho.mono material_subset_rootValues, hrest⟩
      · exact Or.inr (Or.inl ⟨h.emits.name.symm.trans hname, hp⟩)
    · obtain ⟨k, hk, hke⟩ := (h.emits.graphs e).mp he
      obtain ⟨g, _, hg, _⟩ := h.emits.listed k hk
      obtain ⟨hgname, _, _, hd⟩ := graphEntity_spec hg hke
      rcases hd.connects_input_iff.mp hc with ⟨v, k, g, ho, hrest⟩ | ⟨hname, hp⟩
      · exact Or.inl ⟨v, k, g, ho.mono (graph_subset_rootValues hk hg), hrest⟩
      · exact Or.inr (Or.inr ⟨k, hk, g, hg, hgname.symm.trans hname, hp⟩)
  · intro hor
    rcases hor with ⟨v, k, g, ho, hrest⟩ | ⟨hname, hp⟩ | ⟨k, hk, g, hg, hname, hp⟩
    · rcases occurs_rootValues.mp ho with ho | ⟨l, hl, g', hg', ho⟩
      · exact ⟨d.material, List.mem_cons_self,
          h.emits.driven.connects_input_iff.mpr (Or.inl ⟨v, k, g, ho, hrest⟩)⟩
      · obtain ⟨e, he, _, _, _, hd⟩ := h.graph_entity hl hg'
        exact ⟨e, List.mem_cons_of_mem _ he,
          hd.connects_input_iff.mpr (Or.inl ⟨v, k, g, ho, hrest⟩)⟩
    · exact ⟨d.material, List.mem_cons_self,
        h.emits.driven.connects_input_iff.mpr (Or.inr ⟨h.emits.name.trans hname, hp⟩)⟩
    · obtain ⟨e, he, hgname, _, _, hd⟩ := h.graph_entity hk hg
      exact ⟨e, List.mem_cons_of_mem _ he,
        hd.connects_input_iff.mpr (Or.inr ⟨hgname.trans hname, hp⟩)⟩

theorem inputsResolve_iff (h : Accepted settings net mat d) :
    d.InputsResolve ↔ Scoped net mat := by
  have hall : d.InputsResolve ↔ ∀ entity x,
      (∃ e ∈ d.entities, Connects e.declarations (.input entity x)) →
        d.Resolves (.input entity x) :=
    ⟨fun hi entity x ⟨e, he, hc⟩ => hi e he entity x hc,
      fun hi e he entity x hc => hi entity x ⟨e, he, hc⟩⟩
  rw [hall]
  simp only [h.connects_input_iff]
  constructor
  · intro hi
    refine ⟨fun k hk g hg v name c ho hv => ?_, fun v k x ho hv => ?_⟩
    · have hr := hi g.name name (Or.inr (Or.inr ⟨k, hk, g, hg, rfl, v, c, ho, hv⟩))
      exact (h.resolves_parameter_iff hk hg).mp hr
    · obtain ⟨g, hg, hx⟩ := h.hasInput ho hv
      have hr := hi g.name x (Or.inl ⟨v, k, g, ho, hv, hg, rfl⟩)
      refine ((h.resolves_graphInput_iff hg hx).mp hr).imp_right ?_
      intro ⟨hname, hp⟩
      exact ⟨g, hg, hname, hp⟩
  · intro hs entity x hor
    rcases hor with ⟨v, k, g, ho, hv, hg, rfl⟩ | ⟨rfl, v, c, ho, hv⟩ |
      ⟨k, hk, g, hg, rfl, v, c, ho, hv⟩
    · obtain ⟨g', hg', hx⟩ := h.hasInput ho hv
      obtain rfl : g' = g := Option.some.inj (hg'.symm.trans hg)
      refine (h.resolves_graphInput_iff hg hx).mpr ((hs.graphInputs v k x ho hv).imp_right ?_)
      intro ⟨g'', hg'', hname, hp⟩
      obtain rfl : g'' = g' := Option.some.inj (hg''.symm.trans hg)
      exact ⟨hname, hp⟩
    · exact h.resolves_parameter ho hv
    · exact (h.resolves_parameter_iff hk hg).mpr (hs.parameters k hk g hg v x c ho hv)

end Accepted

theorem handleValid_of_resolves {v : Value} (h : net.Resolves v) : handleValid net v = true := by
  obtain ⟨type, source⟩ := v
  cases source with
  | node id slot =>
    obtain ⟨n, hn, _⟩ := h
    simp [handleValid, hn]
  | graphInput k x =>
    obtain ⟨g, hg, _⟩ := h
    simp [handleValid, hg]
  | _ => rfl

section Resolved

variable (hs : net.Sound) (hroot : ∀ v ∈ rootValues net mat, net.Resolves v)

include hs hroot

theorem resolves_of_occurs {v : Value} (ho : net.Occurs (rootValues net mat) v) :
    net.Resolves v := by
  rcases ho with hv | ⟨_, n, i, _, hn, hi, rfl⟩
  · exact hroot v hv
  · exact (hs.wired n (Network.mem_nodes_of_node? hn) i hi).resolves

theorem handlesValid_of_resolves (hl : ∀ k ∈ mat.nodeGraphs, (net.graph? k).isSome = true) :
    HandlesValid net mat := by
  refine handlesValid_of_forall hl (fun v hv => handleValid_of_resolves (hroot v hv)) ?_
  intro n hn
  refine ⟨fun i hi => handleValid_of_resolves (hs.wired n hn i hi).resolves, fun href => ?_⟩
  obtain ⟨_, g, hg, _⟩ := hs.reference n hn href
  simp [hg]

theorem accepted_of_resolves {c : Compiled} (hc : compile settings net mat = .ok c) :
    Accepted settings net mat c.document := by
  have hlisted : ∀ k ∈ mat.nodeGraphs, (net.graph? k).isSome = true := by
    intro k hk
    obtain ⟨_, parameters, _, hbuild⟩ := compile_eq_ok hc
    obtain ⟨g, _, hg, _⟩ := listed_of_build hbuild k hk
    simp [hg]
  obtain ⟨hallowed, hemits⟩ := emits_of_compile (handlesValid_of_resolves hs hroot hlisted) hc
  exact ⟨hs, fun v ho => resolves_of_occurs hs hroot ho, hallowed, hemits⟩

end Resolved

theorem lasts_of_occurs {P : Network → Value → Prop} (hP : Network.Lasting P)
    {issued : List Value} (h : Session net issued)
    (hs : mat.surface.Literal ∨ mat.surface ∈ issued)
    (hm : mat.geometryModifier.Literal ∨ mat.geometryModifier ∈ issued) {v : Value}
    (ho : net.Occurs (rootValues net mat) v) : P net v := by
  have hheld := h.held hP
  rcases ho with hv | ⟨_, n, i, _, hn, hi, rfl⟩
  · rcases mem_rootValues.mp hv with rfl | rfl | ⟨k, _, g, hg, hv⟩
    · exact hheld.given hP hs
    · exact hheld.given hP hm
    · obtain ⟨o, ho, rfl⟩ := List.mem_map.mp hv
      exact hheld.all.outputs g (Network.mem_graphs_of_graph? hg) o ho
  · exact hheld.all.inputs n (Network.mem_nodes_of_node? hn) i hi

theorem rootValues_resolve {issued : List Value} (h : Session net issued)
    (hs : mat.surface.Literal ∨ mat.surface ∈ issued)
    (hm : mat.geometryModifier.Literal ∨ mat.geometryModifier ∈ issued) :
    ∀ v ∈ rootValues net mat, net.Resolves v :=
  fun _ hv => lasts_of_occurs Network.resolves_lasting h hs hm (Or.inl hv)

theorem accepted_of_compile {issued : List Value} {c : Compiled} (h : Session net issued)
    (hs : mat.surface.Literal ∨ mat.surface ∈ issued)
    (hm : mat.geometryModifier.Literal ∨ mat.geometryModifier ∈ issued)
    (hc : compile settings net mat = .ok c) : Accepted settings net mat c.document :=
  accepted_of_resolves h.sound (rootValues_resolve h hs hm) hc

/-- After a session with issued values, every document has its connections to outputs and its
references resolved, and is closed exactly if the material is scoped. -/
theorem compile_closed_iff_scoped {issued : List Value} {c : Compiled} (h : Session net issued)
    (hs : mat.surface.Literal ∨ mat.surface ∈ issued)
    (hm : mat.geometryModifier.Literal ∨ mat.geometryModifier ∈ issued)
    (hc : compile settings net mat = .ok c) :
    c.document.OutputsResolve ∧ c.document.ReferencesResolve ∧
      (c.document.Closed ↔ Scoped net mat) := by
  have ha := accepted_of_compile h hs hm hc
  refine ⟨ha.outputsResolve, ha.referencesResolve, ?_⟩
  rw [← ha.inputsResolve_iff]
  exact ⟨fun hcl => hcl.inputs, fun hi => ⟨ha.outputsResolve, hi, ha.referencesResolve⟩⟩

def lamp : Material := ⟨"Lamp", ⟨DataType.token, .node 3 "out"⟩, .absent, [1]⟩

def borrowingNetwork : Network :=
  .after [.graph "G", .graphOutput 1 "out" (.ofParameter "p" (.bool true))]

def borrowingMaterial : Material := ⟨"M", .absent, .absent, [1]⟩

theorem borrowing_session : Session borrowingNetwork [] := by
  refine .call _ (.call (.graph "G") .start (by simp [Call.values])) fun v hv => Or.inl ?_
  rw [Call.values, List.mem_singleton] at hv
  exact hv ▸ .parameter _ _

theorem borrowing_not_scoped : ¬ Scoped borrowingNetwork borrowingMaterial := by
  intro h
  have hp := h.parameters 1 (by decide) _ rfl (.ofParameter "p" (.bool true)) "p" _
    (Or.inl (by decide)) rfl
  simp at hp

theorem borrowing_not_closed : Session borrowingNetwork [] ∧
    ∃ c, compile .standard borrowingNetwork borrowingMaterial = .ok c ∧ ¬ c.document.Closed := by
  have hsome : (compile .standard borrowingNetwork borrowingMaterial).toOption.isSome = true := by
    decide +kernel
  cases hc : compile .standard borrowingNetwork borrowingMaterial with
  | error e => simp [hc, Except.toOption] at hsome
  | ok c =>
    refine ⟨borrowing_session, c, rfl, fun hclosed => borrowing_not_scoped ?_⟩
    exact (compile_closed_iff_scoped borrowing_session (Or.inl .absent) (Or.inl .absent) hc).2.2.mp
      hclosed

end ShaderGraph.Stage
