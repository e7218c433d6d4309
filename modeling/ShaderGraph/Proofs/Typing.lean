import ShaderGraph.Proofs.Closed

/-!
# Types of connections

A value is typed if its type is the one declared for what it refers to. This lasts: networks only
grow, and growth changes no declared type. In a document that is made of typed values, under the
strict policy, every connection is written with the type under which its source is declared.
-/
namespace ShaderGraph

theorem Constant.dataType_of_agrees {a b : Constant} (h : a.agrees b = true) :
    a.dataType = b.dataType := by
  cases a <;> cases b <;> simp_all [agrees, dataType]

namespace Network

variable {net net' : Network}

def Types (net : Network) (v : Value) : Prop :=
  match v.source with
  | .node id slot => net.outputType id slot = .ok v.type
  | .graphInput k x => ∃ g i, net.graph? k = some g ∧ g.input? x = some i ∧ i.type = v.type
  | .constant default | .parameter _ default => ∃ c, default = some c ∧ v.type = c.dataType
  | .absent | .fault _ => True

theorem Grows.outputType (h : net.Grows net') {id : NodeId} {slot : Text} {type : TypeTag}
    (ht : net.outputType id slot = .ok type) : net'.outputType id slot = .ok type := by
  rw [outputType_eq_ok] at ht ⊢
  obtain ⟨n, hn, hcases⟩ := ht
  refine ⟨n, h.node? hn, ?_⟩
  by_cases href : n.isReference = true
  · rw [if_pos href] at hcases ⊢
    obtain ⟨g, o, hg, ho, htype⟩ := hcases
    obtain ⟨g', hg', _, _, _, houtputs⟩ := h.graphs n.graph g hg
    exact ⟨g', o, hg', houtputs.find?_eq_some ho, htype⟩
  · rw [if_neg href] at hcases ⊢
    exact hcases

theorem Grows.types (h : net.Grows net') {v : Value} (hv : net.Types v) : net'.Types v := by
  obtain ⟨type, source⟩ := v
  cases source with
  | node id slot => exact h.outputType hv
  | graphInput k x =>
    obtain ⟨g, i, hg, hi, htype⟩ := hv
    obtain ⟨g', hg', _, _, hinputs, _⟩ := h.graphs k g hg
    exact ⟨g', i, hg', hinputs.find?_eq_some hi, htype⟩
  | absent => trivial
  | constant c => exact hv
  | parameter name default => exact hv
  | fault message => trivial

theorem types_lasting : Lasting Types where
  grows hg hv := hg.types hv
  literal hv := by
    cases hv with
    | absent => trivial
    | constant c => exact ⟨c, rfl, rfl⟩
    | parameter name c => exact ⟨c, rfl, rfl⟩
    | fault type message => trivial
  output hv := by
    obtain ⟨type, htype, hv⟩ := Outcome.bind_eq_ok.mp hv
    rw [← Outcome.pure_eq_ok.mp hv]
    exact htype
  graphInput hs he := by
    obtain ⟨rfl, g, hg, hi⟩ := hs.graphInput_declared he
    exact ⟨g, _, hg, hi, rfl⟩

end Network

namespace Stage

variable {settings : Settings} {net : Network} {mat : Material} {d : Document} {e : Entity}

/-! ## Declared types -/

def firstType (slots : List Declaration) (side : Side) (name : Text) : Option TypeTag :=
  (slots.find? fun d => d.side = side && d.name = name).map (·.type)

theorem firstType_of_forall {slots : List Declaration} {side : Side} {name : Text} {type : TypeTag}
    (hd : Declares slots side name)
    (h : ∀ d ∈ slots, d.side = side → d.name = name → d.type = type) :
    firstType slots side name = some type := by
  obtain ⟨d, hd, hside, hname⟩ := hd
  have hsome : (slots.find? fun d => d.side = side && d.name = name).isSome = true :=
    List.find?_isSome.mpr ⟨d, hd, by simp [hside, hname]⟩
  obtain ⟨f, hf⟩ := Option.isSome_iff_exists.mp hsome
  have hmatch : f.side = side ∧ f.name = name := by simpa using List.find?_some hf
  rw [firstType, hf, Option.map_some, h f (List.mem_of_find?_eq_some hf) hmatch.1 hmatch.2]

theorem nodeBlock_firstType {entity slot : Text} {id : NodeId} {n : Node} {b : NodeBlock}
    (h : (renderer net).nodeBlock net entity id n = .ok b) :
    firstType b.slots .outputs slot = (n.output? slot).map (·.type) := by
  obtain ⟨kind, _, inputs, hinputs, rfl⟩ := nodeBlock_eq_ok.mp h
  have hnone : inputs.find? (fun d => d.side = .outputs && d.name = slot) = none := by
    rw [List.find?_eq_none]
    intro d hd
    obtain ⟨i, _, hid⟩ := (Outcome.mem_mapM hinputs).mp hd
    obtain ⟨a, _, rfl⟩ := inputDeclaration_eq_ok.mp hid
    simp
  rw [firstType, List.find?_append, hnone, Option.none_or, List.find?_map, Option.map_map]
  rfl

theorem graphEntity_slots {k : GraphId} {g : NodeGraph} (hg : net.graph? k = some g)
    (h : (renderer net).graphEntity net k = .ok e) {dec : Declaration} (hd : dec ∈ e.slots) :
    (∃ i ∈ g.inputs, ∃ text, dec = ⟨i.type, .inputs, i.name, .literal text⟩) ∨
      ∃ o ∈ g.outputs, ∃ a, (a = .unset ∨ assignment net g.name o.value = .ok a) ∧
        dec = ⟨o.value.type, .outputs, o.name, a⟩ := by
  obtain ⟨g', hg', h⟩ := Outcome.bind_eq_ok.mp h
  obtain rfl : g = g' := Option.some.inj (hg.symm.trans (Network.graph_eq_ok.mp hg'))
  obtain ⟨inputs, hinputs, h⟩ := Outcome.bind_eq_ok.mp h
  obtain ⟨outputs, houtputs, h⟩ := Outcome.bind_eq_ok.mp h
  obtain ⟨nodes, _, h⟩ := Outcome.bind_eq_ok.mp h
  obtain rfl := Outcome.pure_eq_ok.mp h
  rcases List.mem_append.mp hd with hd | hd
  · obtain ⟨i, hi, hd⟩ := (Outcome.mem_mapM hinputs).mp hd
    obtain ⟨c, _, hd⟩ := Outcome.bind_eq_ok.mp hd
    exact Or.inl ⟨i, hi, _, (Outcome.pure_eq_ok.mp hd).symm⟩
  · obtain ⟨o, ho, a, ha, rfl | rfl⟩ := (mem_graphOutputs houtputs).mp hd
    · exact Or.inr ⟨o, ho, .unset, Or.inl rfl, rfl⟩
    · exact Or.inr ⟨o, ho, a, Or.inr ha, rfl⟩

theorem graphEntity_inputType (hs : net.Sound) {k : GraphId} {g : NodeGraph}
    (hg : net.graph? k = some g) (h : (renderer net).graphEntity net k = .ok e) {x : Text} {i : GraphInput}
    (hi : g.input? x = some i) : firstType e.slots .inputs x = some i.type := by
  have hmem := List.mem_of_find?_eq_some hi
  have hname : i.name = x := by simpa using List.find?_some hi
  have hdeclares : Declares e.slots .inputs x :=
    ((graphEntity_spec hg h).2.1 x).mpr (List.mem_map.mpr ⟨i, hmem, hname⟩)
  refine firstType_of_forall hdeclares fun dec hd hside hdec => ?_
  rcases graphEntity_slots hg h hd with ⟨j, hj, _, rfl⟩ | ⟨_, _, _, _, rfl⟩
  · -- Names of inputs are distinct.
    have hnodup := hs.inputNames g (Network.mem_graphs_of_graph? hg)
    rw [List.inj_on_of_nodup_map hnodup hj hmem (hdec.trans hname.symm)]
  · cases hside

theorem graphEntity_outputType (hs : net.Sound) {k : GraphId} {g : NodeGraph}
    (hg : net.graph? k = some g) (h : (renderer net).graphEntity net k = .ok e) {x : Text} {o : GraphOutput}
    (ho : g.output? x = some o) : firstType e.slots .outputs x = some o.value.type := by
  have hmem := List.mem_of_find?_eq_some ho
  have hname : o.name = x := by simpa using List.find?_some ho
  have hdeclares : Declares e.slots .outputs x :=
    (graphEntity_spec hg h).2.2.1 x (List.mem_map.mpr ⟨o, hmem, hname⟩)
  refine firstType_of_forall hdeclares fun dec hd hside hdec => ?_
  rcases graphEntity_slots hg h hd with ⟨_, _, _, rfl⟩ | ⟨p, hp, _, _, rfl⟩
  · cases hside
  · have hnodup := hs.outputNames g (Network.mem_graphs_of_graph? hg)
    rw [List.inj_on_of_nodup_map hnodup hp hmem (hdec.trans hname.symm)]

theorem materialEntity_slots {parameters : List Parameter}
    (h : (renderer net).materialEntity net mat parameters = .ok e) {dec : Declaration}
    (hd : dec ∈ e.slots) :
    (∃ p ∈ parameters, ∃ c text, p.default = some c ∧
      dec = ⟨c.dataType, .inputs, p.name, .literal text⟩) ∨
    ∃ (slot : Text) (v : Value) (a : Assignment), (slot = "mtlx:surface" ∧ v = mat.surface ∨
        slot = "realitykit:vertex" ∧ v = mat.geometryModifier) ∧
      (renderer net).slotAssignment mat.name v = .ok a ∧ dec = ⟨DataType.token, .outputs, slot, a⟩ := by
  obtain ⟨inputs, hinputs, h⟩ := Outcome.bind_eq_ok.mp h
  obtain ⟨surface, hsurface, h⟩ := Outcome.bind_eq_ok.mp h
  obtain ⟨vertex, hvertex, h⟩ := Outcome.bind_eq_ok.mp h
  obtain ⟨nodes, _, h⟩ := Outcome.bind_eq_ok.mp h
  obtain rfl := Outcome.pure_eq_ok.mp h
  rcases List.mem_append.mp hd with hd | hd
  · obtain ⟨p, hp, hd⟩ := (Outcome.mem_mapM hinputs).mp hd
    obtain ⟨c, hc, rfl⟩ := parameterDeclaration_eq_ok.mp hd
    exact Or.inl ⟨p, hp, c, _, hc, rfl⟩
  · obtain ⟨a, ha, rfl⟩ := slotDeclaration_eq_ok.mp hsurface
    obtain ⟨b, hb, rfl⟩ := slotDeclaration_eq_ok.mp hvertex
    simp only [List.mem_cons, List.not_mem_nil, or_false] at hd
    rcases hd with rfl | rfl
    · exact Or.inr ⟨_, _, a, Or.inl ⟨rfl, rfl⟩, ha, rfl⟩
    · exact Or.inr ⟨_, _, b, Or.inr ⟨rfl, rfl⟩, hb, rfl⟩

theorem nodeBlock_slot {entity : Text} {id : NodeId} {n : Node} {b : NodeBlock}
    (h : (renderer net).nodeBlock net entity id n = .ok b) {j : Nat} {i : Input}
    (hi : n.inputs[j]? = some i) :
    ∃ dec, (renderer net).inputDeclaration entity i = .ok dec ∧ b.slots[j]? = some dec := by
  obtain ⟨kind, _, inputs, hinputs, rfl⟩ := nodeBlock_eq_ok.mp h
  have hall := Outcome.mapM_eq_ok.mp hinputs
  have hj : j < n.inputs.length := (List.getElem?_eq_some_iff.mp hi).1
  have hj' : j < inputs.length := hall.length_eq ▸ hj
  refine ⟨inputs[j], ?_, ?_⟩
  · have hget := hall.get hj hj'
    rw [List.getElem?_eq_getElem hj] at hi
    rw [← Option.some.inj hi]
    exact hget
  · rw [List.getElem?_append_left hj', List.getElem?_eq_getElem hj']

theorem nodeBlock_connected {entity : Text} {id : NodeId} {n : Node} {b : NodeBlock}
    (h : (renderer net).nodeBlock net entity id n = .ok b) {dec : Declaration} {t : Target}
    (hd : dec ∈ b.slots) (ht : dec.assignment = .connection t) :
    ∃ (j : Nat) (i : Input), n.inputs[j]? = some i ∧ b.slots[j]? = some dec := by
  obtain ⟨kind, _, inputs, hinputs, rfl⟩ := nodeBlock_eq_ok.mp h
  rcases List.mem_append.mp hd with hd | hd
  · obtain ⟨j, hj, rfl⟩ := List.mem_iff_getElem.mp hd
    have hlength := (Outcome.mapM_eq_ok.mp hinputs).length_eq
    refine ⟨j, n.inputs[j], List.getElem?_eq_getElem (hlength ▸ hj), ?_⟩
    rw [List.getElem?_append_left hj, List.getElem?_eq_getElem hj]
  · obtain ⟨o, _, rfl⟩ := List.mem_map.mp hd
    cases ht

theorem type_of_driven {entity : Text} {v : Value} {t : Target} (hv : ¬ Undriven v)
    (ha : assignment net entity v = .ok (.connection t)) : v.type = DataType.token := by
  by_contra htype
  refine hv ⟨fun hs => ?_, fun m hs => ?_, fun hd => htype hd.1⟩
  · rw [assignment, hs] at ha
    cases ha
  · rw [assignment, hs] at ha
    cases ha

/-! ## Connections and what they are declared as -/

/-- The declaration is written for the value: it stands in the block of a node where the value stands
among the inputs of the node, or it declares the output that the value drives. -/
inductive Document.WrittenFor (d : Document) (net : Network) (mat : Material) (e : Entity) :
    Declaration → Value → Prop
  | input {b : NodeBlock} {n : Node} {i : Input} {j : Nat} {dec : Declaration} : b ∈ e.nodes →
      net.node? b.id = some n → n.inputs[j]? = some i → b.slots[j]? = some dec →
      WrittenFor d net mat e dec i.value
  | output {g : NodeGraph} {o : GraphOutput} {dec : Declaration} : e ∈ d.graphs → g ∈ net.graphs →
      g.name = e.name → o ∈ g.outputs → dec ∈ e.slots → dec.side = .outputs → dec.name = o.name →
      WrittenFor d net mat e dec o.value
  | surface {dec : Declaration} : e = d.material → dec ∈ e.slots → dec.side = .outputs →
      dec.name = "mtlx:surface" → WrittenFor d net mat e dec mat.surface
  | geometryModifier {dec : Declaration} : e = d.material → dec ∈ e.slots → dec.side = .outputs →
      dec.name = "realitykit:vertex" → WrittenFor d net mat e dec mat.geometryModifier

/-- The document declares with the type what the value refers to inside the entity. An instance has
the outputs of its graph. Nothing is said of inputs of graphs that are not listed and of parameters
that are read inside a graph. -/
def Document.DeclaresAs (d : Document) (net : Network) (mat : Material) (e : Entity) (v : Value)
    (type : TypeTag) : Prop :=
  match v.source with
  | .node id slot => ∃ b ∈ e.nodes, b.id = id ∧
      match b.kind with
      | .shader _ => firstType b.slots .outputs slot = some type
      | .instanceOf name =>
        ∃ g ∈ d.graphs, g.name = name ∧ firstType g.slots .outputs slot = some type
  | .graphInput k x => k ∈ mat.nodeGraphs → ∃ g ∈ d.graphs,
      (net.graph? k).map (·.name) = some g.name ∧ firstType g.slots .inputs x = some type
  | .parameter name _ => e = d.material → firstType e.slots .inputs name = some type
  | _ => False

structure Typed (settings : Settings) (net : Network) (mat : Material) (d : Document)
    (collected : Collected) : Prop extends Accepted settings net mat d where
  typed : ∀ v, net.Occurs (rootValues net mat) v → net.Types v
  collects : net.parameters settings.policy (materialRoots mat) = .ok collected
  material : (renderer net).materialEntity net mat collected.parameters = .ok d.material

theorem parameters_of_check {faults : List Text} {parameters : List Parameter}
    (h : check settings net mat = .ok (faults, parameters)) :
    ∃ collected, net.parameters settings.policy (materialRoots mat) = .ok collected ∧
      collected.parameters = parameters := by
  obtain ⟨⟨listed, outputs⟩, _, h⟩ := Outcome.bind_eq_ok.mp h
  obtain ⟨unlisted, _, h⟩ := Outcome.bind_eq_ok.mp h
  obtain ⟨found, _, h⟩ := Outcome.bind_eq_ok.mp h
  obtain ⟨collected, hc, h⟩ := Outcome.bind_eq_ok.mp h
  obtain ⟨conflicts, _, h⟩ := Outcome.bind_eq_ok.mp h
  exact ⟨collected, hc, (Prod.mk.inj (Outcome.pure_eq_ok.mp h)).2⟩

theorem typed_of_compile {issued : List Value} {c : Compiled} (h : Session net issued)
    (hs : mat.surface.Literal ∨ mat.surface ∈ issued)
    (hm : mat.geometryModifier.Literal ∨ mat.geometryModifier ∈ issued)
    (hc : compile settings net mat = .ok c) :
    ∃ collected, Typed settings net mat c.document collected := by
  have haccepted := accepted_of_compile h hs hm hc
  have htyped : ∀ v, net.Occurs (rootValues net mat) v → net.Types v :=
    fun _ ho => lasts_of_occurs Network.types_lasting h hs hm ho
  obtain ⟨_, parameters, hcheck, hbuild⟩ := compile_eq_ok hc
  obtain ⟨collected, hcollected, rfl⟩ := parameters_of_check hcheck
  obtain ⟨material, hmaterial, _, _, rfl⟩ := build_eq_ok.mp hbuild
  exact ⟨collected, haccepted, htyped, hcollected, hmaterial⟩

inductive Feeds (net : Network) (mat : Material) (d : Document) (v : Value) : Entity → Prop
  | material : net.Occurs [mat.surface, mat.geometryModifier] v → Feeds net mat d v d.material
  | graph {e : Entity} {k : GraphId} {g : NodeGraph} : k ∈ mat.nodeGraphs →
      net.graph? k = some g → (renderer net).graphEntity net k = .ok e → net.Occurs g.outputValues v →
      Feeds net mat d v e

namespace Typed

variable {collected : Collected} {v : Value} {dec : Declaration} {t : Target}

theorem exists_values (h : Typed settings net mat d collected) (he : e ∈ d.entities) :
    ∃ values, e.DrivenBy net values ∧ ∀ v, net.Occurs values v → Feeds net mat d v e := by
  rcases List.mem_cons.mp he with rfl | he
  · exact ⟨_, h.emits.driven, fun v ho => .material ho⟩
  · obtain ⟨k, hk, hke⟩ := (h.emits.graphs e).mp he
    obtain ⟨g, _, hg, _⟩ := h.emits.listed k hk
    exact ⟨_, (graphEntity_spec hg hke).2.2.2, fun v ho => .graph hk hg hke ho⟩

theorem ne_material (h : Typed settings net mat d collected) {k : GraphId} {g : NodeGraph}
    (hk : k ∈ mat.nodeGraphs) (hg : net.graph? k = some g) (he : (renderer net).graphEntity net k = .ok e) :
    e ≠ d.material := by
  intro heq
  have hname : g.name = mat.name := by
    rw [← (graphEntity_spec hg he).1, heq, h.emits.name]
  exact h.allowed (.namesake hk hg hname)

/-- Under the strict policy all reads of a parameter have the type of its declaration. -/
theorem parameterType (h : Typed settings net mat d collected) (hp : settings.policy = .strict)
    {place : NodeId × Nat} {p : Parameter} {c : Constant}
    (hr : net.ReadsParameter [mat.surface, mat.geometryModifier] place p)
    (hc : p.default = some c) : firstType d.material.slots .inputs p.name = some c.dataType := by
  have hdeclares := (h.emits.parameters p.name).mpr ⟨place, p, hr, rfl⟩
  refine firstType_of_forall hdeclares fun dec hd hside hname => ?_
  rcases materialEntity_slots h.material hd with ⟨q, hq, k, text, hk, rfl⟩ | ⟨_, _, _, _, _, rfl⟩
  · obtain ⟨first, hfirst⟩ := ((Network.mem_parameters_iff h.collects).mp hq).exists_place
    have hagree : Constant.agree? q.default p.default = true ∨ q = p := by
      by_contra hne
      obtain ⟨hdiffer, hqp⟩ := not_or.mp hne
      have hplace : first ≠ place := fun heq => hqp (hfirst.unique (heq ▸ hr))
      have hconflict : net.Conflicting [mat.surface, mat.geometryModifier] :=
        ⟨first, place, q, p, hplace, hfirst, hr, hname, by simpa using hdiffer⟩
      exact h.allowed (.conflict (by simp [hp]) hconflict)
    rcases hagree with hagree | rfl
    · rw [hk, hc] at hagree
      rw [Constant.dataType_of_agrees hagree]
    · rw [Option.some.inj (hk.symm.trans hc)]
  · cases hside

theorem exists_driven (h : Typed settings net mat d collected) (hf : Feeds net mat d v e) :
    ∃ values, e.DrivenBy net values ∧ net.Occurs values v ∧
      ∀ w ∈ values, w ∈ rootValues net mat := by
  cases hf with
  | material ho => exact ⟨_, h.emits.driven, ho, material_subset_rootValues⟩
  | graph hk hg hge ho =>
    exact ⟨_, (graphEntity_spec hg hge).2.2.2, ho, graph_subset_rootValues hk hg⟩

theorem declaresAs_node (h : Typed settings net mat d collected) (hf : Feeds net mat d v e)
    {id : NodeId} {slot : Text} {type : TypeTag} (hv : v.source = .node id slot)
    (ht : net.outputType id slot = .ok type) : d.DeclaresAs net mat e v type := by
  obtain ⟨values, hd, ho, hsub⟩ := h.exists_driven hf
  obtain ⟨n, hn, hcases⟩ := Network.outputType_eq_ok.mp ht
  have hid := ho.reaches hv
  obtain ⟨b, hb⟩ := hd.complete id n hid hn
  rw [Document.DeclaresAs, hv]
  refine ⟨b, (hd.blocks b).mpr ⟨id, n, hid, hn, hb⟩, nodeBlock_id hb, ?_⟩
  have hkind : ∀ name, b.kind = .instanceOf name ↔ _ := fun _ => nodeBlock_instanceOf hb
  by_cases href : n.isReference = true
  · rw [if_pos href] at hcases
    obtain ⟨g, o, hg, hslot, rfl⟩ := hcases
    rw [(hkind g.name).mpr ⟨href, g, hg, rfl⟩]
    have hk := h.instance_listed (hid.mono hsub) hn href
    obtain ⟨_, ge, _, hge⟩ := h.emits.listed n.graph hk
    exact ⟨ge, (h.emits.graphs ge).mpr ⟨n.graph, hk, hge⟩, (graphEntity_spec hg hge).1,
      graphEntity_outputType h.sound hg hge hslot⟩
  · rw [if_neg href] at hcases
    obtain ⟨o, hslot, rfl⟩ := hcases
    cases hb' : b.kind with
    | shader type =>
      change firstType b.slots .outputs slot = _
      rw [nodeBlock_firstType hb, hslot]
      rfl
    | instanceOf name => exact absurd ((hkind name).mp hb').1 href

theorem declaresAs (h : Typed settings net mat d collected) (hp : settings.policy = .strict)
    (hf : Feeds net mat d v e)
    (ha : assignment net e.name v = .ok (.connection t)) : d.DeclaresAs net mat e v v.type := by
  obtain ⟨values, _, ho, hsub⟩ := h.exists_driven hf
  have htyped := h.typed v (ho.mono hsub)
  rcases assignment_connection.mp ha with ⟨id, slot, hv, _⟩ | ⟨k, x, g, hv, hg, _⟩ |
    ⟨name, default, hv, _⟩
  · rw [Network.Types, hv] at htyped
    exact h.declaresAs_node hf hv htyped
  · rw [Network.Types, hv] at htyped
    rw [Document.DeclaresAs, hv]
    intro hk
    obtain ⟨g', i, hg', hi, htype⟩ := htyped
    obtain ⟨_, ge, _, hge⟩ := h.emits.listed k hk
    refine ⟨ge, (h.emits.graphs ge).mpr ⟨k, hk, hge⟩, ?_, ?_⟩
    · rw [hg', (graphEntity_spec hg' hge).1]
      rfl
    · rw [← htype]
      exact graphEntity_inputType h.sound hg' hge hi
  · rw [Network.Types, hv] at htyped
    rw [Document.DeclaresAs, hv]
    intro hmaterial
    obtain ⟨c, rfl, htype⟩ := htyped
    cases hf with
    | graph hk hg hge _ => exact absurd hmaterial (h.ne_material hk hg hge)
    | material ho =>
      obtain ⟨place, hr⟩ := h.reads_parameter ho hv
      rw [htype]
      exact h.parameterType hp hr rfl

theorem written_slot (h : Typed settings net mat d collected) {slot : Text}
    (hslot : slot = "mtlx:surface" ∧ v = mat.surface ∨
      slot = "realitykit:vertex" ∧ v = mat.geometryModifier)
    (hd : dec ∈ d.material.slots) (hside : dec.side = .outputs) (hname : dec.name = slot)
    (ht : dec.assignment = .connection t) : Feeds net mat d v d.material ∧
      assignment net d.material.name v = .ok (.connection t) ∧ v.type = dec.type := by
  rcases materialEntity_slots h.material hd with
    ⟨_, _, _, _, _, rfl⟩ | ⟨slot', v', a, hslot', ha, rfl⟩
  · cases hside
  · obtain rfl : slot' = slot := hname
    obtain rfl : v' = v := by
      rcases hslot with ⟨rfl, rfl⟩ | ⟨rfl, rfl⟩ <;> rcases hslot' with ⟨hs, rfl⟩ | ⟨hs, rfl⟩
      · rfl
      · exact absurd hs (by decide)
      · exact absurd hs (by decide)
      · rfl
    obtain rfl : a = .connection t := ht
    have hdriven : ¬ Undriven v' := by
      rcases hslot with ⟨_, rfl⟩ | ⟨_, rfl⟩
      · exact mt .surface h.allowed
      · exact mt .geometryModifier h.allowed
    have ha := (slotAssignment_connection hdriven).mp ha
    refine ⟨.material (Or.inl ?_), by rwa [h.emits.name], type_of_driven hdriven ha⟩
    rcases hslot with ⟨_, rfl⟩ | ⟨_, rfl⟩ <;> simp

theorem feeds_of_written (h : Typed settings net mat d collected) (he : e ∈ d.entities)
    (hw : d.WrittenFor net mat e dec v) (ht : dec.assignment = .connection t) :
    Feeds net mat d v e ∧ assignment net e.name v = .ok (.connection t) ∧ v.type = dec.type := by
  cases hw with
  | @input b n i j dec hb hn hi hdec =>
    obtain ⟨values, hd, hfeeds⟩ := h.exists_values he
    obtain ⟨id, n', hid, hn', hnb⟩ := (hd.blocks b).mp hb
    rw [nodeBlock_id hnb, hn'] at hn
    obtain rfl := Option.some.inj hn
    obtain ⟨dec', hdec', hslot⟩ := nodeBlock_slot hnb hi
    obtain rfl : dec' = dec := Option.some.inj (hslot.symm.trans hdec)
    obtain ⟨a, ha, rfl⟩ := inputDeclaration_eq_ok.mp hdec'
    obtain rfl : a = .connection t := ht
    have ha := inputAssignment_connection.mp ha
    have hmem := List.mem_of_getElem? hi
    refine ⟨hfeeds _ (Or.inr ⟨id, n', i, hid, hn', hmem, rfl⟩), ha, ?_⟩
    have hwired := h.sound.wired n' (Network.mem_nodes_of_node? hn') i hmem
    refine hwired.value.resolve_left fun habsent => ?_
    rw [assignment, Value.isAbsent_iff.mp habsent] at ha
    cases ha
  | @output g o dec hge hg hname ho hdec hside hdname =>
    obtain ⟨k, hk, hke⟩ := (h.emits.graphs e).mp hge
    obtain ⟨g', _, hg', _⟩ := h.emits.listed k hk
    have hname' := (graphEntity_spec hg' hke).1
    obtain rfl : g' = g := List.inj_on_of_nodup_map h.sound.graphNames
      (Network.mem_graphs_of_graph? hg') hg (hname'.symm.trans hname.symm)
    rcases graphEntity_slots hg' hke hdec with ⟨_, _, _, rfl⟩ | ⟨o', ho', a, ha, rfl⟩
    · cases hside
    · obtain rfl : o' = o := List.inj_on_of_nodup_map (h.sound.outputNames g' hg) ho' ho hdname
      obtain rfl : a = .connection t := ht
      rcases ha with ha | ha
      · cases ha
      · exact ⟨.graph hk hg' hke (Or.inl (List.mem_map_of_mem ho)), by rwa [hname'], rfl⟩
  | surface heq hd hside hname =>
    subst heq
    exact h.written_slot (Or.inl ⟨rfl, rfl⟩) hd hside hname ht
  | geometryModifier heq hd hside hname =>
    subst heq
    exact h.written_slot (Or.inr ⟨rfl, rfl⟩) hd hside hname ht

theorem exists_written (h : Typed settings net mat d collected) (he : e ∈ d.entities)
    (hd : dec ∈ e.declarations) (ht : dec.assignment = .connection t) :
    ∃ v, d.WrittenFor net mat e dec v := by
  rcases List.mem_append.mp hd with hd | hd
  · rcases List.mem_cons.mp he with rfl | he
    · rcases materialEntity_slots h.material hd with
        ⟨_, _, _, _, _, rfl⟩ | ⟨slot, v, a, hslot, _, rfl⟩
      · cases ht
      · rcases hslot with ⟨rfl, _⟩ | ⟨rfl, _⟩
        · exact ⟨_, .surface rfl hd rfl rfl⟩
        · exact ⟨_, .geometryModifier rfl hd rfl rfl⟩
    · obtain ⟨k, hk, hke⟩ := (h.emits.graphs e).mp he
      obtain ⟨g, _, hg, _⟩ := h.emits.listed k hk
      rcases graphEntity_slots hg hke hd with ⟨_, _, _, rfl⟩ | ⟨o, ho, a, _, rfl⟩
      · cases ht
      · have hname := (graphEntity_spec hg hke).1.symm
        exact ⟨_, .output he (Network.mem_graphs_of_graph? hg) hname ho hd rfl rfl⟩
  · obtain ⟨b, hb, hdb⟩ := List.mem_flatMap.mp hd
    obtain ⟨values, hdriven, _⟩ := h.exists_values he
    obtain ⟨id, n, _, hn, hnb⟩ := (hdriven.blocks b).mp hb
    obtain ⟨j, i, hi, hslot⟩ := nodeBlock_connected hnb hdb ht
    have hid : net.node? b.id = some n := by rw [nodeBlock_id hnb, hn]
    exact ⟨_, .input hb hid hi hslot⟩

end Typed

/-- After a session with issued values and under the strict policy, every connection of a document is
written for a value, and its type is the one under which the document declares what that value
refers to. -/
theorem connections_typed {issued : List Value} {c : Compiled} (h : Session net issued)
    (hs : mat.surface.Literal ∨ mat.surface ∈ issued)
    (hm : mat.geometryModifier.Literal ∨ mat.geometryModifier ∈ issued)
    (hp : settings.policy = .strict) (hc : compile settings net mat = .ok c) :
    ∀ e ∈ c.document.entities, ∀ dec ∈ e.declarations, ∀ t, dec.assignment = .connection t →
      (∃ v, c.document.WrittenFor net mat e dec v) ∧
      ∀ v, c.document.WrittenFor net mat e dec v →
        c.document.DeclaresAs net mat e v dec.type := by
  intro e he dec hd t ht
  obtain ⟨collected, htyped⟩ := typed_of_compile h hs hm hc
  refine ⟨htyped.exists_written he hd ht, fun v hw => ?_⟩
  obtain ⟨hfeeds, ha, htype⟩ := htyped.feeds_of_written he hw ht
  rw [← htype]
  exact htyped.declaresAs hp hfeeds ha

theorem lamp_opacity_typed : Session scaled.1 scaled.2 ∧ ∃ c,
    compile .standard scaled.1 lamp = .ok c ∧
      c.document.DeclaresAs scaled.1 lamp c.document.material
        ⟨DataType.scalarFloat, .node 2 "scaled"⟩ DataType.scalarFloat := by
  have hsurface : lamp.surface ∈ scaled.2 := by decide +kernel
  let opacity : Declaration :=
    ⟨DataType.scalarFloat, .inputs, "opacity", .connection (.output "Lamp" 2 "scaled")⟩
  have hblock : (compile .standard scaled.1 lamp).toOption.any (fun c =>
      c.document.material.nodes.any fun b => b.id = 3 && b.slots[1]? = some opacity) = true := by
    decide +kernel
  have hinput : (scaled.1.node? 3).bind (·.inputs[1]?) =
      some ⟨"opacity", DataType.scalarFloat, ⟨DataType.scalarFloat, .node 2 "scaled"⟩⟩ := by
    decide +kernel
  refine ⟨scaled_session, ?_⟩
  cases hc : compile .standard scaled.1 lamp with
  | error e => simp [hc, Except.toOption] at hblock
  | ok c =>
    obtain ⟨n, hn, hi⟩ := Option.bind_eq_some_iff.mp hinput
    simp only [hc, Except.toOption, Option.any_some, List.any_eq_true, Bool.and_eq_true,
      decide_eq_true_eq] at hblock
    obtain ⟨b, hb, hid, hslot⟩ := hblock
    have hdec : opacity ∈ c.document.material.declarations :=
      List.mem_append_right _ (List.mem_flatMap.mpr ⟨b, hb, List.mem_of_getElem? hslot⟩)
    have hconnection := connections_typed scaled_session (Or.inr hsurface) (Or.inl .absent) rfl hc
      c.document.material List.mem_cons_self opacity hdec _ rfl
    exact ⟨c, rfl, hconnection.2 _ (.input hb (hid ▸ hn) hi hslot)⟩

end Stage
end ShaderGraph
