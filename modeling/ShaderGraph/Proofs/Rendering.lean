import ShaderGraph.Proofs.Closed

/-!
# What a compilation renders

The emitter turns values into text in the two ways of its `Renderer`: it writes what a value refers
to, and it prints constants. After a session with issued values a compilation always comes to a
report. If it has a document, the text does not depend on how faults, absent values and missing
constants would be written: they are never rendered.
-/
namespace ShaderGraph

/-- The value can be written down: it is there, it is no fault, and its constant is not missing. -/
structure Value.Proper (v : Value) : Prop where
  present : v.source ≠ .absent
  constant : v.source ≠ .constant none
  sane : ∀ m, v.source ≠ .fault m

theorem Network.Sound.source_of_output {net : Network} (hs : net.Sound) {k : GraphId}
    {g : NodeGraph} {o : GraphOutput} (hg : net.graph? k = some g) (ho : o ∈ g.outputs) :
    o.value.source ≠ .absent := by
  intro hv
  have hset := hs.outputValues g (mem_graphs_of_graph? hg) o ho
  rw [Value.isAbsent_iff.mpr hv] at hset
  cases hset

namespace Stage

namespace Renderer

variable {r s : Renderer} {settings : Settings} {net : Network} {mat : Material}

/-! ## Renderers that agree -/

/-- The renderers do the same to everything that can be written down. -/
structure Agrees (r s : Renderer) : Prop where
  reference : ∀ entity v, v.Proper → r.reference entity v = s.reference entity v
  literal : ∀ c, r.literal (some c) = s.literal (some c)

theorem Agrees.inputAssignment (h : r.Agrees s) (entity : Text) {v : Value}
    (hv : v.source ≠ .absent → v.Proper) :
    r.inputAssignment entity v = s.inputAssignment entity v := by
  unfold Renderer.inputAssignment
  by_cases ha : v.isAbsent = true
  · rw [if_pos ha, if_pos ha]
  · rw [if_neg ha, if_neg ha, h.reference entity v (hv (mt Value.isAbsent_iff.mpr ha))]

theorem Agrees.nodeBlock (h : r.Agrees s) {id : NodeId} {n : Node} (entity : Text)
    (hn : ∀ i ∈ n.inputs, i.value.source ≠ .absent → i.value.Proper) :
    r.nodeBlock net entity id n = s.nodeBlock net entity id n := by
  have hinputs : n.inputs.mapM (r.inputDeclaration entity) =
      n.inputs.mapM (s.inputDeclaration entity) := by
    refine Outcome.mapM_congr fun i hi => ?_
    rw [inputDeclaration, inputDeclaration, h.inputAssignment entity (hn i hi)]
  rw [Renderer.nodeBlock, Renderer.nodeBlock, hinputs]

theorem Agrees.nodeBlocks (h : r.Agrees s) {values : List Value} (entity : Text)
    (hv : ∀ v, net.Occurs values v → v.source ≠ .absent → v.Proper) :
    r.nodeBlocks net entity (rootNodes values) = s.nodeBlocks net entity (rootNodes values) := by
  unfold Renderer.nodeBlocks
  cases hids : net.reachable (rootNodes values) with
  | error e => rfl
  | ok ids =>
    refine Outcome.mapM_congr fun id hid => ?_
    have hreach := ((Network.breadthFirst_of_reachable hids).mem_iff id).mp hid
    cases hnode : net.node id with
    | error e => rfl
    | ok n =>
      refine h.nodeBlock entity fun i hi => ?_
      exact hv i.value
        (Or.inr ⟨id, n, i, reaches_rootNodes.mp hreach, Network.node_eq_ok.mp hnode, hi, rfl⟩)

theorem Agrees.parameterDeclaration (h : r.Agrees s) (p : Parameter) :
    r.parameterDeclaration p = s.parameterDeclaration p := by
  obtain ⟨name, _ | c⟩ := p
  · rfl
  · rw [Renderer.parameterDeclaration, Renderer.parameterDeclaration, h.literal]

theorem Agrees.slotAssignment (h : r.Agrees s) (entity : Text) (v : Value) :
    r.slotAssignment entity v = s.slotAssignment entity v := by
  unfold Renderer.slotAssignment
  by_cases hn : v.node?.isSome = true
  · obtain ⟨id, hid⟩ := Option.isSome_iff_exists.mp hn
    obtain ⟨x, hx⟩ := Value.node?_eq_some.mp hid
    have hproper : v.Proper := ⟨by simp [hx], by simp [hx], by simp [hx]⟩
    rw [if_pos hn, if_pos hn, h.reference entity v hproper]
  · rw [if_neg hn, if_neg hn]

theorem Agrees.materialEntity (h : r.Agrees s) (parameters : List Parameter)
    (hv : ∀ v, net.Occurs [mat.surface, mat.geometryModifier] v → v.source ≠ .absent → v.Proper) :
    r.materialEntity net mat parameters = s.materialEntity net mat parameters := by
  unfold Renderer.materialEntity
  have hnodes := h.nodeBlocks mat.name hv
  rw [← materialRoots] at hnodes
  rw [hnodes, slotDeclaration, slotDeclaration, h.slotAssignment, slotDeclaration, slotDeclaration,
    h.slotAssignment, Outcome.mapM_congr fun p _ => h.parameterDeclaration p]

theorem Agrees.graphEntity (h : r.Agrees s) {k : GraphId}
    (hv : ∀ g, net.graph? k = some g → (∀ o ∈ g.outputs, o.value.Proper) ∧
      ∀ v, net.Occurs g.outputValues v → v.source ≠ .absent → v.Proper) :
    r.graphEntity net k = s.graphEntity net k := by
  unfold Renderer.graphEntity
  cases hg : net.graph k with
  | error e => rfl
  | ok g =>
    obtain ⟨houtputs, hv⟩ := hv g (Network.graph_eq_ok.mp hg)
    have hin : g.inputs.mapM r.graphInputDeclaration = g.inputs.mapM s.graphInputDeclaration := by
      refine Outcome.mapM_congr fun i _ => ?_
      simp only [Renderer.graphInputDeclaration, h.literal]
    have hout : g.outputs.mapM (r.graphOutputDeclarations g.name) =
        g.outputs.mapM (s.graphOutputDeclarations g.name) := by
      refine Outcome.mapM_congr fun o ho => ?_
      simp only [Renderer.graphOutputDeclarations, h.reference g.name o.value (houtputs o ho)]
    simp only [bind, Except.bind, hin, hout, h.nodeBlocks g.name hv]

structure Legible (net : Network) (mat : Material) : Prop where
  values : ∀ v, net.Occurs (rootValues net mat) v → v.source ≠ .absent → v.Proper
  outputs : ∀ k ∈ mat.nodeGraphs, ∀ g, net.graph? k = some g →
    ∀ o ∈ g.outputs, o.value.source ≠ .absent

theorem Agrees.build (h : r.Agrees s) (hl : Legible net mat) (parameters : List Parameter) :
    r.build settings net mat parameters = s.build settings net mat parameters := by
  have hmaterial := h.materialEntity parameters fun v ho =>
    hl.values v (ho.mono material_subset_rootValues)
  have hgraphs : mat.nodeGraphs.mapM (r.graphEntity net) =
      mat.nodeGraphs.mapM (s.graphEntity net) := by
    refine Outcome.mapM_congr fun k hk => h.graphEntity fun g hg => ⟨fun o ho => ?_, fun v hv => ?_⟩
    · have hroot := graph_subset_rootValues hk hg o.value (List.mem_map_of_mem ho)
      exact hl.values o.value (Or.inl hroot) (hl.outputs k hk g hg o ho)
    · exact hl.values v (hv.mono (graph_subset_rootValues hk hg))
  rw [Renderer.build, Renderer.build, hmaterial, hgraphs]

theorem Agrees.compile (h : r.Agrees (renderer net)) (hl : Legible net mat) {c : Compiled}
    (hc : Stage.compile settings net mat = .ok c) : r.compile settings net mat = .ok c := by
  obtain ⟨hn, parameters, hcheck, hbuild⟩ := compile_eq_ok hc
  have hr : r.build settings net mat parameters = .ok c := by
    rw [h.build hl, hbuild]
  rw [Renderer.compile, if_neg (by simpa using hn), hcheck]
  change (r.build settings net mat parameters).mapError _ = _
  rw [hr]
  rfl

end Renderer

/-! ## Reports -/

variable {settings : Settings} {net : Network} {mat : Material}

section Resolved

variable (hs : net.Sound) (hroot : ∀ v ∈ rootValues net mat, net.Resolves v)

include hs hroot

theorem default_of_readsParameter {place : NodeId × Nat} {p : Parameter}
    (h : net.ReadsParameter [mat.surface, mat.geometryModifier] place p) : p.default ≠ none := by
  obtain ⟨hid, n, i, hn, hi, hp⟩ := h
  have ho : net.Occurs (rootValues net mat) i.value :=
    Or.inr ⟨_, n, i, hid.mono material_subset_rootValues, hn, List.mem_of_getElem? hi, rfl⟩
  have hres := resolves_of_occurs hs hroot ho
  rw [Network.Resolves, hp] at hres
  exact Option.isSome_iff_ne_none.mp hres

theorem constant_of_occurs {v : Value} (ho : net.Occurs (rootValues net mat) v) :
    v.source ≠ .constant none := by
  intro hv
  have hres := resolves_of_occurs hs hroot ho
  rw [Network.Resolves, hv] at hres
  cases hres

theorem not_incomplete_of_resolves : ¬ Incomplete net mat := by
  intro h
  cases h with
  | constant ho hv => exact constant_of_occurs hs hroot ho hv
  | parameter hf hp =>
    obtain ⟨place, hplace⟩ := hf.exists_place
    exact default_of_readsParameter hs hroot hplace hp
  | output _ hg ho hv => exact hs.source_of_output hg ho hv
  | input _ hg hi _ htype =>
    have hvalid := hs.inputTypes _ (Network.mem_graphs_of_graph? hg) _ hi
    rw [TypeTag.isValid, htype] at hvalid
    cases hvalid

theorem not_unreportable_of_resolves : ¬ Unreportable settings net mat := by
  intro ⟨_, _, a, b, p, q, ha, _, _, hp, _⟩
  exact default_of_readsParameter hs hroot ha hp

theorem compile_cases_of_resolves (hl : ∀ k ∈ mat.nodeGraphs, (net.graph? k).isSome = true) :
    (∃ c, compile settings net mat = .ok c) ∨ compile settings net mat = .error .emptyName ∨
      ∃ faults, faults ≠ [] ∧ compile settings net mat = .error (.faults faults) := by
  by_cases hn : mat.name = []
  · exact Or.inr (Or.inl (compile_unnamed hn))
  · have hv := handlesValid_of_resolves hs hroot hl
    rcases check_cases settings hv hn with ⟨hu, _⟩ | ⟨_, faults, c, hcheck, hc, hnil⟩
    · exact absurd hu (not_unreportable_of_resolves hs hroot)
    · have hcompile := compile_checked hn hcheck
      by_cases hf : faults = []
      · have hr := hnil.mp hf
        obtain ⟨d, hd⟩ := (exists_build hv (mt .surface hr) (mt .geometryModifier hr) hc).mpr
          (not_incomplete_of_resolves hs hroot)
        rw [if_pos (by simpa using hf), hd] at hcompile
        exact Or.inl ⟨d, hcompile⟩
      · rw [if_neg (by simpa using hf)] at hcompile
        exact Or.inr (Or.inr ⟨faults, hf, hcompile⟩)

theorem legible_of_compile {c : Compiled} (hc : compile settings net mat = .ok c) :
    Renderer.Legible net mat := by
  have ha := accepted_of_resolves hs hroot hc
  refine ⟨fun v ho hpresent => ?_, fun k _ g hg o ho hv => ?_⟩
  · exact ⟨hpresent, constant_of_occurs hs hroot ho, fun m hm => ha.allowed (.fault ho hm)⟩
  · exact hs.source_of_output hg ho hv

end Resolved

theorem Compiled.text_ne_nil (c : Compiled) : c.text ≠ [] := by
  intro h
  have hfirst : c.text.head? = some 0x23 := rfl
  rw [h] at hfirst
  cases hfirst

/-- After a session with issued values a compilation always reports: a document and no problem, and
then nothing but proper values and constants that are there has been rendered, or problems and
neither document nor textures. -/
theorem report_of_issued {issued : List Value} (settings : Settings) (h : Session net issued)
    (hs : mat.surface.Literal ∨ mat.surface ∈ issued)
    (hm : mat.geometryModifier.Literal ∨ mat.geometryModifier ∈ issued)
    (hl : ∀ k ∈ mat.nodeGraphs, (net.graph? k).isSome = true) :
    (∃ c, report settings net mat = .ok ⟨c.text, c.textures, []⟩ ∧ c.text ≠ [] ∧
      ∀ r : Renderer, r.Agrees (renderer net) → r.compile settings net mat = .ok c) ∨
    ∃ messages, report settings net mat = .ok ⟨[], [], messages⟩ ∧ messages ≠ [] := by
  have hsound := h.sound
  have hroot := rootValues_resolve h hs hm
  rcases compile_cases_of_resolves hsound hroot hl with ⟨c, hc⟩ | hc | ⟨faults, hf, hc⟩
  · have hlegible := legible_of_compile hsound hroot hc
    refine Or.inl ⟨c, by rw [report, hc], c.text_ne_nil, fun r hr => hr.compile hlegible hc⟩
  · exact Or.inr ⟨_, by rw [report, hc], by simp [CompileError.message?]⟩
  · exact Or.inr ⟨faults, by rw [report, hc], hf⟩

theorem lamp_report : Session scaled.1 scaled.2 ∧
    ∃ c, report .standard scaled.1 lamp = .ok ⟨c.text, c.textures, []⟩ ∧ c.text ≠ [] ∧
      ∀ r : Renderer, r.Agrees (renderer scaled.1) →
        r.compile .standard scaled.1 lamp = .ok c := by
  have hnone : (report .standard scaled.1 lamp).toOption.map (·.messages) = some [] := by
    decide +kernel
  have hsurface : lamp.surface ∈ scaled.2 := by decide +kernel
  have hlisted : ∀ k ∈ lamp.nodeGraphs, (scaled.1.graph? k).isSome = true := by decide +kernel
  refine ⟨scaled_session, ?_⟩
  rcases report_of_issued .standard scaled_session (Or.inr hsurface) (Or.inl .absent) hlisted with
    h | ⟨messages, hr, hne⟩
  · exact h
  · rw [hr] at hnone
    exact absurd (Option.some.inj hnone) hne

end Stage
end ShaderGraph
