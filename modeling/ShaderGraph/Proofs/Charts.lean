import ShaderGraph.Proofs.LoadRuns

/-!
# What a load builds

A load that succeeds leaves a chart of its network: the nodes of each graph and those of the top
level have consecutive handles, one range after the other, and each node is the one that its
declaration describes. The chart says nothing of the order in which the nodes of a scope were built
but that a node comes after those it refers to.
-/
namespace ShaderGraph

namespace Network

variable {net net' : Network}

theorem graph?_of_graphs (h : net.graphs <+: net'.graphs) {id : GraphId} {g : NodeGraph}
    (hg : net.graph? id = some g) : net'.graph? id = some g := by
  cases id with
  | zero => simp [graph?] at hg
  | succ k =>
    obtain ⟨later, hl⟩ := h
    have hk : k < net.graphs.length := (List.getElem?_eq_some_iff.mp hg).1
    simpa only [graph?, ← hl, List.getElem?_append_left hk] using hg

theorem Sound.graph_le (hs : net.Sound) {n : Node} (hn : n ∈ net.nodes) :
    n.graph ≤ net.graphs.length := by
  cases hgraph : n.graph with
  | zero => exact Nat.zero_le _
  | succ k =>
    obtain ⟨_, g, hg, _⟩ := hs.reference n hn (by simp [Node.isReference, hgraph])
    rw [hgraph] at hg
    exact (List.getElem?_eq_some_iff.mp hg).1

theorem Sound.graphIds_eq (hs : net.Sound) :
    net.graphIds = List.range' 1 net.graphs.length := by
  refine List.ext_getElem (by simp [graphIds]) fun k hk _ => ?_
  have hlt : k < net.graphs.length := by simpa [graphIds] using hk
  have hid := hs.graphId k net.graphs[k] (List.getElem?_eq_getElem hlt)
  simp [graphIds, hid, Nat.add_comm]

theorem Sound.continues (hs : net.Sound) (hnodes : net.nodes <+: net'.nodes)
    (hgraphs : net.graphs <+: net'.graphs) : net.Continues net' := by
  refine ⟨hnodes, fun n hn => ?_⟩
  cases hgraph : n.graph with
  | zero => rfl
  | succ k =>
    obtain ⟨_, g, hg, _⟩ := hs.reference n hn (by simp [Node.isReference, hgraph])
    rw [hgraph] at hg
    rw [hg, graph?_of_graphs hgraphs hg]

end Network

namespace Blueprint

open Config (Expr Span)
open Load

variable {st st' : Loading}

theorem Stands.start {s : Scope} (hs : st.network.Sound) (hst : st.diagnostics = [])
    (hframe : ∀ own ∈ s.graph,
      own.id = st.network.graphs.length ∧ st.network.graph? own.id = some own)
    (hearlier : ∀ own ∈ s.graph, ∀ node ∈ st.network.nodes, node.graph < own.id) :
    Stands s st.network.nodes.length { st with settled := [] } := by
  have hnone : ∀ name id, Loading.handle { st with settled := [] } name ≠ some id := by
    intro name id h
    simp [Loading.handle] at h
  exact
    { sound := hs
      clear := ⟨hst, by simp⟩
      frame := hframe
      earlier := hearlier
      started := Nat.le_refl _
      described := fun name id h => absurd h (hnone name id)
      onto := fun id hlow hle => absurd hle (Nat.not_le.mpr hlow)
      injective := fun name _ id h _ => absurd h (hnone name id) }

theorem charted_of_enter {graph : Option NodeGraph} {parameters : List (Text × Constant)}
    {nodes : List Node} {s : Scope} {low : Nat}
    (h : Runs (Scope.enter graph parameters nodes) st s st')
    (hst : Stands ⟨graph, parameters, nodes⟩ low { st with settled := [] }) :
    s = ⟨graph, parameters, nodes⟩ ∧ Stands s low st' ∧ st.network.nodes <+: st'.network.nodes ∧
      st'.network.graphs = st.network.graphs ∧ Complete s st' ∧
      Charted st'.network s.frame nodes low st'.network.nodes.length st'.handle := by
  have hclean : st.diagnostics = [] := hst.clear.diagnostics
  obtain ⟨rfl, hnames, ids, hvisits⟩ := (Scope.runs_enter hclean).mp h
  obtain ⟨hstands, hadvance, hcomplete, hcharted⟩ := hvisits.charted hst hnames
  exact ⟨rfl, hstands, hadvance.nodes, hadvance.graphs, hcomplete, hcharted⟩

/-! ## Graphs -/

theorem Graph.Opens.sound {b : Graph} {net : Network} {slots : List ShaderGraph.GraphInput}
    (h : b.Opens net slots) (hs : net.Sound) : (b.opened net slots []).Sound := by
  have hfresh : b.name ∉ net.graphs.map (·.name) := by
    have hnew := List.find?_eq_none.mp h.new
    simpa using hnew
  have hadded := hs.graph h.named hfresh
  have hg := Network.graph?_last net ⟨net.graphs.length + 1, b.name, [], []⟩
  have htypes : ∀ slot ∈ slots, slot.type.isValid = true := by
    intro slot hslot
    obtain ⟨_, _, hgives⟩ := exists_of_forall₂ h.inputs.flip hslot
    exact GraphInput.Gives.isValid hgives
  have hset := hadded.setGraph (g := ⟨net.graphs.length + 1, b.name, slots, []⟩) hg
    (.of_setGraph hg rfl rfl List.nil_prefix List.prefix_rfl) rfl rfl h.inputNames (by simp) htypes
    (by simp)
  rwa [Network.setGraph_last] at hset

theorem Graph.Opens.stands {b : Graph} {slots : List ShaderGraph.GraphInput}
    (h : b.Opens st.network slots) (hs : st.network.Sound) (hst : st.diagnostics = []) :
    Stands ⟨some ⟨st.network.graphs.length + 1, b.name, slots, []⟩, [], b.nodes⟩
      st.network.nodes.length ⟨b.opened st.network slots [], st.diagnostics, []⟩ := by
  refine @Stands.start ⟨b.opened st.network slots [], st.diagnostics, []⟩ _ (h.sound hs) hst ?_ ?_
  · rintro _ ⟨⟩
    exact ⟨by simp [Graph.opened], b.graph?_opened st.network slots []⟩
  · rintro _ ⟨⟩ node hnode
    exact Nat.lt_succ_of_le (hs.graph_le hnode)

structure Graph.Charted (net : Network) (b : Graph) (g : NodeGraph) (low high : Nat)
    (handle : Text → Option NodeId) : Prop where
  supported : b.extra.unsupported = []
  name : g.name = b.name
  inputs : List.Forall₂ GraphInput.Gives b.inputs g.inputs
  nodes : Blueprint.Charted net ⟨some (g.id, g.inputs), []⟩ b.nodes low high handle
  outputs : List.Forall₂ (GraphOutput.Gives net ⟨some (g.id, g.inputs), []⟩ handle) b.outputs
    g.outputs

theorem Graph.Charted.continues {net net' : Network} {b : Graph} {g : NodeGraph} {low high : Nat}
    {handle : Text → Option NodeId} (h : b.Charted net g low high handle)
    (hnet : net.Continues net') : b.Charted net' g low high handle :=
  { h with
    nodes := h.nodes.continues hnet
    outputs := h.outputs.imp fun _ _ ho => ho.continues hnet }

theorem Graph.charted_of_runs {b : Graph} {u : Unit} (hs : st.network.Sound)
    (h : Runs b.declare st u st') : ∃ g handle,
      st'.network.graphs = st.network.graphs ++ [g] ∧ st.network.nodes <+: st'.network.nodes ∧
      st'.network.Sound ∧ st'.diagnostics = [] ∧
      b.Charted st'.network g st.network.nodes.length st'.network.nodes.length handle := by
  obtain ⟨hst, slots, hopens, s, mid, henter, houts⟩ := Graph.runs_declare.mp h
  obtain ⟨rfl, hstands, hnodes, hgraphs, hcomplete, hcharted⟩ :=
    charted_of_enter henter (hopens.stands hs hst)
  obtain ⟨_, hg⟩ := hstands.frame _ rfl
  have hfree : ∀ n ∈ mid.network.nodes, n.graph ≠ st.network.graphs.length + 1 :=
    fun n hn => Nat.ne_of_lt (hstands.earlier _ rfl n hn)
  obtain ⟨outs, hgives, hnames, rfl⟩ :=
    (GraphOutput.runs_forM hcomplete hg hfree List.nodup_nil).mp houts
  have hcontinues := (Network.continues_setGraph hg hfree
    ⟨st.network.graphs.length + 1, b.name, slots, outs⟩).1
  have hvalues : ∀ out ∈ outs, out.value.isAbsent = false := by
    intro out hout
    obtain ⟨_, _, hgive⟩ := exists_of_forall₂ hgives.flip hout
    exact hgive.2.1
  have hslots := hstands.sound.inputTypes _ (Network.mem_graphs_of_graph? hg)
  refine ⟨⟨st.network.graphs.length + 1, b.name, slots, outs⟩, mid.handle, ?_, hnodes, ?_,
    hcomplete.clear.diagnostics, hopens.supported, rfl, hopens.inputs,
    hcharted.continues hcontinues, hgives.imp fun _ _ ho => ho.continues hcontinues⟩
  · rw [Network.setGraph, hgraphs]
    simp [Graph.opened]
  · exact hstands.sound.setGraph hg (.of_setGraph hg rfl rfl List.prefix_rfl List.nil_prefix) rfl
      rfl hopens.inputNames hnames hslots hvalues

inductive Graph.ChartedAll (net : Network) : List Graph → List NodeGraph → Nat → Nat → Prop
  | nil (low : Nat) : ChartedAll net [] [] low low
  | cons {b : Graph} {g : NodeGraph} {bs : List Graph} {gs : List NodeGraph} {low mid high : Nat}
      {handle : Text → Option NodeId} : b.Charted net g low mid handle → low ≤ mid →
      ChartedAll net bs gs mid high → ChartedAll net (b :: bs) (g :: gs) low high

theorem Graph.charted_of_forM {bs : List Graph} {u : Unit} (hs : st.network.Sound)
    (h : Runs (bs.forM Graph.declare) st u st') : ∃ gs,
      st'.network.graphs = st.network.graphs ++ gs ∧ st.network.nodes <+: st'.network.nodes ∧
      st'.network.Sound ∧ st'.diagnostics = [] ∧
      Graph.ChartedAll st'.network bs gs st.network.nodes.length st'.network.nodes.length := by
  induction bs generalizing st with
  | nil =>
    obtain ⟨rfl, hst⟩ := runs_forM_nil.mp h
    exact ⟨[], by simp, List.prefix_rfl, hs, hst, .nil _⟩
  | cons b bs ih =>
    obtain ⟨mid, hfirst, hrest⟩ := (runs_forM_cons Graph.keeps_declare).mp h
    obtain ⟨g, handle, hgraph, hnodes, hsmid, _, hcharted⟩ := Graph.charted_of_runs hs hfirst
    obtain ⟨gs, hgraphs, hnodes', hs', hst', hall⟩ := ih hsmid hrest
    have hcontinues := hsmid.continues hnodes' (by rw [hgraphs]; exact List.prefix_append _ _)
    refine ⟨g :: gs, by rw [hgraphs, hgraph]; simp, hnodes.trans hnodes', hs', hst', ?_⟩
    exact .cons (hcharted.continues hcontinues) hnodes.length_le hall

/-! ## Files -/

/-- The network and the materials are what the blueprint describes. The nodes of graphs have the
handles up to `high`, those of the top level the ones after it. -/
structure Chart (bp : Blueprint) (base : Text) (l : Loaded) (parameters : List (Text × Constant))
    (high : Nat) (handle : Text → Option NodeId) : Prop where
  sound : l.network.Sound
  defaults : List.Forall₂ (Parameter.Gives base) bp.parameters parameters
  parameterNames : (parameters.map (·.1)).Nodup
  graphs : Graph.ChartedAll l.network bp.graphs l.network.graphs 0 high
  nodes : Charted l.network ⟨none, parameters⟩ bp.nodes high l.network.nodes.length handle
  started : high ≤ l.network.nodes.length
  materials : List.Forall₂ (Material.Gives l.network ⟨none, parameters⟩ handle) bp.materials
    l.materials
  materialNames : (l.materials.map (·.name)).Nodup

theorem Graph.ChartedAll.continues {net net' : Network} {bs : List Graph} {gs : List NodeGraph}
    {low high : Nat} (h : Graph.ChartedAll net bs gs low high) (hnet : net.Continues net') :
    Graph.ChartedAll net' bs gs low high := by
  induction h with
  | nil low => exact .nil low
  | cons hb hle _ ih => exact .cons (hb.continues hnet) hle ih

theorem chart_of_load {bp : Blueprint} {base : Text} {l : Loaded} (h : load bp base = .ok l) :
    ∃ parameters high handle, Chart bp base l parameters high handle := by
  obtain ⟨network, materials⟩ := l
  obtain ⟨last, hrun, rfl⟩ := load_eq_ok.mp h
  obtain ⟨_, parameters, hparameters, hnames, mid, hgraphs, top, st, htop, hmaterials⟩ :=
    runs_declare.mp hrun
  obtain ⟨gs, hgs, _, hsmid, hmid, hall⟩ := Graph.charted_of_forM Network.Sound.empty hgraphs
  obtain ⟨rfl, hstands, hnodes, hsame, hcomplete, hcharted⟩ :=
    charted_of_enter htop (.start hsmid hmid (by simp) (by simp))
  obtain ⟨rfl, new, hnew, hgives, hmaterialNames⟩ :=
    (runs_declareMaterials hcomplete (by simp)).mp hmaterials
  obtain rfl : materials = new := hnew
  have hcontinues := hsmid.continues hnodes (by rw [hsame])
  have hcharts := hall.continues hcontinues
  have hgraphs' : st.network.graphs = gs := hsame.trans hgs
  exact ⟨parameters, mid.network.nodes.length, st.handle,
    { sound := hstands.sound
      defaults := hparameters
      parameterNames := hnames
      graphs := by rw [hgraphs']; exact hcharts
      nodes := hcharted
      started := hnodes.length_le
      materials := hgives
      materialNames := hmaterialNames }⟩

end Blueprint
end ShaderGraph
