import ShaderGraph.Proofs.Realizes

/-!
# Charted files load

If a blueprint has a chart in some network, then it loads, and what is loaded stands for the network of
the chart: graph after graph, then the nodes of the top level and the materials. Every scope has as
many nodes as the chart says, so the ranges of handles are the same in both networks.
-/
namespace ShaderGraph.Blueprint

open Config (Expr Span)
open Load

variable {net : Network} {s : Scope} {low high done : Nat} {handle : Text → Option NodeId}
  {st st' : Loading} {order : List NodeId}

/-! ## Complete scopes -/

def Realized (handle : Text → Option NodeId) (st : Loading) (order : List NodeId) : Prop :=
  ∀ name id, handle name = some id → ∃ id', st.handle name = some id' ∧ Places order id' id

theorem Realizes.realized (hr : Realizes net low done handle st order)
    (hplan : Plan net s low high done handle) (hs : Complete s st) : Realized handle st order := by
  intro name id hid
  obtain ⟨n, hn, rfl⟩ := hplan.charted.named name id hid
  obtain ⟨id', hid'⟩ := hs.built n hn
  obtain ⟨id₀, hplace, hid₀⟩ := hr.handles n.name id' hid'
  obtain rfl := Option.some.inj (hid.symm.trans hid₀)
  exact ⟨id', hid', hplace⟩

theorem Denotes.exists_moves (htracks : Tracks net done st.network order)
    (hall : Realized handle st order) {frame : Frame} {e? : Option Expr} {type? : Option DataType}
    {space : Text} {v : Value} (h : Denotes net frame handle e? type? space v) :
    ∃ v', Denotes st.network frame st.handle e? type? space v' ∧ v'.Moves order v := by
  cases h with
  | absent => exact ⟨_, .absent, .of_source rfl⟩
  | constant href hc => exact ⟨_, .constant href hc, .of_source rfl⟩
  | parameter hrefers hgraph hlookup =>
    exact ⟨_, .parameter hrefers hgraph hlookup, .of_source rfl⟩
  | graphInput hrefers hgraph hfind =>
    exact ⟨_, .graphInput hrefers hgraph hfind, .of_source rfl⟩
  | node hrefers hid hpicks =>
    obtain ⟨id', hid', hplace⟩ := hall _ _ hid
    obtain ⟨v', hpicks', hmoves⟩ := htracks.picks hplace hpicks
    exact ⟨v', .node hrefers hid' hpicks', hmoves⟩

theorem GraphOutput.Gives.exists_moves (htracks : Tracks net done st.network order)
    (hall : Realized handle st order) {frame : Frame} {o : GraphOutput}
    {out : ShaderGraph.GraphOutput} (h : o.Gives net frame handle out) :
    ∃ out', o.Gives st.network frame st.handle out' ∧ out'.Moves order out := by
  obtain ⟨hname, habsent, ⟨htype, hv⟩ | ⟨htype, type, hparse, hsame, hv⟩⟩ := h
  · obtain ⟨v', hv', hmoves⟩ := hv.exists_moves htracks hall
    exact ⟨⟨o.name, v'⟩, ⟨rfl, hmoves.isAbsent ▸ habsent, .inl ⟨htype, hv'⟩⟩, hname, hmoves⟩
  · obtain ⟨v', hv', hmoves⟩ := hv.exists_moves htracks hall
    exact ⟨⟨o.name, v'⟩, ⟨rfl, hmoves.isAbsent ▸ habsent,
      .inr ⟨htype, type, hparse, hmoves.type ▸ hsame, hv'⟩⟩, hname, hmoves⟩

theorem exists_forall₂ {α β γ : Type} {P : α → β → Prop} {Q : α → γ → Prop} {R : γ → β → Prop}
    (h : ∀ {a b}, P a b → ∃ c, Q a c ∧ R c b) {as : List α} {bs : List β}
    (hall : List.Forall₂ P as bs) : ∃ cs, List.Forall₂ Q as cs ∧ List.Forall₂ R cs bs := by
  induction hall with
  | nil => exact ⟨[], .nil, .nil⟩
  | cons hab _ ih =>
    obtain ⟨c, hq, hr⟩ := h hab
    obtain ⟨cs, hqs, hrs⟩ := ih
    exact ⟨c :: cs, .cons hq hqs, .cons hr hrs⟩

theorem Realizes.le_high (hr : Realizes net low done handle st order)
    (hplan : Plan net s low high done handle) (hst : Stands s low st) (hle : low ≤ high) :
    ∀ id ∈ order, id ≤ high := by
  intro id hid
  obtain ⟨id', hplace⟩ := Places.exists_of_mem hid
  rcases Nat.lt_or_ge low id' with hgt | hle'
  · obtain ⟨name, hname⟩ := hst.onto id' hgt (hr.tracks.length ▸ hplace.le)
    obtain ⟨id₀, hplace₀, hid₀⟩ := hr.handles name id' hname
    obtain rfl := hplace.unique hplace₀
    exact (hplan.charted.handle_bounds name id hid₀).2
  · exact Nat.le_trans (hr.early id' id hplace hle') hle

theorem exists_enter (hplan : Plan net s low high done handle) (hle : low ≤ high)
    (hst : Stands s low { st with settled := [] })
    (hr : Realizes net low done handle { st with settled := [] } order) : ∃ st' order',
      Runs (Scope.enter s.graph s.parameters s.nodes) st s st' ∧ Stands s low st' ∧
      st'.network.graphs = st.network.graphs ∧ Complete s st' ∧
      Realizes net low done handle st' order' ∧ Realized handle st' order' ∧
      st'.network.nodes.length = high ∧ ∀ id ∈ order', id ≤ high := by
  obtain ⟨ids, st', order', hvisits, hproceeds⟩ :=
    exists_visits hplan (List.Subset.refl s.nodes) hst hr
  obtain ⟨_, hadvance, hcomplete, hcharted⟩ := hvisits.charted hst hplan.charted.names
  have hlength : s.nodes.length = st'.network.nodes.length - low := hcharted.length_eq
  have hlength' : s.nodes.length = high - low := hplan.charted.length_eq
  have hstarted := hproceeds.stands.started
  have hclean : st.diagnostics = [] := hst.clear.diagnostics
  refine ⟨st', order', (Scope.runs_enter hclean).mpr ⟨rfl, hplan.charted.names, ids,
    hvisits⟩, hproceeds.stands, hadvance.graphs, hcomplete, hproceeds.realizes,
    hproceeds.realizes.realized hplan hcomplete, by omega,
    hproceeds.realizes.le_high hplan hproceeds.stands hle⟩

/-! ## Graphs -/

/-- A state between graphs, of which `done` are there. -/
structure Rebuilt (net : Network) (done : Nat) (st : Loading) (order : List NodeId) : Prop where
  sound : st.network.Sound
  diagnostics : st.diagnostics = []
  tracks : Tracks net done st.network order
  graphs : st.network.graphs.length = done
  within : ∀ id ∈ order, id ≤ order.length

theorem Rebuilt.opens (h : Rebuilt net done st order) (hs : net.Sound) {b : Graph} {g : NodeGraph}
    (hg : net.graph? (done + 1) = some g) (hb : b.Charted net g low high handle) :
    b.Opens st.network g.inputs := by
  have hmem := Network.mem_graphs_of_graph? hg
  refine ⟨hb.supported, hb.name ▸ hs.graphNamed g hmem, ?_, hb.inputs, hs.inputNames g hmem⟩
  cases hfind : st.network.findGraph? b.name with
  | none => rfl
  | some g' =>
    -- A graph of this name among the first ones would be the one at hand.
    obtain ⟨hname, hg', hle⟩ := findGraph?_spec h.sound hfind
    obtain ⟨g₀, hg₀, hmoves⟩ := h.tracks.graphs g'.id (h.graphs ▸ hle) g' hg'
    have hsame := hs.eq_of_name hg₀ hg (by rw [hmoves.name, hname, hb.name])
    rw [hsame, h.graphs] at hle
    exact absurd hle (Nat.not_succ_le_self done)

theorem Rebuilt.realizes (h : Rebuilt net done st order) (b : Graph)
    (slots : List ShaderGraph.GraphInput) :
    Realizes net st.network.nodes.length done handle
      ⟨b.opened st.network slots [], st.diagnostics, []⟩ order := by
  have htracks := h.tracks
  refine ⟨⟨htracks.length, htracks.nodup, htracks.nodes, ?_, fun k hk g' hg' => ?_, htracks.known⟩,
    fun name id' hid' => ?_, fun id' id hplace _ => ?_⟩
  · simp only [Graph.opened, List.length_append, h.graphs]
    exact Nat.le_add_right _ _
  · refine htracks.graphs k hk g' ?_
    cases k with
    | zero => simp [Network.graph?] at hg'
    | succ l =>
      have hl : l < st.network.graphs.length := h.graphs ▸ hk
      simpa only [Network.graph?, Graph.opened, List.getElem?_append_left hl] using hg'
  · simp [Loading.handle] at hid'
  · rw [← htracks.length]
    exact h.within id hplace.mem

theorem Graph.Charted.plan {b : Graph} {g : NodeGraph} (hb : b.Charted net g low high handle)
    (hs : net.Sound) (hg : net.graph? (done + 1) = some g) :
    Plan net ⟨some ⟨done + 1, b.name, g.inputs, []⟩, [], b.nodes⟩ low high done handle := by
  have hid : g.id = done + 1 := hs.id_of_graph? hg
  refine ⟨hs, ?_, fun k g' _ hk => Nat.le_of_lt_succ (hk _ rfl), ?_⟩
  · rw [← hid]
    exact hb.nodes
  · rintro _ ⟨⟩
    exact Nat.lt_succ_self done

theorem Rebuilt.graph (h : Rebuilt net done st order) (hs : net.Sound) {b : Graph} {g : NodeGraph}
    (hg : net.graph? (done + 1) = some g)
    (hb : b.Charted net g st.network.nodes.length high handle)
    (hle : st.network.nodes.length ≤ high) : ∃ st' order', Runs b.declare st () st' ∧
      Rebuilt net (done + 1) st' order' ∧ st'.network.nodes.length = high := by
  have hopens := h.opens hs hg hb
  have hid : g.id = done + 1 := hs.id_of_graph? hg
  obtain ⟨s, hscope⟩ : ∃ s : Scope,
      s = ⟨some ⟨st.network.graphs.length + 1, b.name, g.inputs, []⟩, [], b.nodes⟩ := ⟨_, rfl⟩
  have hframe : s.frame = ⟨some (g.id, g.inputs), []⟩ := by
    rw [hscope, hid, ← h.graphs]
    rfl
  have hplan : Plan net s st.network.nodes.length high done handle := by
    rw [hscope, h.graphs]
    exact hb.plan hs hg
  have hstands := hopens.stands h.sound h.diagnostics
  rw [← hscope] at hstands
  obtain ⟨mid, order', henter, hmid, hgraphs, hcomplete, hr, hall, hlength, hwithin⟩ :=
    @exists_enter net s _ _ _ _ ⟨b.opened st.network g.inputs [], st.diagnostics, st.settled⟩ _
      hplan hle hstands (h.realizes b g.inputs)
  have hmem : (⟨done + 1, b.name, g.inputs, []⟩ : NodeGraph) ∈ s.graph := by
    rw [hscope, h.graphs]
    rfl
  have hgmid : mid.network.graph? (done + 1) = some ⟨done + 1, b.name, g.inputs, []⟩ :=
    (hmid.frame _ hmem).2
  have hfree : ∀ n ∈ mid.network.nodes, n.graph ≠ done + 1 :=
    fun n hn => Nat.ne_of_lt (hmid.earlier _ hmem n hn)
  have houtputs := hb.outputs
  rw [← hframe] at houtputs
  obtain ⟨outs, hgives, hmoves⟩ := exists_forall₂
    (fun ho => GraphOutput.Gives.exists_moves hr.tracks hall ho) houtputs
  have hnames : outs.map (·.name) = g.outputs.map (·.name) :=
    map_eq_of_forall₂ (hmoves.imp fun _ _ ho => ho.name.symm)
  have hnodup : (outs.map (·.name)).Nodup :=
    hnames ▸ hs.outputNames g (Network.mem_graphs_of_graph? hg)
  have houts : Runs (b.outputs.forM (GraphOutput.declare s (done + 1) b.name)) mid () _ :=
    (GraphOutput.runs_forM hcomplete hgmid hfree (by simp)).mpr
      ⟨outs, hgives, by simpa using hnodup, rfl⟩
  have hrun : Runs b.declare st () _ :=
    Graph.runs_declare.mpr ⟨h.diagnostics, g.inputs, hopens, s, mid, by
      rw [hscope] at henter ⊢; exact henter, by rw [h.graphs]; exact houts⟩
  obtain ⟨_, _, _, _, hsound, hclean, _⟩ := Graph.charted_of_runs h.sound hrun
  have hlast : mid.network.graphs.length = done + 1 := by simp [hgraphs, Graph.opened, h.graphs]
  refine ⟨_, order', hrun, ⟨hsound, hclean,
    hr.tracks.setGraph hlast hgmid hg ⟨hb.name, rfl, hmoves⟩, ?_, ?_⟩, hlength⟩
  · simp [Network.setGraph, hlast]
  · rw [hr.tracks.length, hlength]
    exact hwithin

theorem Rebuilt.forM (h : Rebuilt net done st order) (hs : net.Sound) {bs : List Graph}
    {gs : List NodeGraph} (hgs : net.graphs.drop done = gs)
    (hall : Graph.ChartedAll net bs gs low high) (hlow : st.network.nodes.length = low) :
    ∃ st' order', Runs (bs.forM Graph.declare) st () st' ∧
      Rebuilt net (done + gs.length) st' order' ∧ st'.network.nodes.length = high := by
  induction hall generalizing st order done with
  | nil low => exact ⟨st, order, runs_forM_nil.mpr ⟨rfl, h.diagnostics⟩, h, hlow⟩
  | @cons b g bs gs low mid high handle hb hle _ ih =>
    subst hlow
    have hg : net.graph? (done + 1) = some g := by
      rw [Network.graph?, ← List.head?_drop, hgs]
      rfl
    have hgs' : net.graphs.drop (done + 1) = gs := by
      rw [← List.tail_drop, hgs]
      rfl
    obtain ⟨st₁, order₁, hrun, hrebuilt, hlength⟩ := h.graph hs hg hb hle
    obtain ⟨st', order', hrest, hrebuilt', hlength'⟩ := ih hrebuilt hgs' hlength
    refine ⟨st', order', (runs_forM_cons Graph.keeps_declare).mpr ⟨st₁, hrun, hrest⟩, ?_, hlength'⟩
    rw [List.length_cons, Nat.add_comm gs.length 1, ← Nat.add_assoc]
    exact hrebuilt'

/-! ## Materials -/

structure Material.Moves (order : List NodeId) (mat' mat : Stage.Material) : Prop where
  name : mat.name = mat'.name
  surface : mat'.surface.Moves order mat.surface
  geometryModifier : mat'.geometryModifier.Moves order mat.geometryModifier
  nodeGraphs : mat.nodeGraphs = mat'.nodeGraphs

theorem Drives.exists_moves (htracks : Tracks net done st.network order)
    (hall : Realized handle st order) {frame : Frame} {e? : Option Expr} {v : Value}
    (h : Drives net frame handle e? v) :
    ∃ v', Drives st.network frame st.handle e? v' ∧ v'.Moves order v := by
  obtain ⟨hv, hnode⟩ := h
  obtain ⟨v', hv', hmoves⟩ := hv.exists_moves htracks hall
  rw [hmoves.isSome_node?, hmoves.isAbsent] at hnode
  exact ⟨v', ⟨hv', hnode⟩, hmoves⟩

theorem Rebuilt.lists (h : Rebuilt net net.graphs.length st order) (hs : net.Sound) {m : Material}
    {ids : List GraphId} (hm : m.Lists net ids) : m.Lists st.network ids := by
  unfold Material.Lists at hm ⊢
  cases hgraphs : m.nodeGraphs with
  | none =>
    simp only [hgraphs] at hm ⊢
    rw [hm, hs.graphIds_eq, h.sound.graphIds_eq, h.graphs]
  | some e =>
    simp only [hgraphs] at hm ⊢
    obtain ⟨names, hnames, hall⟩ := hm
    refine ⟨names, hnames, hall.imp fun name id hid => ?_⟩
    obtain ⟨g, hg, rfl⟩ := hid
    obtain ⟨rfl, hgraph, hle⟩ := findGraph?_spec hs hg
    have hpos : 0 < g.id := by
      cases hzero : g.id with
      | zero => simp [hzero, Network.graph?] at hgraph
      | succ k => exact Nat.succ_pos k
    obtain ⟨g', g₀, hg', hg₀, hmoves⟩ := h.tracks.graph hpos hle
    obtain rfl := Option.some.inj (hg₀.symm.trans hgraph)
    refine ⟨g', ?_, h.sound.id_of_graph? hg'⟩
    rw [hmoves.name]
    exact findGraph?_of_graph? h.sound hg'

theorem Material.Gives.exists_moves (h : Rebuilt net net.graphs.length st order) (hs : net.Sound)
    (hall : Realized handle st order) {frame : Frame} {m : Material} {mat : Stage.Material}
    (hm : m.Gives net frame handle mat) :
    ∃ mat', m.Gives st.network frame st.handle mat' ∧ Material.Moves order mat' mat := by
  obtain ⟨surface, hsurface, hmoves⟩ := hm.surface.exists_moves h.tracks hall
  obtain ⟨modifier, hmodifier, hmoves'⟩ := hm.geometryModifier.exists_moves h.tracks hall
  exact ⟨⟨m.name, surface, modifier, mat.nodeGraphs⟩,
    ⟨hm.supported, hm.named, rfl, hsurface, hmodifier, h.lists hs hm.graphs⟩, hm.name, hmoves,
    hmoves', rfl⟩

/-! ## Files -/

/-- A blueprint that has a chart loads. -/
theorem Chart.exists_load {bp : Blueprint} {base : Text} {l : Loaded}
    {parameters : List (Text × Constant)} (h : Chart bp base l parameters high handle) :
    ∃ l' order, load bp base = .ok l' ∧ l'.network.Sound ∧
      Tracks l.network l.network.graphs.length l'.network order ∧
      l'.network.graphs.length = l.network.graphs.length ∧
      l'.network.nodes.length = l.network.nodes.length ∧ (∀ id ∈ order, id ≤ order.length) ∧
      List.Forall₂ (Material.Moves order) l'.materials l.materials := by
  have hs := h.sound
  have hempty : Rebuilt l.network 0 ⟨.empty, [], []⟩ [] :=
    { sound := .empty
      diagnostics := rfl
      tracks := ⟨rfl, List.nodup_nil, fun id n hn => by cases id <;> simp [Network.node?, Network.empty] at hn,
        Nat.zero_le _, fun k hk g hg => by cases k <;> simp [Network.graph?, Network.empty] at hg,
        by simp [Network.empty]⟩
      graphs := rfl
      within := by simp }
  obtain ⟨mid, order₁, hgraphs, hrebuilt, hlength⟩ :=
    hempty.forM hs (List.drop_zero) h.graphs rfl
  rw [Nat.zero_add] at hrebuilt
  have hplan : Plan l.network ⟨none, parameters, bp.nodes⟩ high l.network.nodes.length
      l.network.graphs.length handle := by
    refine ⟨hs, h.nodes, fun k g hg _ => ?_, by simp⟩
    cases k with
    | zero => exact Nat.zero_le _
    | succ k => exact (List.getElem?_eq_some_iff.mp hg).1
  have hstands : Stands ⟨none, parameters, bp.nodes⟩ high { mid with settled := [] } :=
    hlength ▸ .start hrebuilt.sound hrebuilt.diagnostics (by simp) (by simp)
  have hr : Realizes l.network high l.network.graphs.length handle { mid with settled := [] }
      order₁ := by
    refine ⟨hrebuilt.tracks, fun name id hid => by simp [Loading.handle] at hid, ?_⟩
    intro id' id hplace _
    rw [← hlength, ← hrebuilt.tracks.length]
    exact hrebuilt.within id hplace.mem
  obtain ⟨st, order, henter, hst, hsame, hcomplete, hr', hall, hlength', hwithin⟩ :=
    exists_enter hplan h.started hstands hr
  have hfinal : Rebuilt l.network l.network.graphs.length st order :=
    { sound := hst.sound
      diagnostics := hcomplete.clear.diagnostics
      tracks := hr'.tracks
      graphs := hsame ▸ hrebuilt.graphs
      within := by rw [hr'.tracks.length, hlength']; exact hwithin }
  obtain ⟨mats, hgives, hmoves⟩ := exists_forall₂
    (fun hm => Material.Gives.exists_moves hfinal hs hall hm) h.materials
  have hnames : mats.map (·.name) = l.materials.map (·.name) :=
    map_eq_of_forall₂ (hmoves.imp fun _ _ hm => hm.name.symm)
  have hmaterials : Runs (declareMaterials ⟨none, parameters, bp.nodes⟩ [] bp.materials) st mats st :=
    (runs_declareMaterials hcomplete (by simp)).mpr
      ⟨rfl, mats, rfl, hgives, by simpa [hnames] using h.materialNames⟩
  refine ⟨⟨st.network, mats⟩, order, load_eq_ok.mpr ⟨st, runs_declare.mpr ⟨rfl, parameters, h.defaults,
    h.parameterNames, mid, hgraphs, _, st, henter, hmaterials⟩, rfl⟩, hst.sound, hr'.tracks,
    hfinal.graphs, hlength', hfinal.within, hmoves⟩

end ShaderGraph.Blueprint
