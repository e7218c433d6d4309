import ShaderGraph.Proofs.Charts
import ShaderGraph.Proofs.Tracks

/-!
# Charts get realized

If the nodes of a scope are charted in some network, then building the scope in whatever order its
declarations come succeeds, and what is built stands for the charted nodes. A node needs only nodes
with smaller handles in the chart, so the induction is on these. The nodes that are not idle are
being built for one with a larger handle, so no node is found to depend on itself.
-/
namespace ShaderGraph.Blueprint

open Config (Expr Span)
open Load

structure Plan (net : Network) (s : Scope) (low high done : Nat) (handle : Text → Option NodeId) :
    Prop where
  sound : net.Sound
  charted : Charted net s.frame s.nodes low high handle
  listed : ∀ k g, net.graph? k = some g → (∀ own ∈ s.frame.graph, k < own.1) → k ≤ done
  own : ∀ g ∈ s.graph, done < g.id

/-- What is built so far stands for charted nodes. The handles up to `low` belong to other scopes. -/
structure Realizes (net : Network) (low done : Nat) (handle : Text → Option NodeId) (st : Loading)
    (order : List NodeId) : Prop where
  tracks : Tracks net done st.network order
  handles : ∀ name id', st.handle name = some id' →
    ∃ id, Places order id' id ∧ handle name = some id
  early : ∀ id' id, Places order id' id → id' ≤ low → id ≤ low

structure Proceeds (net : Network) (s : Scope) (low done : Nat) (handle : Text → Option NodeId)
    (st : Loading) (order : List NodeId) (st' : Loading) (order' : List NodeId) : Prop where
  stands : Stands s low st'
  advances : Advances st st'
  realizes : Realizes net low done handle st' order'
  order : order <+: order'

def Ready (s : Scope) (handle : Text → Option NodeId) (idle : List Node) (bound : Nat)
    (st : Loading) : Prop :=
  ∀ n ∈ s.nodes, ∀ j, handle n.name = some j → j < bound → st.handle n.name = none → n ∈ idle

variable {net : Network} {s : Scope} {low high done : Nat} {handle : Text → Option NodeId}
  {st st' st'' : Loading} {order order' order'' : List NodeId} {idle : List Node} {bound : Nat}

theorem Proceeds.refl (hst : Stands s low st) (hr : Realizes net low done handle st order) :
    Proceeds net s low done handle st order st order :=
  ⟨hst, .refl st, hr, List.prefix_rfl⟩

theorem Proceeds.trans (h : Proceeds net s low done handle st order st' order')
    (h' : Proceeds net s low done handle st' order' st'' order'') :
    Proceeds net s low done handle st order st'' order'' :=
  ⟨h'.stands, h.advances.trans h'.advances, h'.realizes, h.order.trans h'.order⟩

theorem Ready.advances (h : Ready s handle idle bound st) (ha : Advances st st') :
    Ready s handle idle bound st' := by
  intro n hn j hj hlt hnone
  refine h n hn j hj hlt ?_
  cases hst : st.handle n.name with
  | none => rfl
  | some id =>
    rw [ha.handles n.name id hst] at hnone
    cases hnone

/-! ## Adding one node -/

theorem Realizes.not_mem (hplan : Plan net s low high done handle) (hst : Stands s low st)
    (hr : Realizes net low done handle st order) {name : Text} {id : Nat}
    (hname : handle name = some id) (hnew : st.handle name = none) : id ∉ order := by
  intro hmem
  obtain ⟨id₀, hid₀⟩ := Places.exists_of_mem hmem
  have hle : id₀ ≤ st.network.nodes.length := hr.tracks.length ▸ hid₀.le
  have hlow := (hplan.charted.handle_bounds name id hname).1
  rcases Nat.lt_or_ge low id₀ with hgt | hle₀
  · obtain ⟨other, hother⟩ := hst.onto id₀ hgt hle
    obtain ⟨id₁, hid₁, hhandle⟩ := hr.handles other id₀ hother
    obtain rfl := hid₀.unique hid₁
    obtain rfl := hplan.charted.injective other name id hhandle hname
    rw [hnew] at hother
    cases hother
  · exact absurd hlow (Nat.not_lt.mpr (hr.early id₀ id hid₀ hle₀))

theorem Realizes.add (hplan : Plan net s low high done handle) (hst : Stands s low st)
    (hr : Realizes net low done handle st order) {name : Text} {id : Nat}
    (hname : handle name = some id) (hnew : st.handle name = none) {node node' : ShaderGraph.Node}
    (hnode : net.node? id = some node) (hid : node'.id = st.network.nodes.length + 1)
    (hmoves : node'.Moves order node) (hgraph : node'.graph ≤ done) :
    Realizes net low done handle ⟨{ st.network with nodes := st.network.nodes ++ [node'] },
      st.diagnostics, (name, some node'.id) :: st.settled⟩ (order ++ [id]) := by
  have hlength := hr.tracks.length
  have hlonger : order <+: order ++ [id] := List.prefix_append _ _
  have hplace : Places (order ++ [id]) node'.id id := by
    rw [hid, ← hlength]
    exact Places.last order id
  refine ⟨⟨by simp [hlength], ?_, fun k n hk => ?_, hr.tracks.done_le, fun k hk g' hg' => ?_, ?_⟩,
    fun other k hk => ?_, fun k j hj hk => ?_⟩
  · rw [List.nodup_append]
    refine ⟨hr.tracks.nodup, by simp, ?_⟩
    intro a ha b hb hab
    rw [List.mem_singleton.mp hb] at hab
    exact hr.not_mem hplan hst hname hnew (hab ▸ ha)
  · cases k with
    | zero => simp [Network.node?] at hk
    | succ l =>
      refine Network.forall_getElem?_concat (P := fun l n => ∃ j m,
        Places (order ++ [id]) (l + 1) j ∧ net.node? j = some m ∧ n.Moves (order ++ [id]) m)
        (fun l n hl => ?_) ?_ l n hk
      · obtain ⟨j, m, hj, hm, hnm⟩ := hr.tracks.nodes (l + 1) n hl
        exact ⟨j, m, hj.mono hlonger, hm, hnm.mono hlonger⟩
      · exact ⟨id, node, hid ▸ hplace, hnode, hmoves.mono hlonger⟩
  · obtain ⟨g, hg, hmg⟩ := hr.tracks.graphs k hk g' hg'
    exact ⟨g, hg, hmg.mono hlonger⟩
  · exact Network.forall_mem_concat hr.tracks.known hgraph
  · rw [handle_cons] at hk
    split at hk
    · rename_i hother
      obtain rfl := Option.some.inj hk
      exact ⟨id, hplace, hother ▸ hname⟩
    · obtain ⟨j, hj, hjh⟩ := hr.handles other k hk
      exact ⟨j, hj.mono hlonger, hjh⟩
  · have hk' : k ≤ order.length := Nat.le_trans hk (hlength ▸ hst.started)
    obtain ⟨j₀, hj₀⟩ := Places.exists_of_le hj.pos hk'
    obtain rfl := (hj₀.mono hlonger).unique hj
    exact hr.early k j₀ hj₀ hk

/-! ## Building what a node refers to -/

def Serves (net : Network) (s : Scope) (low done : Nat) (handle : Text → Option NodeId)
    (idle : List Node) (bound : Nat) : Prop :=
  ∀ ⦃name : Text⦄ ⦃j : Nat⦄ ⦃st : Loading⦄ ⦃order : List NodeId⦄, handle name = some j → j < bound →
    Stands s low st → Realizes net low done handle st order → Ready s handle idle bound st →
    ∃ id' st' order', Runs (s.build idle name) st (some id') st' ∧
      Proceeds net s low done handle st order st' order' ∧ Places order' id' j

theorem Stands.resolves {e? : Option Expr} {type? : Option DataType} {space : Text} {v : Value}
    (hst : Stands s low st) (h : Denotes st.network s.frame st.handle e? type? space v) :
    st.network.Resolves v := by
  refine h.resolves fun k inputs hk => ?_
  obtain ⟨g, hg, he⟩ := Option.map_eq_some_iff.mp hk
  obtain ⟨rfl, rfl⟩ := Prod.mk.inj he
  exact ⟨g, (hst.frame g hg).2, rfl⟩

theorem Denotes.exists_reads (hplan : Plan net s low high done handle) (hidle : idle ⊆ s.nodes)
    (hserves : Serves net s low done handle idle bound) (hst : Stands s low st)
    (hr : Realizes net low done handle st order) (hready : Ready s handle idle bound st)
    {e? : Option Expr} {type? : Option DataType} {space : Text} {v : Value}
    (h : Denotes net s.frame (below handle bound) e? type? space v) : ∃ v' st' order',
      s.Reads (s.build idle) st e? type? space v' st' ∧
      Proceeds net s low done handle st order st' order' ∧ v'.Moves order' v ∧
      st'.network.Resolves v' := by
  -- What was read denotes a value in the new network, so it exists there.
  have hdenotes : ∀ {v' st'}, s.Reads (s.build idle) st e? type? space v' st' →
      st'.network.Resolves v' := by
    intro v' st' hreads
    obtain ⟨hst', _, hv'⟩ := hreads.denotes (Scope.upholds_build s low hidle) hst
    exact hst'.resolves hv'
  have hstay : ∀ {v'}, s.Reads (s.build idle) st e? type? space v' st → v'.node? = none →
      v' = v → ∃ v' st' order', s.Reads (s.build idle) st e? type? space v' st' ∧
        Proceeds net s low done handle st order st' order' ∧ v'.Moves order' v ∧
        st'.network.Resolves v' := by
    rintro v' hreads hnode rfl
    exact ⟨v', st, order, hreads, .refl hst hr, .of_source hnode, hdenotes hreads⟩
  cases h with
  | absent => exact hstay .absent rfl rfl
  | constant href hc => exact hstay (.constant href hc) rfl rfl
  | parameter hrefers hgraph hlookup =>
    exact hstay (.parameter hrefers (by simpa [Scope.frame] using hgraph) hlookup) rfl rfl
  | graphInput hrefers hgraph hfind =>
    obtain ⟨g, hg, he⟩ := Option.map_eq_some_iff.mp hgraph
    obtain ⟨rfl, rfl⟩ := Prod.mk.inj he
    exact hstay (.graphInput hrefers hg hfind) rfl rfl
  | node hrefers hid hpicks =>
    obtain ⟨hhandle, hlt⟩ := below_eq_some.mp hid
    obtain ⟨id', st', order', hrun, hproceeds, hplace⟩ := hserves hhandle hlt hst hr hready
    obtain ⟨v', hpicks', hmoves⟩ := hproceeds.realizes.tracks.picks hplace hpicks
    have hreads : s.Reads (s.build idle) st _ type? space v' st' :=
      .node hrefers (hplan.charted.named _ _ hhandle) hrun hpicks'
    exact ⟨v', st', order', hreads, hproceeds, hmoves, hdenotes hreads⟩

theorem exists_chain {α β γ : Type} {R : Loading → α → γ → Loading → Prop} {P : α → β → Prop}
    {Q : Loading → List NodeId → γ → β → Prop}
    (hstep : ∀ {st order a b}, Stands s low st → Realizes net low done handle st order →
      Ready s handle idle bound st → P a b → ∃ c st' order', R st a c st' ∧
        Proceeds net s low done handle st order st' order' ∧ Q st' order' c b)
    (hmono : ∀ {st st' order order' c b}, Advances st st' → order <+: order' → Q st order c b →
      Q st' order' c b)
    {as : List α} {bs : List β} (h : List.Forall₂ P as bs) (hst : Stands s low st)
    (hr : Realizes net low done handle st order) (hready : Ready s handle idle bound st) :
    ∃ cs st' order', Chain R st as cs st' ∧ Proceeds net s low done handle st order st' order' ∧
      List.Forall₂ (Q st' order') cs bs := by
  induction h generalizing st order with
  | nil => exact ⟨[], st, order, .nil st, .refl hst hr, .nil⟩
  | cons hab _ ih =>
    obtain ⟨c, mid, order₁, hc, hproceeds, hq⟩ := hstep hst hr hready hab
    obtain ⟨cs, st', order', hchain, hproceeds', hall⟩ :=
      ih hproceeds.stands hproceeds.realizes (hready.advances hproceeds.advances)
    exact ⟨c :: cs, st', order', .cons hc hchain, hproceeds.trans hproceeds',
      .cons (hmono hproceeds'.advances hproceeds'.order hq) hall⟩

structure Fills (node : Text) (st : Loading) (order : List NodeId) (given slot : ShaderGraph.Input) :
    Prop where
  type : given.type.isValid = true
  resolves : st.network.Resolves given.value
  slot : ∃ v, given.value.Moves order v ∧
    slot = ⟨given.name, given.type, Network.connect node ⟨given.name, given.type, v⟩⟩

theorem Fills.mono {node : Text} {given slot : ShaderGraph.Input}
    (h : Fills node st order given slot) (ha : Advances st st') (ho : order <+: order') :
    Fills node st' order' given slot := by
  obtain ⟨v, hv, hslot⟩ := h.slot
  refine ⟨h.type, ?_, v, hv.mono ho, hslot⟩
  have hgrows : st.network.Grows st'.network :=
    ⟨ha.nodes, fun id g hg => ⟨g, (ha.graph? id).trans hg, rfl, rfl, List.prefix_rfl, List.prefix_rfl⟩⟩
  exact hgrows.resolves h.resolves

theorem exists_wired {node : Text} {ins slots : List ShaderGraph.Input}
    (h : List.Forall₂ (Fills node st order) ins slots) :
    ∃ wired, ins.mapM (st.network.wire node) = .ok wired ∧
      List.Forall₂ (Input.Moves order) wired slots ∧
      ins.map (·.name) = slots.map (·.name) := by
  induction h with
  | nil => exact ⟨[], rfl, .nil, rfl⟩
  | @cons given slot _ _ hfills _ ih =>
    obtain ⟨wired, hwired, hmoves, hnames⟩ := ih
    obtain ⟨v, hv, rfl⟩ := hfills.slot
    have hwire : st.network.wire node given =
        .ok { given with value := Network.connect node given } :=
      Network.wire_eq_ok.mpr ⟨hfills.type, hfills.resolves, rfl⟩
    refine ⟨{ given with value := Network.connect node given } :: wired,
      Outcome.mapM_eq_ok.mpr (.cons hwire (Outcome.mapM_eq_ok.mp hwired)),
      .cons ⟨rfl, rfl, hv.connect node given.name given.type⟩ hmoves, ?_⟩
    rw [List.map_cons, List.map_cons, hnames]

/-! ## Building one node -/

def Yields (net : Network) (s : Scope) (low done : Nat) (handle : Text → Option NodeId)
    (build : Text → Load (Option NodeId)) (st : Loading) (order : List NodeId) (n : Node)
    (node : ShaderGraph.Node) : Prop :=
  ∃ mid order' node', Proceeds net s low done handle st order mid order' ∧
    s.Constructs build st n node'.id
      { mid with network := { mid.network with nodes := mid.network.nodes ++ [node'] } } ∧
    node'.id = mid.network.nodes.length + 1 ∧ node'.Moves order' node ∧ node'.graph ≤ done

theorem exists_given (hplan : Plan net s low high done handle) (hidle : idle ⊆ s.nodes)
    (hserves : Serves net s low done handle idle bound) (hst : Stands s low st)
    (hr : Realizes net low done handle st order) (hready : Ready s handle idle bound st)
    {node : Text} {is : List Input} {slots : List ShaderGraph.Input}
    (h : List.Forall₂ (Slot net s.frame (below handle bound) node) is slots) :
    ∃ ins st' order', Chain (s.Wires (s.build idle)) st is ins st' ∧
      Proceeds net s low done handle st order st' order' ∧
      List.Forall₂ (Fills node st' order') ins slots := by
  refine exists_chain (Q := Fills node) (fun hst hr hready hslot => ?_)
    (fun ha ho hq => hq.mono ha ho) h hst hr hready
  obtain ⟨type, v, hparse, hv, rfl⟩ := hslot
  obtain ⟨v', st', order', hreads, hproceeds, hmoves, hresolves⟩ :=
    hv.exists_reads hplan hidle hserves hst hr hready
  exact ⟨⟨_, type, v'⟩, st', order', ⟨type, v', hparse, hreads, rfl⟩, hproceeds,
    TypeTag.isValid_ofDataType type, hresolves, v, hmoves, rfl⟩

theorem exists_givenCopy (hplan : Plan net s low high done handle) (hidle : idle ⊆ s.nodes)
    (hserves : Serves net s low done handle idle bound) (hst : Stands s low st)
    (hr : Realizes net low done handle st order) (hready : Ready s handle idle bound st)
    {g g' : NodeGraph} (hinputs : g.inputs = g'.inputs)
    (htypes : ∀ i ∈ g.inputs, i.type.isValid = true) {is : List Input}
    {slots : List ShaderGraph.Input}
    (h : List.Forall₂ (CopySlot net s.frame (below handle bound) g) is slots) :
    ∃ ins st' order', Chain (s.WiresInstance (s.build idle) g') st is ins st' ∧
      Proceeds net s low done handle st order st' order' ∧
      List.Forall₂ (Fills Network.referenceType st' order') ins slots := by
  refine exists_chain (Q := Fills Network.referenceType) (fun {_ _ i _} hst hr hready hslot => ?_)
    (fun ha ho hq => hq.mono ha ho) h hst hr hready
  obtain ⟨declared, v, hdeclared, hcheck, hv, rfl⟩ := hslot
  obtain ⟨v', st', order', hreads, hproceeds, hmoves, hresolves⟩ :=
    hv.exists_reads hplan hidle hserves hst hr hready
  have hvalid := htypes declared (List.mem_of_find?_eq_some hdeclared)
  have hdeclared' : g'.input? i.name = some declared := by
    rw [NodeGraph.input?, ← hinputs]
    exact hdeclared
  exact ⟨⟨_, declared.type, v'⟩, st', order', ⟨declared, v', hdeclared', hcheck, hreads, rfl⟩,
    hproceeds, hvalid, hresolves, v, hmoves, rfl⟩

theorem findGraph?_of_graph? {net : Network} (hs : net.Sound) {k : GraphId} {g : NodeGraph}
    (hg : net.graph? k = some g) : net.findGraph? g.name = some g := by
  have hmem := Network.mem_graphs_of_graph? hg
  cases hfind : net.findGraph? g.name with
  | none => simpa using List.find?_eq_none.mp hfind g hmem
  | some g' =>
    have hname : g'.name = g.name := by simpa using List.find?_some hfind
    rw [List.inj_on_of_nodup_map hs.graphNames (List.mem_of_find?_eq_some hfind) hmem hname]

theorem Describes.yields (hplan : Plan net s low high done handle) (hidle : idle ⊆ s.nodes)
    (hserves : Serves net s low done handle idle bound) (hst : Stands s low st)
    (hr : Realizes net low done handle st order) (hready : Ready s handle idle bound st)
    {n : Node} {node : ShaderGraph.Node} (hnode : node ∈ net.nodes)
    (h : Describes net s.frame (below handle bound) n node) :
    Yields net s low done handle (s.build idle) st order n node := by
  cases h with
  | shader hgraph htype hreserved htype' hgraph' hins hnodup houts hnodup' =>
    obtain ⟨ins, mid, order', hchain, hproceeds, hfills⟩ :=
      exists_given hplan hidle hserves hst hr hready hins
    obtain ⟨wired, hwired, hmoves, hnames⟩ := exists_wired hfills
    have hvalid := hplan.sound.slotTypes node hnode
    have hadd : mid.network.addNode n.type ins node.outputs 0 = .ok (_, _) :=
      Network.addNode_eq_ok.mpr ⟨htype, wired, hwired, hvalid, rfl⟩
    refine ⟨mid, order', ⟨mid.network.nodes.length + 1, n.type, wired, node.outputs, 0⟩, hproceeds,
      ?_, rfl, ⟨htype', hgraph', hmoves, rfl⟩, Nat.zero_le _⟩
    exact .shader hgraph htype hreserved hchain (hnames ▸ hnodup) houts hnodup' hadd
  | @copy g hgraph htype houtputs htype' houtputs' hg hname hown hins hnodup =>
    have hid : g.id = node.graph := hplan.sound.id_of_graph? hg
    have hpos : 0 < node.graph := by
      cases hzero : node.graph with
      | zero => simp [hzero, Network.graph?] at hg
      | succ k => exact Nat.succ_pos k
    have hle : node.graph ≤ done := hplan.listed _ g hg (hid ▸ hown)
    obtain ⟨g', g₀, hg', hg₀, hgm⟩ := hr.tracks.graph hpos hle
    obtain rfl := Option.some.inj (hg₀.symm.trans hg)
    have hid' : g'.id = node.graph := hst.sound.id_of_graph? hg'
    obtain ⟨ins, mid, order', hchain, hproceeds, hfills⟩ :=
      exists_givenCopy hplan hidle hserves hst hr hready hgm.inputs
        (hplan.sound.inputTypes _ (Network.mem_graphs_of_graph? hg)) hins
    obtain ⟨wired, hwired, hmoves, hnames⟩ := exists_wired hfills
    have hlisted : ∀ i ∈ ins, i.name ∈ g'.inputs.map (·.name) := by
      intro i hi
      have hmem : i.name ∈ node.inputs.map (·.name) := hnames ▸ List.mem_map_of_mem hi
      obtain ⟨slot, hslot, hsame⟩ := List.mem_map.mp hmem
      obtain ⟨_, _, declared, _, hdeclared, _, _, rfl⟩ := exists_of_forall₂ hins.flip hslot
      rw [← hsame, ← hgm.inputs, ← NodeGraph.isSome_input?, hdeclared]
      rfl
    have hadd : mid.network.addReference g'.id ins = .ok (_, _) :=
      Network.addReference_eq_ok.mpr ⟨g', hid' ▸ (hproceeds.advances.graph? _).trans hg', hlisted,
        Network.addNode_eq_ok.mpr ⟨by decide, wired, hwired, by simp, rfl⟩⟩
    refine ⟨mid, order', ⟨mid.network.nodes.length + 1, Network.referenceType, wired, [], g'.id⟩,
      hproceeds, ?_, rfl, ⟨htype', hid'.symm, hmoves, houtputs'⟩, hid' ▸ hle⟩
    refine .copy hgraph htype houtputs ?_ (fun own hmem => ?_) hchain (hnames ▸ hnodup) hadd
    · rw [← hname, hgm.name]
      exact findGraph?_of_graph? hst.sound hg'
    · have hlt : done < own.id := hplan.own own hmem
      exact Nat.ne_of_gt (Nat.lt_of_le_of_lt (hid' ▸ hle) hlt)

/-! ## Building a scope -/

/-- Building a charted node succeeds if all nodes before it are built or idle. -/
theorem serves_build (hplan : Plan net s low high done handle) (bound : Nat) {idle : List Node}
    (hidle : idle ⊆ s.nodes) : Serves net s low done handle idle bound := by
  induction bound using Nat.strongRecOn generalizing idle with
  | ind bound ih =>
    intro name j st order hname hlt hst hr hready
    obtain ⟨n, hn, rfl⟩ := hplan.charted.named name j hname
    have hdeclares : s.Declares n.name := ⟨n, hn, rfl⟩
    -- It is enough to settle the name: the rest of the state follows from the run.
    suffices hsettles : ∃ id' st' order', s.Settles idle st n.name id' st' ∧
        Realizes net low done handle st' order' ∧ order <+: order' ∧ Places order' id' j by
      obtain ⟨id', st', order', hsettles, hr', horder, hplace⟩ := hsettles
      have hrun := (Scope.runs_build hst.clear hdeclares).mpr ⟨id', rfl, hsettles⟩
      obtain ⟨hst', hadvance, _⟩ := Scope.upholds_build s low hidle hdeclares hst hrun
      exact ⟨id', st', order', hrun, ⟨hst', hadvance, hr', horder⟩, hplace⟩
    cases hlookup : st.settled.lookup n.name with
    | some outcome =>
      cases outcome with
      | none => exact absurd rfl (hst.clear.settled _ (Scope.mem_of_lookup hlookup))
      | some id' =>
        obtain ⟨id, hplace, hid⟩ := hr.handles n.name id' (Loading.handle_eq_some.mpr hlookup)
        obtain rfl := Option.some.inj (hid.symm.trans hname)
        exact ⟨id', st, order, .known hlookup, hr, List.prefix_rfl, hplace⟩
    | none =>
      have hnew : st.handle n.name = none := by rw [Loading.handle, hlookup]; rfl
      have hmem := hready n hn j hname hlt hnew
      obtain ⟨m, hfind⟩ : ∃ m, idle.find? (·.name = n.name) = some m := by
        cases hfind : idle.find? (·.name = n.name) with
        | none => simpa using List.find?_eq_none.mp hfind n hmem
        | some m => exact ⟨m, rfl⟩
      obtain rfl : m = n := List.inj_on_of_nodup_map hplan.charted.names
        (hidle (List.mem_of_find?_eq_some hfind)) hn (by simpa using List.find?_some hfind)
      obtain ⟨id, node, hid, _, _, hsupported, hnode, hdescribes⟩ := hplan.charted.described m hn
      obtain rfl := Option.some.inj (hname.symm.trans hid)
      -- The nodes before this one are not this one, so they are still idle.
      have hready' : Ready s handle (Scope.without idle m.name) j st := by
        intro k hk i hi hij hnone
        refine List.mem_filter.mpr ⟨hready k hk i hi (Nat.lt_trans hij hlt) hnone, ?_⟩
        simp only [ne_eq, decide_not, Bool.not_eq_true', decide_eq_false_iff_not]
        intro hsame
        rw [hsame, hname] at hi
        exact Nat.lt_irrefl _ (Option.some.inj hi ▸ hij)
      have hidle' := Scope.subset_without hidle m.name
      obtain ⟨mid, order', node', hproceeds, hconstructs, hid', hmoves, hgraph⟩ :=
        hdescribes.yields hplan hidle' (ih j hlt hidle') hst hr hready'
          (Network.mem_nodes_of_node? hnode)
      have hnew' : mid.settled.lookup m.name = none := (hconstructs.preserves
        (Scope.preserves_unsettled s (by simp [Scope.without]))
        (fun _ h => ⟨⟨h.1.diagnostics, h.1.settled⟩, h.2⟩) ⟨hst.clear, hlookup⟩).2
      have hadded := hproceeds.realizes.add hplan hproceeds.stands hname
        (by rw [Loading.handle, hnew']; rfl) hnode hid' hmoves hgraph
      refine ⟨node'.id, _, order' ++ [j], .new hlookup hfind hsupported hconstructs, hadded,
        hproceeds.order.trans (List.prefix_append _ _), ?_⟩
      rw [hid', ← hproceeds.realizes.tracks.length]
      exact Places.last order' j

theorem exists_visits (hplan : Plan net s low high done handle) {nodes : List Node}
    (hnodes : nodes ⊆ s.nodes) (hst : Stands s low st)
    (hr : Realizes net low done handle st order) : ∃ ids st' order', s.Visits st nodes ids st' ∧
      Proceeds net s low done handle st order st' order' := by
  induction nodes generalizing st order with
  | nil => exact ⟨[], st, order, .nil st, .refl hst hr⟩
  | cons n nodes ih =>
    have hn : n ∈ s.nodes := hnodes List.mem_cons_self
    obtain ⟨id, _, hid, _, hhigh, _⟩ := hplan.charted.described n hn
    have hready : Ready s handle s.nodes (high + 1) st := fun m hm _ _ _ _ => hm
    obtain ⟨id', mid, order₁, hrun, hproceeds, _⟩ :=
      serves_build hplan (high + 1) (List.Subset.refl s.nodes) hid (Nat.lt_succ_of_le hhigh) hst hr
        hready
    obtain ⟨_, he, hsettles⟩ := (Scope.runs_build hst.clear ⟨n, hn, rfl⟩).mp hrun
    obtain rfl := Option.some.inj he
    obtain ⟨ids, st', order', hvisits, hproceeds'⟩ :=
      ih (fun m hm => hnodes (List.mem_cons_of_mem _ hm)) hproceeds.stands hproceeds.realizes
    exact ⟨id' :: ids, st', order', .cons hsettles hvisits, hproceeds.trans hproceeds'⟩

theorem Charted.length_eq {net : Network} {frame : Frame} {nodes : List Node}
    (h : Charted net frame nodes low high handle) : nodes.length = high - low := by
  have hnodup : (nodes.map fun n => handle n.name).Nodup := by
    refine (List.nodup_map_iff_inj_on (List.Nodup.of_map _ h.names)).mpr fun m hm n hn he => ?_
    obtain ⟨id, _, hid, _⟩ := h.described n hn
    have hname := h.injective m.name n.name id (he.trans hid) hid
    exact List.inj_on_of_nodup_map h.names hm hn hname
  have hbounds : ∀ id : Nat, low < id → id ≤ high → low + 1 ≤ id ∧ id < low + 1 + (high - low) := by
    omega
  have hperm : (nodes.map fun n => handle n.name).Perm
      ((List.range' (low + 1) (high - low)).map some) := by
    have hrange : ((List.range' (low + 1) (high - low)).map some).Nodup :=
      (List.nodup_range' 1).map (Option.some_injective _)
    refine (List.perm_ext_iff_of_nodup hnodup hrange).mpr fun o => ?_
    simp only [List.mem_map, List.mem_range'_1]
    constructor
    · rintro ⟨n, hn, rfl⟩
      obtain ⟨id, _, hid, hlow, hhigh, _⟩ := h.described n hn
      exact ⟨id, hbounds id hlow hhigh, hid.symm⟩
    · rintro ⟨id, hid, rfl⟩
      obtain ⟨name, hname⟩ := h.onto id (by omega) (by omega)
      obtain ⟨n, hn, rfl⟩ := h.named name id hname
      exact ⟨n, hn, hname⟩
  simpa using hperm.length_eq

end ShaderGraph.Blueprint
