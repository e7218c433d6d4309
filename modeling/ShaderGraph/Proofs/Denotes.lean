import ShaderGraph.Proofs.ScopeRuns
import ShaderGraph.Proofs.Session

/-!
# What declarations denote

The meaning of the expressions and nodes of a scope in a network, without regard to the order in which
they get built. An expression denotes a value once the names of nodes stand for handles, and a
declaration describes a node whose inputs are what its expressions denote. Building a scope without
a report leaves every node described, with nothing in it that has a later handle.
-/
namespace ShaderGraph

/-! ## Networks that go on -/

namespace Network

variable {net net' : Network}

structure Continues (net net' : Network) : Prop where
  nodes : net.nodes <+: net'.nodes
  graphs : ∀ n ∈ net.nodes, net'.graph? n.graph = net.graph? n.graph

theorem Continues.outputType (h : net.Continues net') {id : NodeId} {n : Node}
    (hn : net.node? id = some n) (slot : Text) :
    net'.outputType id slot = net.outputType id slot := by
  have hgraph := h.graphs n (mem_nodes_of_node? hn)
  simp only [Network.outputType, Network.node, node?_of_nodes h.nodes hn, hn, Network.graph, bind,
    Except.bind, hgraph]

theorem Continues.output (h : net.Continues net') {id : NodeId} {slot : Text} {v : Value}
    (hv : net.output id slot = .ok v) : net'.output id slot = .ok v := by
  obtain ⟨t, ht, _⟩ := Outcome.bind_eq_ok.mp hv
  obtain ⟨n, hn, _⟩ := outputType_ok_iff.mp ⟨t, ht⟩
  rw [Network.output, h.outputType hn, ← Network.output, hv]

end Network

namespace Blueprint

open Config (Expr Span)
open Load

theorem Shows.continues {net net' : Network} {id : NodeId} {names : List Text}
    (h : Shows net id names) (hnet : net.Continues net') : Shows net' id names := by
  obtain ⟨n, hn, hnames⟩ := h
  refine ⟨n, Network.node?_of_nodes hnet.nodes hn, ?_⟩
  rwa [hnet.graphs n (Network.mem_nodes_of_node? hn)]

theorem Picks.continues {net net' : Network} {id : NodeId} {output? : Option Text} {v : Value}
    (h : Picks net id output? v) (hnet : net.Continues net') : Picks net' id output? v := by
  obtain ⟨output, hname, hv⟩ := h
  exact ⟨output, hname.imp_right fun ⟨hnone, hshows⟩ => ⟨hnone, hshows.continues hnet⟩,
    hnet.output hv⟩

/-! ## Meanings -/

structure Frame where
  graph : Option (GraphId × List ShaderGraph.GraphInput)
  parameters : List (Text × Constant)

def Scope.frame (s : Scope) : Frame := ⟨s.graph.map fun g => (g.id, g.inputs), s.parameters⟩

/-- The expression stands for the value, where `handle` gives the handles of the nodes. -/
inductive Denotes (net : Network) (frame : Frame) (handle : Text → Option NodeId) :
    Option Expr → Option DataType → Text → Value → Prop
  | absent {type? : Option DataType} {space : Text} :
      Denotes net frame handle none type? space .absent
  | constant {e : Expr} {type : DataType} {space : Text} {c : Constant} :
      e.reference? = none → literal type (some e) space e.span = .ok c →
      Denotes net frame handle (some e) (some type) space (.ofConstant c)
  | parameter {e : Expr} {type? : Option DataType} {space name : Text} {c : Constant} :
      Refers e (.parameter name) → frame.graph = none → frame.parameters.lookup name = some c →
      Denotes net frame handle (some e) type? space (.ofParameter name c)
  | graphInput {e : Expr} {type? : Option DataType} {space name : Text} {graph : GraphId}
      {inputs : List ShaderGraph.GraphInput} {i : ShaderGraph.GraphInput} :
      Refers e (.graphInput name) → frame.graph = some (graph, inputs) →
      inputs.find? (·.name = name) = some i →
      Denotes net frame handle (some e) type? space ⟨i.type, .graphInput graph name⟩
  | node {e : Expr} {type? : Option DataType} {space name : Text} {output? : Option Text}
      {id : NodeId} {v : Value} :
      Refers e (.node name output?) → handle name = some id → Picks net id output? v →
      Denotes net frame handle (some e) type? space v

theorem Denotes.mono {net net' : Network} {frame : Frame} {handle handle' : Text → Option NodeId}
    {e? : Option Expr} {type? : Option DataType} {space : Text} {v : Value}
    (h : Denotes net frame handle e? type? space v) (hnet : net.Continues net')
    (hhandle : ∀ name id, handle name = some id → handle' name = some id) :
    Denotes net' frame handle' e? type? space v := by
  cases h with
  | absent => exact .absent
  | constant href hc => exact .constant href hc
  | parameter hrefers hgraph hlookup => exact .parameter hrefers hgraph hlookup
  | graphInput hrefers hgraph hfind => exact .graphInput hrefers hgraph hfind
  | node hrefers hid hpicks => exact .node hrefers (hhandle _ _ hid) (hpicks.continues hnet)

theorem Denotes.resolves {net : Network} {frame : Frame} {handle : Text → Option NodeId}
    {e? : Option Expr} {type? : Option DataType} {space : Text} {v : Value}
    (h : Denotes net frame handle e? type? space v)
    (hframe : ∀ k inputs, frame.graph = some (k, inputs) →
      ∃ g, net.graph? k = some g ∧ g.inputs = inputs) : net.Resolves v := by
  cases h with
  | absent => trivial
  | constant _ _ => trivial
  | parameter _ _ _ => trivial
  | graphInput _ hgraph hfind =>
    obtain ⟨g, hg, rfl⟩ := hframe _ _ hgraph
    refine ⟨g, hg, List.mem_map.mpr ⟨_, List.mem_of_find?_eq_some hfind, ?_⟩⟩
    simpa using List.find?_some hfind
  | node _ _ hpicks =>
    obtain ⟨output, _, hv⟩ := hpicks
    exact Build.output_resolves hv

def Slot (net : Network) (frame : Frame) (handle : Text → Option NodeId) (nodeType : Text)
    (i : Input) (slot : ShaderGraph.Input) : Prop :=
  ∃ type v, DataType.parse i.type = .ok type ∧
    Denotes net frame handle i.value (some type) i.colorSpace v ∧
    slot = ⟨i.name, type, Network.connect nodeType ⟨i.name, type, v⟩⟩

def CopySlot (net : Network) (frame : Frame) (handle : Text → Option NodeId) (g : NodeGraph)
    (i : Input) (slot : ShaderGraph.Input) : Prop :=
  ∃ declared v, g.input? i.name = some declared ∧
    (i.type = [] ∨ (DataType.ofName? i.type).map TypeTag.ofDataType = some declared.type) ∧
    Denotes net frame handle i.value declared.type.dataType? i.colorSpace v ∧
    slot = ⟨i.name, declared.type,
      Network.connect Network.referenceType ⟨i.name, declared.type, v⟩⟩

inductive Describes (net : Network) (frame : Frame) (handle : Text → Option NodeId) (n : Node)
    (node : ShaderGraph.Node) : Prop
  | shader : n.graph = [] → n.type ≠ [] → n.type ≠ Network.referenceType → node.type = n.type →
      node.graph = 0 → List.Forall₂ (Slot net frame handle n.type) n.inputs node.inputs →
      (node.inputs.map (·.name)).Nodup → List.Forall₂ Scope.Offers n.outputs node.outputs →
      (node.outputs.map (·.name)).Nodup → Describes net frame handle n node
  | copy {g : NodeGraph} : n.graph ≠ [] → n.type = [] → n.outputs = [] →
      node.type = Network.referenceType → node.outputs = [] → net.graph? node.graph = some g →
      g.name = n.graph → (∀ own ∈ frame.graph, g.id < own.1) →
      List.Forall₂ (CopySlot net frame handle g) n.inputs node.inputs →
      (node.inputs.map (·.name)).Nodup → Describes net frame handle n node

theorem Describes.mono {net net' : Network} {frame : Frame} {handle handle' : Text → Option NodeId}
    {n : Node} {node : ShaderGraph.Node} (h : Describes net frame handle n node)
    (hnet : net.Continues net') (hgraph : net'.graph? node.graph = net.graph? node.graph)
    (hhandle : ∀ name id, handle name = some id → handle' name = some id) :
    Describes net' frame handle' n node := by
  cases h with
  | shader hshader htype hreserved htype' hgraph' hins hnodup houts hnodup' =>
    refine .shader hshader htype hreserved htype' hgraph' (hins.imp fun i slot h => ?_) hnodup houts
      hnodup'
    obtain ⟨type, v, hparse, hv, rfl⟩ := h
    exact ⟨type, v, hparse, hv.mono hnet hhandle, rfl⟩
  | copy hcopy htype houtputs htype' houtputs' hg hname hown hins hnodup =>
    refine .copy hcopy htype houtputs htype' houtputs' (hgraph.trans hg) hname hown (hins.imp fun i slot h => ?_)
      hnodup
    obtain ⟨declared, v, hdeclared, hcheck, hv, rfl⟩ := h
    exact ⟨declared, v, hdeclared, hcheck, hv.mono hnet hhandle, rfl⟩

/-! ## Nodes of a scope -/

def Loading.handle (st : Loading) (name : Text) : Option NodeId := (st.settled.lookup name).join

def below (handle : Text → Option NodeId) (id : Nat) (name : Text) : Option NodeId :=
  (handle name).filter (· < id)

theorem below_eq_some {handle : Text → Option NodeId} {id id' : Nat} {name : Text} :
    below handle id name = some id' ↔ handle name = some id' ∧ id' < id := by
  simp [below, Option.filter_eq_some_iff]

/-- The state of a scope in which some of its nodes are built. They have the handles after `low`. -/
structure Stands (s : Scope) (low : Nat) (st : Loading) : Prop where
  sound : st.network.Sound
  clear : st.Clear
  frame : ∀ own ∈ s.graph, own.id = st.network.graphs.length ∧ st.network.graph? own.id = some own
  earlier : ∀ own ∈ s.graph, ∀ node ∈ st.network.nodes, node.graph < own.id
  started : low ≤ st.network.nodes.length
  described : ∀ name id, st.handle name = some id → low < id ∧ ∃ n ∈ s.nodes, n.name = name ∧
    Scope.Supported n ∧ ∃ node, st.network.node? id = some node ∧
      Describes st.network s.frame (below st.handle id) n node
  onto : ∀ id, low < id → id ≤ st.network.nodes.length → ∃ name, st.handle name = some id
  injective : ∀ name name' id, st.handle name = some id → st.handle name' = some id → name = name'

structure Advances (st st' : Loading) : Prop where
  nodes : st.network.nodes <+: st'.network.nodes
  graphs : st'.network.graphs = st.network.graphs
  handles : ∀ name id, st.handle name = some id → st'.handle name = some id

namespace Advances

variable {st st' st'' : Loading}

theorem refl (st : Loading) : Advances st st := ⟨List.prefix_rfl, rfl, fun _ _ h => h⟩

theorem trans (h : Advances st st') (h' : Advances st' st'') : Advances st st'' :=
  ⟨h.nodes.trans h'.nodes, h'.graphs.trans h.graphs,
    fun name id hid => h'.handles name id (h.handles name id hid)⟩

theorem graph? (h : Advances st st') (id : GraphId) :
    st'.network.graph? id = st.network.graph? id := by
  cases id with
  | zero => rfl
  | succ k => rw [Network.graph?, Network.graph?, h.graphs]

theorem continues (h : Advances st st') : st.network.Continues st'.network :=
  ⟨h.nodes, fun n _ => h.graph? n.graph⟩

end Advances

theorem Chain.stands {α β : Type} {R : Loading → α → β → Loading → Prop}
    {P : Loading → α → β → Prop} {s : Scope} {low : Nat}
    (hR : ∀ {st a b st'}, Stands s low st → R st a b st' →
      Stands s low st' ∧ Advances st st' ∧ P st' a b)
    (hP : ∀ {st a b st'}, Advances st st' → P st a b → P st' a b)
    {st st' : Loading} {as : List α} {bs : List β} (h : Chain R st as bs st')
    (hst : Stands s low st) : Stands s low st' ∧ Advances st st' ∧ List.Forall₂ (P st') as bs := by
  induction h with
  | nil st => exact ⟨hst, .refl st, .nil⟩
  | cons hab _ ih =>
    obtain ⟨hmid, hadvance, hp⟩ := hR hst hab
    obtain ⟨hend, hadvance', hall⟩ := ih hmid
    exact ⟨hend, hadvance.trans hadvance', .cons (hP hadvance' hp) hall⟩

namespace Scope

variable {s : Scope} {low : Nat} {build : Text → Load (Option NodeId)} {st st' : Loading}

def Upholds (s : Scope) (low : Nat) (build : Text → Load (Option NodeId)) : Prop :=
  ∀ ⦃name : Text⦄ ⦃id : NodeId⦄ ⦃st st' : Loading⦄, s.Declares name → Stands s low st →
    Runs (build name) st (some id) st' →
    Stands s low st' ∧ Advances st st' ∧ st'.handle name = some id

theorem Reads.denotes (hb : s.Upholds low build) {e? : Option Expr} {type? : Option DataType}
    {space : Text} {v : Value} (hst : Stands s low st)
    (h : s.Reads build st e? type? space v st') :
    Stands s low st' ∧ Advances st st' ∧
      Denotes st'.network s.frame st'.handle e? type? space v := by
  cases h with
  | absent => exact ⟨hst, .refl _, .absent⟩
  | constant href hc => exact ⟨hst, .refl _, .constant href hc⟩
  | parameter hrefers hgraph hlookup =>
    exact ⟨hst, .refl _, .parameter hrefers (by simp [frame, hgraph]) hlookup⟩
  | graphInput hrefers hgraph hinput =>
    exact ⟨hst, .refl _, .graphInput hrefers (by simp [frame, hgraph]) hinput⟩
  | node hrefers hname hrun hpicks =>
    obtain ⟨hst', hadvance, hid⟩ := hb hname hst hrun
    exact ⟨hst', hadvance, .node hrefers hid hpicks⟩

def Given (s : Scope) (st : Loading) (i : Input) (slot : ShaderGraph.Input) : Prop :=
  ∃ type v, DataType.parse i.type = .ok type ∧
    Denotes st.network s.frame st.handle i.value (some type) i.colorSpace v ∧
    slot = ⟨i.name, type, v⟩

def GivenCopy (s : Scope) (g : NodeGraph) (st : Loading) (i : Input) (slot : ShaderGraph.Input) :
    Prop :=
  ∃ declared v, g.input? i.name = some declared ∧
    (i.type = [] ∨ (DataType.ofName? i.type).map TypeTag.ofDataType = some declared.type) ∧
    Denotes st.network s.frame st.handle i.value declared.type.dataType? i.colorSpace v ∧
    slot = ⟨i.name, declared.type, v⟩

theorem given_of_wires (hb : s.Upholds low build) {is : List Input} {ins : List ShaderGraph.Input}
    (hst : Stands s low st) (h : Chain (s.Wires build) st is ins st') :
    Stands s low st' ∧ Advances st st' ∧ List.Forall₂ (s.Given st') is ins := by
  refine h.stands (fun hst hw => ?_) (fun hadvance hgiven => ?_) hst
  · obtain ⟨type, v, hparse, hreads, rfl⟩ := hw
    obtain ⟨hst', hadvance, hv⟩ := hreads.denotes hb hst
    exact ⟨hst', hadvance, type, v, hparse, hv, rfl⟩
  · obtain ⟨type, v, hparse, hv, rfl⟩ := hgiven
    exact ⟨type, v, hparse, hv.mono hadvance.continues hadvance.handles, rfl⟩

theorem given_of_wiresInstance (hb : s.Upholds low build) {g : NodeGraph} {is : List Input}
    {ins : List ShaderGraph.Input} (hst : Stands s low st)
    (h : Chain (s.WiresInstance build g) st is ins st') :
    Stands s low st' ∧ Advances st st' ∧ List.Forall₂ (s.GivenCopy g st') is ins := by
  refine h.stands (fun hst hw => ?_) (fun hadvance hgiven => ?_) hst
  · obtain ⟨declared, v, hdeclared, hcheck, hreads, rfl⟩ := hw
    obtain ⟨hst', hadvance, hv⟩ := hreads.denotes hb hst
    exact ⟨hst', hadvance, declared, v, hdeclared, hcheck, hv, rfl⟩
  · obtain ⟨declared, v, hdeclared, hcheck, hv, rfl⟩ := hgiven
    exact ⟨declared, v, hdeclared, hcheck, hv.mono hadvance.continues hadvance.handles, rfl⟩

end Scope

theorem handle_cons (net : Network) (st : Loading) (name other : Text) (id : NodeId) :
    (Loading.mk net st.diagnostics ((name, some id) :: st.settled)).handle other =
      if other = name then some id else st.handle other := by
  rw [Loading.handle, List.lookup_cons]
  by_cases h : other = name
  · simp [h]
  · have hne : (other == name) = false := beq_eq_false_iff_ne.mpr h
    simp [hne, h, Loading.handle]

theorem Stands.handle_le {s : Scope} {low : Nat} {st : Loading} (hst : Stands s low st)
    {name : Text} {id : Nat} (h : st.handle name = some id) :
    id ≤ st.network.nodes.length := by
  obtain ⟨_, _, _, _, _, node, hnode, _⟩ := hst.described name id h
  cases id with
  | zero => exact Nat.zero_le _
  | succ k => exact (List.getElem?_eq_some_iff.mp hnode).1

theorem Stands.own_pos {s : Scope} {low : Nat} {st : Loading} (hst : Stands s low st)
    {own : NodeGraph} (h : own ∈ s.graph) : 0 < own.id := by
  have hgraph := (hst.frame own h).2
  cases hid : own.id with
  | zero => simp [hid, Network.graph?] at hgraph
  | succ k => exact Nat.succ_pos k

theorem Stands.add {s : Scope} {low : Nat} {st : Loading} (hst : Stands s low st) {n : Node}
    (hn : n ∈ s.nodes) (hsupported : Scope.Supported n) (hnew : st.handle n.name = none)
    {node : ShaderGraph.Node} (hadmits : st.network.Admits node)
    (hdescribes : Describes st.network s.frame st.handle n node)
    (hearlier : ∀ own ∈ s.graph, node.graph < own.id) :
    let st' : Loading := ⟨{ st.network with nodes := st.network.nodes ++ [node] }, st.diagnostics,
      (n.name, some node.id) :: st.settled⟩
    Stands s low st' ∧ Advances st st' ∧ st'.handle n.name = some node.id := by
  intro st'
  have hid : st.network.nodes.length + 1 = node.id := hadmits.id.symm
  have hlength : st'.network.nodes.length = st.network.nodes.length + 1 := by simp [st']
  have hhandle := fun other => handle_cons st'.network st n.name other node.id
  have hadvance : Advances st st' := by
    refine ⟨List.prefix_append _ _, rfl, fun other id hother => ?_⟩
    rw [hhandle, if_neg (fun h => ?_), hother]
    rw [h, hnew] at hother
    cases hother
  have hself : st'.handle n.name = some node.id := by rw [hhandle, if_pos rfl]
  have hnode : st'.network.node? node.id = some node := by
    rw [← hid]
    exact List.getElem?_concat_length
  refine ⟨⟨hst.sound.node hadmits, ⟨hst.clear.diagnostics, fun entry hentry => ?_⟩, hst.frame, ?_,
    Nat.le_trans hst.started hadvance.nodes.length_le, ?_, ?_, ?_⟩, hadvance, hself⟩
  · rcases List.mem_cons.mp hentry with rfl | hentry
    · simp
    · exact hst.clear.settled entry hentry
  · intro own hown
    exact Network.forall_mem_concat (hst.earlier own hown) (hearlier own hown)
  · intro other id hother
    rw [hhandle] at hother
    split at hother
    · rename_i hname
      obtain rfl := Option.some.inj hother
      have hstarted := hst.started
      refine ⟨by omega, n, hn, hname.symm, hsupported, node, hnode, ?_⟩
      -- Everything the node refers to was there before it.
      refine hdescribes.mono hadvance.continues (hadvance.graph? _) fun name id hname => ?_
      have hle := hst.handle_le hname
      exact below_eq_some.mpr ⟨hadvance.handles name id hname, by omega⟩
    · obtain ⟨hlow, m, hm, hname, hsupported, node', hnode', hdescribes'⟩ :=
        hst.described other id hother
      refine ⟨hlow, m, hm, hname, hsupported, node', Network.node?_of_nodes hadvance.nodes hnode', ?_⟩
      refine hdescribes'.mono hadvance.continues (hadvance.graph? _) fun name id' hid' => ?_
      obtain ⟨hhandle', hlt⟩ := below_eq_some.mp hid'
      exact below_eq_some.mpr ⟨hadvance.handles name id' hhandle', hlt⟩
  · intro id hlow hle
    rcases Nat.lt_or_ge st.network.nodes.length id with hgt | hle'
    · obtain rfl : id = node.id := by omega
      exact ⟨n.name, hself⟩
    · obtain ⟨name, hname⟩ := hst.onto id hlow hle'
      exact ⟨name, hadvance.handles name id hname⟩
  · -- The new handle is larger than all others.
    have hother : ∀ other, st.handle other ≠ some node.id := by
      intro other h
      have hle := hst.handle_le h
      omega
    intro a b id ha hb
    rw [hhandle] at ha hb
    split at ha <;> split at hb
    · rename_i hname hname'
      rw [hname, hname']
    · exact absurd (hb.trans ha.symm) (hother b)
    · exact absurd (ha.trans hb.symm) (hother a)
    · exact hst.injective a b id ha hb

theorem forall₂_comp {α β γ : Type} {R : α → β → Prop} {S : β → γ → Prop} {T : α → γ → Prop}
    (hT : ∀ {a b c}, R a b → S b c → T a c) {as : List α} {bs : List β} {cs : List γ}
    (h : List.Forall₂ R as bs) (h' : List.Forall₂ S bs cs) : List.Forall₂ T as cs := by
  induction h generalizing cs with
  | nil =>
    cases h'
    exact .nil
  | cons hab _ ih =>
    cases h' with
    | cons hbc hrest => exact .cons (hT hab hbc) (ih hrest)

theorem exists_of_forall₂ {α β : Type} {R : α → β → Prop} {as : List α} {bs : List β}
    (h : List.Forall₂ R as bs) {a : α} (ha : a ∈ as) : ∃ b ∈ bs, R a b := by
  induction h with
  | nil => cases ha
  | @cons x y _ _ hxy _ ih =>
    rcases List.mem_cons.mp ha with rfl | ha
    · exact ⟨y, List.mem_cons_self, hxy⟩
    · obtain ⟨b, hb, hab⟩ := ih ha
      exact ⟨b, List.mem_cons_of_mem _ hb, hab⟩

theorem map_eq_of_forall₂ {α β γ : Type} {f : α → γ} {g : β → γ} {as : List α} {bs : List β}
    (h : List.Forall₂ (fun a b => f a = g b) as bs) : as.map f = bs.map g := by
  induction h with
  | nil => rfl
  | cons hab _ ih => rw [List.map_cons, List.map_cons, hab, ih]

theorem names_of_wired {net : Network} {node : Text} {ins wired : List ShaderGraph.Input}
    (h : ins.mapM (net.wire node) = .ok wired) : ins.map (·.name) = wired.map (·.name) :=
  map_eq_of_forall₂ ((Outcome.mapM_eq_ok.mp h).imp fun _ _ hw => (Network.name_of_wire hw).symm)

theorem findGraph?_spec {net : Network} (hs : net.Sound) {name : Text} {g : NodeGraph}
    (h : net.findGraph? name = some g) :
    g.name = name ∧ net.graph? g.id = some g ∧ g.id ≤ net.graphs.length := by
  have hmem := List.mem_of_find?_eq_some h
  have hname : g.name = name := by simpa using List.find?_some h
  obtain ⟨k, hk⟩ := List.mem_iff_getElem?.mp hmem
  have hid := hs.graphId k g hk
  have hlt := (List.getElem?_eq_some_iff.mp hk).1
  rw [hid]
  exact ⟨hname, hk, hlt⟩

namespace Scope

variable {s : Scope} {low : Nat} {build : Text → Load (Option NodeId)} {st st' : Loading}

theorem Constructs.stands (hb : s.Upholds low build) {n : Node} {id : NodeId}
    (hst : Stands s low st) (hn : n ∈ s.nodes) (hsupported : Supported n)
    (h : s.Constructs build st n id st') (hnew : st'.handle n.name = none) :
    let last : Loading := { st' with settled := (n.name, some id) :: st'.settled }
    Stands s low last ∧ Advances st last ∧ last.handle n.name = some id := by
  cases h with
  | @shader mid _ ins outs _ net hgraph htype hreserved hchain hnodup hoffers hnodup' hadd =>
    obtain ⟨hmid, hadvance, hgiven⟩ := given_of_wires hb hst hchain
    obtain ⟨_, wired, hwired, hvalid, he⟩ := Network.addNode_eq_ok.mp hadd
    obtain ⟨rfl, rfl⟩ := Prod.mk.inj he
    have hslots : List.Forall₂ (Slot mid.network s.frame mid.handle n.type) n.inputs wired := by
      refine forall₂_comp (fun hi hw => ?_) hgiven (Outcome.mapM_eq_ok.mp hwired)
      obtain ⟨type, v, hparse, hv, rfl⟩ := hi
      obtain ⟨_, _, rfl⟩ := Network.wire_eq_ok.mp hw
      exact ⟨type, v, hparse, hv, rfl⟩
    rw [names_of_wired hwired] at hnodup
    obtain ⟨hlast, hadvance', hself⟩ := hmid.add hn hsupported hnew
      (Network.admits_node htype hwired hvalid)
      (.shader hgraph htype hreserved rfl rfl hslots hnodup hoffers hnodup')
      (fun own hown => hmid.own_pos hown)
    exact ⟨hlast, hadvance.trans hadvance', hself⟩
  | @copy mid _ g ins _ net hgraph htype houtputs hfind hown hchain hnodup hadd =>
    obtain ⟨hmid, hadvance, hgiven⟩ := given_of_wiresInstance hb hst hchain
    obtain ⟨g', hg', hin, hadd⟩ := Network.addReference_eq_ok.mp hadd
    obtain ⟨_, wired, hwired, _, he⟩ := Network.addNode_eq_ok.mp hadd
    obtain ⟨rfl, rfl⟩ := Prod.mk.inj he
    obtain ⟨hname, hg, hle⟩ := findGraph?_spec hst.sound hfind
    have hgmid := (hadvance.graph? g.id).trans hg
    obtain rfl : g' = g := Option.some.inj (hg'.symm.trans hgmid)
    have hslots : List.Forall₂ (CopySlot mid.network s.frame mid.handle g') n.inputs wired := by
      refine forall₂_comp (fun hi hw => ?_) hgiven (Outcome.mapM_eq_ok.mp hwired)
      obtain ⟨declared, v, hdeclared, hcheck, hv, rfl⟩ := hi
      obtain ⟨_, _, rfl⟩ := Network.wire_eq_ok.mp hw
      exact ⟨declared, v, hdeclared, hcheck, hv, rfl⟩
    rw [names_of_wired hwired] at hnodup
    -- The graph around is the last one, and it is not the one that is instantiated.
    have hbefore : ∀ own ∈ s.graph, g'.id < own.id := by
      intro own hmem
      have hlast : st.network.graphs.length = own.id := (hst.frame own hmem).1.symm
      have hne : own.id ≠ g'.id := hown own hmem
      exact Nat.lt_of_le_of_ne (hlast ▸ hle) (Ne.symm hne)
    obtain ⟨hlast, hadvance', hself⟩ := hmid.add hn hsupported hnew
      (Network.admits_reference hg' hin hwired)
      (.copy hgraph htype houtputs rfl rfl hg' hname (by simpa [frame] using hbefore) hslots hnodup)
      hbefore
    exact ⟨hlast, hadvance.trans hadvance', hself⟩

theorem preserves_unsettled (s : Scope) {idle : List Node} {other : Text}
    (hother : ∀ m ∈ idle, m.name ≠ other) :
    s.Preserves (s.build idle) fun st => st.Clear ∧ st.settled.lookup other = none := by
  induction hk : idle.length using Nat.strongRecOn generalizing idle with
  | ind k ih =>
    subst hk
    rintro name id st st' hname hrun ⟨hst, hnone⟩
    obtain ⟨_, he, hsettles⟩ := (runs_build hst hname).mp hrun
    obtain rfl := Option.some.inj he
    refine ⟨hsettles.clear hst fun _ _ => builder_build s _, ?_⟩
    cases hsettles with
    | known _ => exact hnone
    | @new n _ mid hlookup hfind hsupported hconstructs =>
      have hwithout : ∀ m ∈ without idle name, m.name ≠ other :=
        fun m hm => hother m (List.mem_of_mem_filter hm)
      have hmid := hconstructs.preserves (ih _ (length_without_lt hfind) hwithout rfl)
        (fun _ h => ⟨⟨h.1.diagnostics, h.1.settled⟩, h.2⟩) ⟨hst, hnone⟩
      have hne : name ≠ other := by
        have hnamed : n.name = name := by simpa using List.find?_some hfind
        exact hnamed ▸ hother n (List.mem_of_find?_eq_some hfind)
      rw [List.lookup_cons, beq_eq_false_iff_ne.mpr (Ne.symm hne)]
      exact hmid.2

theorem Settles.stands {idle : List Node} (hidle : idle ⊆ s.nodes) {name : Text} {id : NodeId}
    (hb : s.Upholds low (s.build (without idle name))) (hst : Stands s low st)
    (h : s.Settles idle st name id st') :
    Stands s low st' ∧ Advances st st' ∧ st'.handle name = some id := by
  cases h with
  | known hlookup => exact ⟨hst, .refl st, by rw [Loading.handle, hlookup]; rfl⟩
  | @new n _ mid hlookup hfind hsupported hconstructs =>
    have hmem := List.mem_of_find?_eq_some hfind
    obtain rfl : n.name = name := by simpa using List.find?_some hfind
    have hnew := (hconstructs.preserves (preserves_unsettled s (by simp [without]))
      (fun _ h => ⟨⟨h.1.diagnostics, h.1.settled⟩, h.2⟩) ⟨hst.clear, hlookup⟩).2
    exact hconstructs.stands hb hst (hidle hmem) hsupported (by rw [Loading.handle, hnew]; rfl)

theorem subset_without {idle : List Node} (h : idle ⊆ s.nodes) (name : Text) :
    without idle name ⊆ s.nodes := fun _ hm => h (List.mem_of_mem_filter hm)

theorem upholds_build (s : Scope) (low : Nat) {idle : List Node} (hidle : idle ⊆ s.nodes) :
    s.Upholds low (s.build idle) := by
  induction hk : idle.length using Nat.strongRecOn generalizing idle with
  | ind k ih =>
    subst hk
    intro name id st st' hname hst hrun
    obtain ⟨_, he, hsettles⟩ := (runs_build hst.clear hname).mp hrun
    obtain rfl := Option.some.inj he
    -- If the name is idle there are fewer idle nodes below, and else nothing is built below.
    cases hsettles with
    | known hlookup => exact ⟨hst, .refl st, by rw [Loading.handle, hlookup]; rfl⟩
    | new hlookup hfind hsupported hconstructs =>
      have hb := ih _ (length_without_lt hfind) (subset_without hidle name) rfl
      exact (Settles.new hlookup hfind hsupported hconstructs).stands hidle hb hst

theorem Visits.stands {nodes : List Node} {ids : List NodeId} (h : s.Visits st nodes ids st')
    (hst : Stands s low st) :
    Stands s low st' ∧ Advances st st' ∧
      List.Forall₂ (fun n id => st'.handle n.name = some id) nodes ids := by
  refine Chain.stands (P := fun st n id => st.handle n.name = some id) (fun hst hsettles => ?_)
    (fun {_ _ _ _} hadvance hid => ?_) h hst
  · have hsub := List.Subset.refl s.nodes
    exact hsettles.stands hsub (upholds_build s low (subset_without hsub _)) hst
  · exact hadvance.handles _ _ hid

end Scope

/-! ## Complete scopes -/

structure Complete (s : Scope) (st : Loading) : Prop where
  clear : st.Clear
  built : ∀ n ∈ s.nodes, ∃ id, st.handle n.name = some id
  named : ∀ name id, st.handle name = some id → s.Declares name

theorem Loading.handle_eq_some {st : Loading} {name : Text} {id : NodeId} :
    st.handle name = some id ↔ st.settled.lookup name = some (some id) := by
  rw [Loading.handle, Option.join_eq_some_iff]

theorem Complete.settles {s : Scope} {st st' : Loading} (h : Complete s st) {name : Text}
    (hname : s.Declares name) {id : NodeId} :
    Runs (s.build s.nodes name) st (some id) st' ↔ st' = st ∧ st.handle name = some id := by
  rw [Scope.runs_build h.clear hname]
  constructor
  · rintro ⟨_, he, hsettles⟩
    obtain rfl := Option.some.inj he
    cases hsettles with
    | known hlookup => exact ⟨rfl, Loading.handle_eq_some.mpr hlookup⟩
    | new hlookup _ _ _ =>
      obtain ⟨n, hn, rfl⟩ := hname
      obtain ⟨id, hid⟩ := h.built n hn
      rw [Loading.handle_eq_some, hlookup] at hid
      cases hid
  · rintro ⟨rfl, hid⟩
    exact ⟨id, rfl, .known (Loading.handle_eq_some.mp hid)⟩

theorem Complete.runs_finalValue {s : Scope} {st st' : Loading} (h : Complete s st)
    {e? : Option Expr} {type? : Option DataType} {o : Option Value} :
    Runs (s.finalValue e? type?) st o st' ↔
      ∃ v, o = some v ∧ st = st' ∧ Denotes st.network s.frame st.handle e? type? [] v := by
  rw [Scope.runs_finalValue h.clear]
  refine exists_congr fun v => and_congr_right fun _ => ?_
  constructor
  · intro hreads
    cases hreads with
    | absent => exact ⟨rfl, .absent⟩
    | constant href hc => exact ⟨rfl, .constant href hc⟩
    | parameter hrefers hgraph hlookup =>
      exact ⟨rfl, .parameter hrefers (by simp [Scope.frame, hgraph]) hlookup⟩
    | graphInput hrefers hgraph hinput =>
      exact ⟨rfl, .graphInput hrefers (by simp [Scope.frame, hgraph]) hinput⟩
    | node hrefers hname hrun hpicks =>
      obtain ⟨rfl, hid⟩ := (h.settles hname).mp hrun
      exact ⟨rfl, .node hrefers hid hpicks⟩
  · rintro ⟨rfl, hdenotes⟩
    cases hdenotes with
    | absent => exact .absent
    | constant href hc => exact .constant href hc
    | parameter hrefers hgraph hlookup =>
      exact .parameter hrefers (by simpa [Scope.frame] using hgraph) hlookup
    | graphInput hrefers hgraph hinput =>
      obtain ⟨g, hg, hframe⟩ := Option.map_eq_some_iff.mp hgraph
      obtain ⟨rfl, rfl⟩ := Prod.mk.inj hframe
      exact .graphInput hrefers hg hinput
    | node hrefers hid hpicks =>
      have hname := h.named _ _ hid
      exact .node hrefers hname ((h.settles hname).mpr ⟨rfl, hid⟩) hpicks

structure Charted (net : Network) (frame : Frame) (nodes : List Node) (low high : Nat)
    (handle : Text → Option NodeId) : Prop where
  names : (nodes.map (·.name)).Nodup
  described : ∀ n ∈ nodes, ∃ id node, handle n.name = some id ∧ low < id ∧ id ≤ high ∧
    Scope.Supported n ∧ net.node? id = some node ∧ Describes net frame (below handle id) n node
  named : ∀ name id, handle name = some id → ∃ n ∈ nodes, n.name = name
  onto : ∀ id, low < id → id ≤ high → ∃ name, handle name = some id
  injective : ∀ name name' id, handle name = some id → handle name' = some id → name = name'

theorem Charted.continues {net net' : Network} {frame : Frame} {nodes : List Node}
    {low high : Nat} {handle : Text → Option NodeId} (h : Charted net frame nodes low high handle)
    (hnet : net.Continues net') : Charted net' frame nodes low high handle := by
  refine ⟨h.names, fun n hn => ?_, h.named, h.onto, h.injective⟩
  obtain ⟨id, node, hid, hlow, hhigh, hsupported, hnode, hdescribes⟩ := h.described n hn
  exact ⟨id, node, hid, hlow, hhigh, hsupported, Network.node?_of_nodes hnet.nodes hnode,
    hdescribes.mono hnet (hnet.graphs node (Network.mem_nodes_of_node? hnode)) fun _ _ hid => hid⟩

theorem Charted.handle_bounds {net : Network} {frame : Frame} {nodes : List Node} {low high : Nat}
    {handle : Text → Option NodeId} (h : Charted net frame nodes low high handle) (name : Text)
    (id : NodeId) (hid : handle name = some id) : low < id ∧ id ≤ high := by
  obtain ⟨n, hn, rfl⟩ := h.named name id hid
  obtain ⟨id', _, hid', hlow, hhigh, _⟩ := h.described n hn
  obtain rfl := Option.some.inj (hid.symm.trans hid')
  exact ⟨hlow, hhigh⟩

/-- After a scope has been entered without a report, it is complete and its nodes are charted. -/
theorem Scope.Visits.charted {s : Scope} {low : Nat} {st st' : Loading} {ids : List NodeId}
    (h : s.Visits st s.nodes ids st') (hst : Stands s low st)
    (hnames : (s.nodes.map (·.name)).Nodup) :
    Stands s low st' ∧ Advances st st' ∧ Complete s st' ∧
      Charted st'.network s.frame s.nodes low st'.network.nodes.length st'.handle := by
  obtain ⟨hst', hadvance, hids⟩ := h.stands hst
  have hbuilt : ∀ n ∈ s.nodes, ∃ id, st'.handle n.name = some id := by
    intro n hn
    obtain ⟨id, _, hid⟩ := exists_of_forall₂ hids hn
    exact ⟨id, hid⟩
  have hnamed : ∀ name id, st'.handle name = some id → s.Declares name := by
    intro name id hid
    obtain ⟨_, n, hn, hname, _⟩ := hst'.described name id hid
    exact ⟨n, hn, hname⟩
  refine ⟨hst', hadvance, ⟨hst'.clear, hbuilt, hnamed⟩, hnames, fun n hn => ?_, hnamed, hst'.onto,
    hst'.injective⟩
  obtain ⟨id, hid⟩ := hbuilt n hn
  obtain ⟨hlow, m, hm, hname, hsupported, node, hnode, hdescribes⟩ := hst'.described _ id hid
  -- Names are different, so the node that was built under the name is this one.
  obtain rfl : m = n := List.inj_on_of_nodup_map hnames hm hn hname
  exact ⟨id, node, hid, hlow, hst'.handle_le hid, hsupported, hnode, hdescribes⟩

end Blueprint
end ShaderGraph
