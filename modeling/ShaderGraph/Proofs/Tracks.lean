import ShaderGraph.Proofs.Denotes

/-!
# Networks with their nodes in another order

A list of handles says which node of one network each node of another one stands for. Values move from
the one to the other: sources that are nodes change their handles and all others stay. The list grows
at its end while nodes are added, and what has moved stays where it is.
-/
namespace ShaderGraph

def Places (order : List NodeId) : NodeId → NodeId → Prop
  | 0, _ => False
  | k + 1, id => order[k]? = some id

namespace Places

variable {order order' : List NodeId} {id id' other : NodeId}

theorem unique (h : Places order id' id) (ho : Places order id' other) : id = other := by
  cases id' with
  | zero => exact h.elim
  | succ k => exact Option.some.inj (h.symm.trans ho)

theorem injective (hnodup : order.Nodup) (h : Places order id' id) (ho : Places order other id) :
    id' = other := by
  cases id' with
  | zero => exact h.elim
  | succ k =>
    cases other with
    | zero => exact ho.elim
    | succ l =>
      obtain ⟨hk, hid⟩ := List.getElem?_eq_some_iff.mp h
      obtain ⟨hl, hid'⟩ := List.getElem?_eq_some_iff.mp ho
      rw [(List.Nodup.getElem_inj_iff hnodup).mp (hid.trans hid'.symm)]

theorem mono (h : Places order id' id) (ho : order <+: order') : Places order' id' id := by
  cases id' with
  | zero => exact h.elim
  | succ k =>
    obtain ⟨later, rfl⟩ := ho
    have hk := (List.getElem?_eq_some_iff.mp h).1
    exact (List.getElem?_append_left hk).trans h

theorem mem (h : Places order id' id) : id ∈ order := by
  cases id' with
  | zero => exact h.elim
  | succ k => exact List.mem_of_getElem? h

theorem pos {id' : Nat} (h : Places order id' id) : 0 < id' := by
  cases id' with
  | zero => exact h.elim
  | succ k => exact Nat.succ_pos k

theorem le {id' : Nat} (h : Places order id' id) : id' ≤ order.length := by
  cases id' with
  | zero => exact h.elim
  | succ k => exact (List.getElem?_eq_some_iff.mp h).1

theorem exists_of_le {id' : Nat} (hpos : 0 < id') (hle : id' ≤ order.length) :
    ∃ id, Places order id' id := by
  cases id' with
  | zero => cases hpos
  | succ k => exact ⟨order[k], List.getElem?_eq_getElem hle⟩

theorem last (order : List NodeId) (id : NodeId) :
    Places (order ++ [id]) (order.length + 1) id := List.getElem?_concat_length

theorem exists_of_mem (h : id ∈ order) : ∃ id', Places order id' id := by
  obtain ⟨k, hk⟩ := List.mem_iff_getElem?.mp h
  exact ⟨k + 1, hk⟩

end Places

/-! ## Values, nodes and graphs -/

def Source.Moves (order : List NodeId) (s' s : Source) : Prop :=
  match s' with
  | .node id' slot => ∃ id, Places order id' id ∧ s = .node id slot
  | _ => s = s'

structure Value.Moves (order : List NodeId) (v' v : Value) : Prop where
  type : v.type = v'.type
  source : v'.source.Moves order v.source

structure Input.Moves (order : List NodeId) (i' i : Input) : Prop where
  name : i.name = i'.name
  type : i.type = i'.type
  value : i'.value.Moves order i.value

structure Node.Moves (order : List NodeId) (n' n : Node) : Prop where
  type : n.type = n'.type
  graph : n.graph = n'.graph
  inputs : List.Forall₂ (Input.Moves order) n'.inputs n.inputs
  outputs : n.outputs = n'.outputs

structure GraphOutput.Moves (order : List NodeId) (o' o : GraphOutput) : Prop where
  name : o.name = o'.name
  value : o'.value.Moves order o.value

structure NodeGraph.Moves (order : List NodeId) (g' g : NodeGraph) : Prop where
  name : g.name = g'.name
  inputs : g.inputs = g'.inputs
  outputs : List.Forall₂ (GraphOutput.Moves order) g'.outputs g.outputs

variable {order order' : List NodeId}

theorem Value.Moves.mono {v' v : Value} (h : v'.Moves order v) (ho : order <+: order') :
    v'.Moves order' v := by
  refine ⟨h.type, ?_⟩
  have hs := h.source
  unfold Source.Moves at hs ⊢
  split at hs
  · obtain ⟨id, hid, hs⟩ := hs
    exact ⟨id, hid.mono ho, hs⟩
  · exact hs

theorem Value.Moves.of_source {v' : Value} (h : v'.node? = none) : v'.Moves order v' := by
  obtain ⟨type, source⟩ := v'
  refine ⟨rfl, ?_⟩
  cases source with
  | node id slot => simp [Value.node?] at h
  | _ => rfl

theorem Value.Moves.cases {v' v : Value} (h : v'.Moves order v) : v = v' ∨
    ∃ type id' id slot, v' = ⟨type, .node id' slot⟩ ∧ v = ⟨type, .node id slot⟩ ∧
      Places order id' id := by
  obtain ⟨type', source'⟩ := v'
  obtain ⟨type, source⟩ := v
  obtain rfl : type = type' := h.type
  have hs := h.source
  cases source' with
  | node id' slot =>
    obtain ⟨id, hid, rfl⟩ := hs
    exact Or.inr ⟨type, id', id, slot, rfl, rfl, hid⟩
  | _ =>
    obtain rfl : source = _ := hs
    exact Or.inl rfl

theorem Value.Moves.isAbsent {v' v : Value} (h : v'.Moves order v) :
    v.isAbsent = v'.isAbsent := by
  rcases h.cases with rfl | ⟨_, _, _, _, rfl, rfl, _⟩ <;> rfl

theorem Value.Moves.faultMessage {v' v : Value} (h : v'.Moves order v) :
    v.faultMessage = v'.faultMessage := by
  rcases h.cases with rfl | ⟨_, _, _, _, rfl, rfl, _⟩ <;> rfl

theorem Value.Moves.isSome_node? {v' v : Value} (h : v'.Moves order v) :
    v.node?.isSome = v'.node?.isSome := by
  rcases h.cases with rfl | ⟨_, _, _, _, rfl, rfl, _⟩ <;> rfl

/-- Connecting looks at types and at messages of faults, never at handles. -/
theorem Value.Moves.connect {v' v : Value} (h : v'.Moves order v) (node name : Text)
    (type : TypeTag) :
    (Network.connect node ⟨name, type, v'⟩).Moves order (Network.connect node ⟨name, type, v⟩) := by
  simp only [Network.connect, h.isAbsent, h.type, h.faultMessage]
  split
  · exact h
  · exact .of_source rfl

theorem Node.Moves.mono {n' n : Node} (h : n'.Moves order n) (ho : order <+: order') :
    n'.Moves order' n :=
  ⟨h.type, h.graph, h.inputs.imp fun _ _ hi => ⟨hi.name, hi.type, hi.value.mono ho⟩, h.outputs⟩

theorem NodeGraph.Moves.mono {g' g : NodeGraph} (h : g'.Moves order g) (ho : order <+: order') :
    g'.Moves order' g :=
  ⟨h.name, h.inputs, h.outputs.imp fun _ _ hout => ⟨hout.name, hout.value.mono ho⟩⟩

theorem NodeGraph.Moves.outputNames {g' g : NodeGraph} (h : g'.Moves order g) :
    g'.outputs.map (·.name) = g.outputs.map (·.name) :=
  Blueprint.map_eq_of_forall₂ (h.outputs.imp fun _ _ hout => hout.name.symm)

theorem NodeGraph.Moves.exists_output? {g' g : NodeGraph} (h : g'.Moves order g) {slot : Text}
    {o : GraphOutput} (ho : g.output? slot = some o) :
    ∃ o', g'.output? slot = some o' ∧ o'.value.Moves order o.value := by
  unfold NodeGraph.output? at ho ⊢
  have hall := h.outputs
  generalize g'.outputs = outs' at hall ⊢
  generalize g.outputs = outs at hall ho
  induction hall with
  | nil => cases ho
  | @cons x y _ _ hxy _ ih =>
    by_cases hname : y.name = slot
    · have hname' : x.name = slot := hxy.name.symm.trans hname
      rw [List.find?_cons_of_pos (by simpa using hname)] at ho
      obtain rfl := Option.some.inj ho
      exact ⟨x, List.find?_cons_of_pos (by simpa using hname'), hxy.value⟩
    · have hname' : ¬ x.name = slot := fun h => hname (hxy.name.trans h)
      rw [List.find?_cons_of_neg (by simpa using hname)] at ho
      obtain ⟨o', ho', hmoves⟩ := ih ho
      exact ⟨o', (List.find?_cons_of_neg (by simpa using hname')).trans ho', hmoves⟩

/-! ## Networks -/

theorem Network.output_eq_ok {net : Network} {id : NodeId} {slot : Text} {v : Value} :
    net.output id slot = .ok v ↔ ∃ n, net.node? id = some n ∧ ∃ type, v = ⟨type, .node id slot⟩ ∧
      if n.isReference then
        ∃ g o, net.graph? n.graph = some g ∧ g.output? slot = some o ∧ o.value.type = type
      else ∃ o, n.output? slot = some o ∧ o.type = type := by
  have hout : net.output id slot = .ok v ↔
      ∃ type, net.outputType id slot = .ok type ∧ ⟨type, .node id slot⟩ = v := by
    rw [Network.output, Outcome.bind_eq_ok]
    simp only [Outcome.pure_eq_ok]
  rw [hout]
  simp only [outputType_eq_ok]
  constructor
  · rintro ⟨type, ⟨n, hn, hcases⟩, rfl⟩
    exact ⟨n, hn, type, rfl, hcases⟩
  · rintro ⟨n, hn, type, rfl, hcases⟩
    exact ⟨type, ⟨n, hn, hcases⟩, rfl⟩

/-- The nodes of the second network and its first `done` graphs stand for some of the first one. Its
nodes instantiate only such graphs. -/
structure Tracks (net : Network) (done : Nat) (net' : Network) (order : List NodeId) : Prop where
  length : order.length = net'.nodes.length
  nodup : order.Nodup
  nodes : ∀ id' n', net'.node? id' = some n' →
    ∃ id n, Places order id' id ∧ net.node? id = some n ∧ n'.Moves order n
  done_le : done ≤ net'.graphs.length
  graphs : ∀ k, k ≤ done → ∀ g', net'.graph? k = some g' →
    ∃ g, net.graph? k = some g ∧ g'.Moves order g
  known : ∀ n' ∈ net'.nodes, n'.graph ≤ done

namespace Tracks

variable {net net' : Network} {done : Nat}

theorem node (h : Tracks net done net' order) {id' id : NodeId} (hid : Places order id' id) :
    ∃ n' n, net'.node? id' = some n' ∧ net.node? id = some n ∧ n'.Moves order n := by
  obtain ⟨n', hn'⟩ : ∃ n', net'.node? id' = some n' := by
    cases id' with
    | zero => exact hid.elim
    | succ k =>
      have hk : k < net'.nodes.length := h.length ▸ hid.le
      exact ⟨net'.nodes[k], List.getElem?_eq_getElem hk⟩
  obtain ⟨id₀, n, hid₀, hn, hmoves⟩ := h.nodes id' n' hn'
  obtain rfl := hid.unique hid₀
  exact ⟨n', n, hn', hn, hmoves⟩

theorem graph (h : Tracks net done net' order) {k : Nat} (hpos : 0 < k) (hle : k ≤ done) :
    ∃ g' g, net'.graph? k = some g' ∧ net.graph? k = some g ∧ g'.Moves order g := by
  obtain ⟨g', hg'⟩ : ∃ g', net'.graph? k = some g' := by
    cases k with
    | zero => cases hpos
    | succ l =>
      have hl : l < net'.graphs.length := Nat.lt_of_lt_of_le hle h.done_le
      exact ⟨net'.graphs[l], List.getElem?_eq_getElem hl⟩
  obtain ⟨g, hg, hmoves⟩ := h.graphs k hle g' hg'
  exact ⟨g', g, hg', hg, hmoves⟩

theorem instance_graph (h : Tracks net done net' order) {id' : NodeId} {n' n : Node}
    (hn' : net'.node? id' = some n') (hmoves : n'.Moves order n) (href : n'.isReference = true)
    {g : NodeGraph} (hg : net.graph? n.graph = some g) :
    ∃ g', net'.graph? n'.graph = some g' ∧ g'.Moves order g := by
  have hpos : 0 < n'.graph := Nat.pos_of_ne_zero (by simpa [Node.isReference] using href)
  obtain ⟨g', g₀, hg', hg₀, hgm⟩ := h.graph hpos (h.known n' (Network.mem_nodes_of_node? hn'))
  rw [hmoves.graph, hg₀] at hg
  obtain rfl := Option.some.inj hg
  exact ⟨g', hg', hgm⟩

theorem shows (h : Tracks net done net' order) {id' id : NodeId} (hid : Places order id' id)
    {names : List Text} (hshows : Blueprint.Shows net id names) :
    Blueprint.Shows net' id' names := by
  obtain ⟨n', n, hn', hn, hmoves⟩ := h.node hid
  obtain ⟨m, hm, hnames⟩ := hshows
  obtain rfl := Option.some.inj (hm.symm.trans hn)
  have href : m.isReference = n'.isReference := by simp [Node.isReference, hmoves.graph]
  refine ⟨n', hn', ?_⟩
  rw [href] at hnames
  split at hnames
  · rename_i href'
    obtain ⟨g, hg, hnames⟩ := hnames
    obtain ⟨g', hg', hgm⟩ := h.instance_graph hn' hmoves href' hg
    rw [if_pos href']
    exact ⟨g', hg', hnames.trans hgm.outputNames.symm⟩
  · rename_i href'
    rw [if_neg href', ← hmoves.outputs]
    exact hnames

theorem output (h : Tracks net done net' order) {id' id : NodeId} (hid : Places order id' id)
    {slot : Text} {v : Value} (hv : net.output id slot = .ok v) :
    ∃ v', net'.output id' slot = .ok v' ∧ v'.Moves order v := by
  obtain ⟨n', n, hn', hn, hmoves⟩ := h.node hid
  obtain ⟨m, hm, type, rfl, hcases⟩ := Network.output_eq_ok.mp hv
  obtain rfl := Option.some.inj (hm.symm.trans hn)
  have href : m.isReference = n'.isReference := by simp [Node.isReference, hmoves.graph]
  refine ⟨⟨type, .node id' slot⟩, Network.output_eq_ok.mpr ⟨n', hn', type, rfl, ?_⟩, rfl, id, hid,
    rfl⟩
  rw [href] at hcases
  split at hcases
  · rename_i href'
    obtain ⟨g, o, hg, ho, rfl⟩ := hcases
    obtain ⟨g', hg', hgm⟩ := h.instance_graph hn' hmoves href' hg
    obtain ⟨o', ho', hvalue⟩ := hgm.exists_output? ho
    rw [if_pos href']
    exact ⟨g', o', hg', ho', hvalue.type.symm⟩
  · rename_i href'
    obtain ⟨o, ho, rfl⟩ := hcases
    rw [if_neg href']
    refine ⟨o, ?_, rfl⟩
    rw [Node.output?, ← hmoves.outputs]
    exact ho

theorem picks (h : Tracks net done net' order) {id' id : NodeId} (hid : Places order id' id)
    {output? : Option Text} {v : Value} (hpicks : Blueprint.Picks net id output? v) :
    ∃ v', Blueprint.Picks net' id' output? v' ∧ v'.Moves order v := by
  obtain ⟨output, hname, hv⟩ := hpicks
  obtain ⟨v', hv', hmoves⟩ := h.output hid hv
  exact ⟨v', ⟨output, hname.imp_right fun ⟨hnone, hs⟩ => ⟨hnone, h.shows hid hs⟩, hv'⟩, hmoves⟩

theorem setGraph (h : Tracks net done net' order)
    (hlast : net'.graphs.length = done + 1) {g₀ g g' : NodeGraph}
    (hg₀ : net'.graph? (done + 1) = some g₀) (hg : net.graph? (done + 1) = some g)
    (hmoves : g'.Moves order g) : Tracks net (done + 1) (net'.setGraph (done + 1) g') order := by
  refine ⟨h.length, h.nodup, h.nodes, ?_, fun k hk g₁ hg₁ => ?_,
    fun n hn => Nat.le_succ_of_le (h.known n hn)⟩
  · simp [Network.setGraph, hlast]
  · by_cases hself : k = done + 1
    · subst hself
      rw [Network.graph?_setGraph_self _ hg₀] at hg₁
      obtain rfl := Option.some.inj hg₁
      exact ⟨g, hg, hmoves⟩
    · rw [Network.graph?_setGraph_of_ne _ hg₀ hself] at hg₁
      exact h.graphs k (Nat.le_of_lt_succ (Nat.lt_of_le_of_ne hk hself)) g₁ hg₁

end Tracks

end ShaderGraph
