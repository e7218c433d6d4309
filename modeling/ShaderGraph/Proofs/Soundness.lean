import ShaderGraph.Proofs.Calls
import ShaderGraph.Proofs.Paths
import Mathlib.Data.List.Nodup

/-!
# Sound networks

What is true of every network that a session leaves behind: handles count up, names are distinct
where they have to be, an input holds a value of its own type, and whatever an input refers to was
there before it. Each kind of addition keeps it, on its own grounds: a new node by what was checked
of it, a graph that gets longer because nothing that was there is touched.
-/
namespace ShaderGraph.Network

structure Sound (net : Network) : Prop where
  nodeId : ∀ k n, net.nodes[k]? = some n → n.id = k + 1
  graphId : ∀ k g, net.graphs[k]? = some g → g.id = k + 1
  graphNamed : ∀ g ∈ net.graphs, g.name ≠ []
  graphNames : (net.graphs.map (·.name)).Nodup
  inputNames : ∀ g ∈ net.graphs, (g.inputs.map (·.name)).Nodup
  outputNames : ∀ g ∈ net.graphs, (g.outputs.map (·.name)).Nodup
  inputTypes : ∀ g ∈ net.graphs, ∀ i ∈ g.inputs, i.type.isValid = true
  outputValues : ∀ g ∈ net.graphs, ∀ o ∈ g.outputs, o.value.isAbsent = false
  wired : ∀ n ∈ net.nodes, ∀ i ∈ n.inputs, net.Wired i
  earlier : ∀ n ∈ net.nodes, ∀ id ∈ n.sources, id < n.id
  slotTypes : ∀ n ∈ net.nodes, ∀ o ∈ n.outputs, o.type.isValid = true
  reference : ∀ n ∈ net.nodes, n.isReference = true → n.outputs = [] ∧
    ∃ g, net.graph? n.graph = some g ∧ ∀ i ∈ n.inputs, i.name ∈ g.inputs.map (·.name)

variable {net net' : Network}

theorem nodup_names_concat {α : Type} {name : α → Text} {xs : List α} {x : α}
    (hxs : (xs.map name).Nodup) (hx : name x ∉ xs.map name) : ((xs ++ [x]).map name).Nodup := by
  rw [List.map_append, List.nodup_append]
  refine ⟨hxs, by simp, fun a ha b hb hab => hx ?_⟩
  rw [hab, List.mem_singleton.mp hb] at ha
  exact ha

theorem forall_mem_concat {α : Type} {P : α → Prop} {xs : List α} {x : α} (hxs : ∀ a ∈ xs, P a)
    (hx : P x) : ∀ a ∈ xs ++ [x], P a := by
  intro a ha
  rcases List.mem_append.mp ha with ha | ha
  · exact hxs a ha
  · rw [List.mem_singleton.mp ha]
    exact hx

theorem forall_getElem?_concat {α : Type} {P : Nat → α → Prop} {xs : List α} {x : α}
    (hxs : ∀ k a, xs[k]? = some a → P k a) (hx : P xs.length x) :
    ∀ k a, (xs ++ [x])[k]? = some a → P k a := by
  intro k a hk
  rcases Nat.lt_trichotomy k xs.length with hlt | rfl | hgt
  · rw [List.getElem?_append_left hlt] at hk
    exact hxs k a hk
  · rw [List.getElem?_concat_length] at hk
    rw [← Option.some.inj hk]
    exact hx
  · rw [List.getElem?_eq_none (by simpa using Nat.succ_le_of_lt hgt)] at hk
    simp at hk

theorem Wired.grows {i : Input} (h : net.Wired i) (hg : net.Grows net') : net'.Wired i :=
  ⟨h.type, h.value, hg.resolves h.resolves⟩

theorem lt_of_hasOutput {id : NodeId} {slot : Text} (h : net.HasOutput id slot) :
    id < net.nodes.length + 1 := by
  obtain ⟨n, hn, _⟩ := h
  cases id with
  | zero => exact Nat.succ_pos _
  | succ k => exact Nat.succ_lt_succ (List.getElem?_eq_some_iff.mp hn).1

theorem Admits.earlier {n : Node} (h : net.Admits n) : ∀ id ∈ n.sources, id < n.id := by
  intro id hid
  obtain ⟨i, hi, slot, hs⟩ := Node.mem_sources.mp hid
  have hr := (h.inputs i hi).resolves
  rw [Resolves, hs] at hr
  rw [h.id]
  exact lt_of_hasOutput hr

theorem Sound.empty : Sound .empty := by
  constructor <;> simp [Network.empty]

theorem Sound.wired_grows (hs : net.Sound) (hg : net.Grows net') (hn : net'.nodes = net.nodes) :
    (∀ n ∈ net'.nodes, ∀ i ∈ n.inputs, net'.Wired i) ∧
      ∀ n ∈ net'.nodes, n.isReference = true → n.outputs = [] ∧
        ∃ g, net'.graph? n.graph = some g ∧ ∀ i ∈ n.inputs, i.name ∈ g.inputs.map (·.name) := by
  rw [hn]
  -- Both parts look only at handles and at names that graphs declare, and these survive growth.
  refine ⟨fun n hm i hi => (hs.wired n hm i hi).grows hg, fun n hm hr => ?_⟩
  obtain ⟨ho, g, hgn, hin⟩ := hs.reference n hm hr
  obtain ⟨g', hg', _, _, hpre, _⟩ := hg.graphs _ g hgn
  exact ⟨ho, g', hg', fun i hi => (hpre.map _).subset (hin i hi)⟩

theorem Sound.node (hs : net.Sound) {n : Node} (hn : net.Admits n) :
    Sound { net with nodes := net.nodes ++ [n] } := by
  have hg : net.Grows { net with nodes := net.nodes ++ [n] } := .of_node n
  have hwired : ∀ m ∈ net.nodes ++ [n], ∀ i ∈ m.inputs, net.Wired i :=
    forall_mem_concat hs.wired hn.inputs
  exact
    { hs with
      nodeId := forall_getElem?_concat hs.nodeId hn.id
      wired := fun m hm i hi => (hwired m hm i hi).grows hg
      earlier := forall_mem_concat hs.earlier hn.earlier
      slotTypes := forall_mem_concat hs.slotTypes hn.outputs
      reference := forall_mem_concat hs.reference hn.reference }

theorem Sound.graph (hs : net.Sound) {name : Text} (hname : name ≠ [])
    (hfresh : name ∉ net.graphs.map (·.name)) :
    Sound { net with graphs := net.graphs ++ [⟨net.graphs.length + 1, name, [], []⟩] } := by
  have hg : net.Grows
      { net with graphs := net.graphs ++ [⟨net.graphs.length + 1, name, [], []⟩] } :=
    (Extends.graph hname hfresh : Extends [] net _).grows
  obtain ⟨hw, hr⟩ := hs.wired_grows hg rfl
  exact
    { hs with
      graphId := forall_getElem?_concat hs.graphId rfl
      graphNamed := forall_mem_concat hs.graphNamed hname
      graphNames := nodup_names_concat hs.graphNames hfresh
      inputNames := forall_mem_concat hs.inputNames List.nodup_nil
      outputNames := forall_mem_concat hs.outputNames List.nodup_nil
      inputTypes := forall_mem_concat hs.inputTypes (by simp)
      outputValues := forall_mem_concat hs.outputValues (by simp)
      wired := hw
      reference := hr }

theorem Sound.setGraph (hs : net.Sound) {id : GraphId} {g₀ g : NodeGraph}
    (h₀ : net.graph? id = some g₀) (hg : net.Grows (net.setGraph id g)) (hid : g.id = g₀.id)
    (hname : g.name = g₀.name) (hin : (g.inputs.map (·.name)).Nodup)
    (hout : (g.outputs.map (·.name)).Nodup) (htype : ∀ i ∈ g.inputs, i.type.isValid = true)
    (hval : ∀ o ∈ g.outputs, o.value.isAbsent = false) : Sound (net.setGraph id g) := by
  obtain ⟨hw, hr⟩ := hs.wired_grows hg rfl
  obtain ⟨k, rfl⟩ : ∃ k, id = k + 1 := by
    cases id with
    | zero => simp [graph?] at h₀
    | succ k => exact ⟨k, rfl⟩
  obtain ⟨hk, hk₀⟩ := List.getElem?_eq_some_iff.mp h₀
  have hall : ∀ P : NodeGraph → Prop, (∀ g' ∈ net.graphs, P g') → P g →
      ∀ g' ∈ net.graphs.set k g, P g' := by
    intro P hold hnew g' hm
    rcases List.mem_or_eq_of_mem_set hm with hm | rfl
    · exact hold g' hm
    · exact hnew
  -- The name is unchanged, so the names of all graphs are still distinct.
  have hmap : (net.graphs.set k g).map (·.name) = net.graphs.map (·.name) := by
    have hlen : k < (net.graphs.map (·.name)).length := by simpa using hk
    have hget : (net.graphs.map (·.name))[k] = g.name := by rw [List.getElem_map, hk₀, hname]
    rw [List.map_set, ← hget, List.set_getElem_self]
  refine
    { hs with
      graphId := ?_
      graphNamed := hall _ hs.graphNamed ?_
      graphNames := by rw [Network.setGraph, Nat.add_sub_cancel, hmap]; exact hs.graphNames
      inputNames := hall _ hs.inputNames hin
      outputNames := hall _ hs.outputNames hout
      inputTypes := hall _ hs.inputTypes htype
      outputValues := hall _ hs.outputValues hval
      wired := hw
      reference := hr }
  · intro l g' hl
    by_cases he : k = l
    · subst he
      have hs' : (net.graphs.set k g)[k]? = some g := by simp [hk]
      rw [Network.setGraph, Nat.add_sub_cancel, hs'] at hl
      rw [← Option.some.inj hl, hid]
      exact hs.graphId k g₀ h₀
    · rw [Network.setGraph, Nat.add_sub_cancel, List.getElem?_set_ne he] at hl
      exact hs.graphId l g' hl
  · rw [hname, ← hk₀]
    exact hs.graphNamed _ (List.getElem_mem hk)

theorem Sound.step (hs : net.Sound) {given : List Value} (h : Extends given net net') :
    net'.Sound := by
  have hg := h.grows
  cases h with
  | node hn _ => exact hs.node hn
  | graph hname hfresh => exact hs.graph hname hfresh
  | @input id g i h₀ ht hfresh =>
    have hm := mem_graphs_of_graph? h₀
    exact hs.setGraph h₀ hg rfl rfl (nodup_names_concat (hs.inputNames g hm) hfresh)
      (hs.outputNames g hm) (forall_mem_concat (hs.inputTypes g hm) ht) (hs.outputValues g hm)
  | @output id g name v h₀ _ ha hfresh =>
    have hm := mem_graphs_of_graph? h₀
    exact hs.setGraph h₀ hg rfl rfl (hs.inputNames g hm)
      (nodup_names_concat (hs.outputNames g hm) hfresh) (hs.inputTypes g hm)
      (forall_mem_concat (hs.outputValues g hm) ha)

theorem Sound.apply (hs : net.Sound) (c : Call) : (c.apply net).Sound := by
  rcases c.build_adds net with he | he
  · rwa [Call.apply, he]
  · exact hs.step he

theorem sound_after (calls : List Call) : (after calls).Sound :=
  after_induction Sound.empty (fun _ _ _ h hs => hs.step h) calls

theorem Sound.id_of_node? (hs : net.Sound) {id : NodeId} {n : Node} (h : net.node? id = some n) :
    n.id = id := by
  cases id with
  | zero => simp [node?] at h
  | succ k => exact hs.nodeId k n h

theorem Sound.id_of_graph? (hs : net.Sound) {id : GraphId} {g : NodeGraph}
    (h : net.graph? id = some g) : g.id = id := by
  cases id with
  | zero => simp [graph?] at h
  | succ k => exact hs.graphId k g h

theorem Sound.eq_of_name (hs : net.Sound) {k l : GraphId} {g g' : NodeGraph}
    (hg : net.graph? k = some g) (hg' : net.graph? l = some g') (hname : g.name = g'.name) :
    k = l := by
  have he : g = g' := List.inj_on_of_nodup_map hs.graphNames (mem_graphs_of_graph? hg)
    (mem_graphs_of_graph? hg') hname
  rw [← hs.id_of_graph? hg, ← hs.id_of_graph? hg', he]

theorem Sound.lt_of_reads (hs : net.Sound) {a b : NodeId} (h : net.Reads a b) : b < a := by
  obtain ⟨n, hn, hb⟩ := h
  rw [← hs.id_of_node? hn]
  exact hs.earlier n (mem_nodes_of_node? hn) b hb

theorem Sound.lt_of_transGen (hs : net.Sound) {a b : NodeId}
    (h : Relation.TransGen net.Reads a b) : b < a := by
  induction h with
  | single h => exact hs.lt_of_reads h
  | tail _ h ih => exact lt_trans (hs.lt_of_reads h) ih

/-- After any session, misused calls included, the network is sound, and no node depends on itself.
Handles count without bound here; a network of fewer than `2 ^ 32` nodes and graphs has only handles
that 32 bits can hold. -/
theorem session_sound_acyclic (calls : List Call) : (after calls).Sound ∧
    ∀ id, ¬ Relation.TransGen (after calls).Reads id id := by
  have hs := sound_after calls
  exact ⟨hs, fun id h => lt_irrefl id (hs.lt_of_transGen h)⟩

end ShaderGraph.Network
