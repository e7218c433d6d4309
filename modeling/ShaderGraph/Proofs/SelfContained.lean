import ShaderGraph.Proofs.Charts
import ShaderGraph.Proofs.Closed

/-!
# Documents of files

A file keeps its scopes apart: nodes refer to nodes of their own scope, parameters are read at the top
level only, and an input of a graph only inside that graph. So what is compiled from a file is
self-contained. Each connection in a material or graph leads to something that the same material or
graph declares, and every graph that is instantiated is defined.
-/
namespace ShaderGraph

namespace Stage

/-- Every connection leads to something that its own entity declares, and instances refer to graphs of
the document. -/
structure Document.SelfContained (d : Document) : Prop where
  outputs : ∀ e ∈ d.entities, ∀ entity id slot, Connects e.declarations (.output entity id slot) →
    entity = e.name ∧ ∃ b ∈ e.nodes, b.id = id ∧ (Declares b.slots .outputs slot ∨
      ∃ g ∈ d.graphs, b.kind = .instanceOf g.name ∧ Declares g.slots .outputs slot)
  inputs : ∀ e ∈ d.entities, ∀ entity slot, Connects e.declarations (.input entity slot) →
    entity = e.name ∧ Declares e.slots .inputs slot
  references : d.ReferencesResolve

theorem Document.SelfContained.closed {d : Document} (h : d.SelfContained) : d.Closed := by
  refine ⟨fun e he entity id slot hc => ?_, fun e he entity slot hc => ?_, h.references⟩
  · obtain ⟨rfl, b, hb, rfl, hslot⟩ := h.outputs e he entity id slot hc
    rcases hslot with hslot | ⟨g, hg, hkind, hslot⟩
    · exact .own he hb hslot
    · exact .shown he hb hg hkind hslot
  · obtain ⟨rfl, hslot⟩ := h.inputs e he entity slot hc
    exact .input he hslot

structure Confined (net : Network) (mat : Material) : Prop where
  material : ∀ v k x, net.Occurs [mat.surface, mat.geometryModifier] v →
    v.source ≠ .graphInput k x
  parameters : ∀ k ∈ mat.nodeGraphs, ∀ g, net.graph? k = some g → ∀ v name c,
    net.Occurs g.outputValues v → v.source ≠ .parameter name c
  graphInputs : ∀ k ∈ mat.nodeGraphs, ∀ g, net.graph? k = some g → ∀ v j x,
    net.Occurs g.outputValues v → v.source = .graphInput j x → j = k ∧ x ∈ g.inputs.map (·.name)

variable {settings : Settings} {net : Network} {mat : Material} {d : Document}

theorem Accepted.selfContained (h : Accepted settings net mat d) (hc : Confined net mat) :
    d.SelfContained := by
  refine ⟨fun e he entity id slot hcon => h.block_of_connects he hcon, ?_, h.referencesResolve⟩
  intro e he entity slot hcon
  rcases List.mem_cons.mp he with rfl | he
  · rcases h.emits.driven.connects_input_iff.mp hcon with ⟨v, k, g, ho, hv, _⟩ | ⟨rfl, v, c, ho, hv⟩
    · exact absurd hv (hc.material v k slot ho)
    · exact ⟨rfl, h.declares_parameter ho hv⟩
  · obtain ⟨k, hk, hke⟩ := (h.emits.graphs e).mp he
    obtain ⟨g, _, hg, _⟩ := h.emits.listed k hk
    obtain ⟨hname, hin, _, hd⟩ := graphEntity_spec hg hke
    rcases hd.connects_input_iff.mp hcon with ⟨v, j, g', ho, hv, hg', rfl⟩ | ⟨_, v, c, ho, hv⟩
    · obtain ⟨rfl, hx⟩ := hc.graphInputs k hk g hg v j slot ho hv
      obtain rfl : g' = g := Option.some.inj (hg'.symm.trans hg)
      exact ⟨hname.symm, (hin slot).mpr hx⟩
    · exact absurd hv (hc.parameters k hk g hg v slot c ho)

end Stage

namespace Blueprint

open Config (Expr)

/-! ## Values of a scope -/

/-- What the nodes of a scope may read, where they have the handles after `low` up to `high`. -/
def Frame.Holds (frame : Frame) (low high : Nat) (v : Value) : Prop :=
  match v.source with
  | .absent | .constant _ | .fault _ => True
  | .node id _ => low < id ∧ id ≤ high
  | .parameter _ _ => frame.graph = none
  | .graphInput k x => ∃ inputs, frame.graph = some (k, inputs) ∧ x ∈ inputs.map (·.name)

variable {net : Network} {frame : Frame} {handle : Text → Option NodeId} {nodes : List Node}
  {low high : Nat} {e? : Option Expr} {type? : Option DataType} {space : Text} {v : Value}

theorem Picks.source {id : NodeId} {output? : Option Text} (h : Picks net id output? v) :
    ∃ slot, v.source = .node id slot := by
  obtain ⟨output, _, hv⟩ := h
  obtain ⟨t, _, he⟩ := Outcome.bind_eq_ok.mp hv
  rw [← Outcome.pure_eq_ok.mp he]
  exact ⟨output, rfl⟩

theorem Denotes.holds (h : Denotes net frame handle e? type? space v)
    (hhandle : ∀ name id, handle name = some id → low < id ∧ id ≤ high) :
    frame.Holds low high v := by
  cases h with
  | absent => trivial
  | constant _ _ => trivial
  | parameter _ hgraph _ => exact hgraph
  | graphInput _ hgraph hfind =>
    refine ⟨_, hgraph, List.mem_map.mpr ⟨_, List.mem_of_find?_eq_some hfind, ?_⟩⟩
    simpa using List.find?_some hfind
  | node _ hid hpicks =>
    obtain ⟨slot, hv⟩ := hpicks.source
    rw [Frame.Holds, hv]
    exact hhandle _ _ hid

theorem Frame.Holds.connect (h : frame.Holds low high v) (node name : Text) (type : TypeTag) :
    frame.Holds low high (Network.connect node ⟨name, type, v⟩) := by
  rcases Network.connect_cases node ⟨name, type, v⟩ with ⟨he, _⟩ | ⟨message, he⟩
  · rw [he]
    exact h
  · rw [he]
    trivial

namespace Charted

theorem inputs_hold (h : Charted net frame nodes low high handle) {id : Nat} (hlow : low < id)
    (hhigh : id ≤ high) {node : ShaderGraph.Node} (hnode : net.node? id = some node)
    {i : ShaderGraph.Input} (hi : i ∈ node.inputs) : frame.Holds low high i.value := by
  obtain ⟨name, hname⟩ := h.onto id hlow hhigh
  obtain ⟨n, hn, rfl⟩ := h.named name id hname
  obtain ⟨id', node', hid', _, _, _, hnode', hdescribes⟩ := h.described n hn
  obtain rfl := Option.some.inj (hname.symm.trans hid')
  obtain rfl := Option.some.inj (hnode.symm.trans hnode')
  have hbelow : ∀ name id', below handle id name = some id' → low < id' ∧ id' ≤ high :=
    fun name id' hid => h.handle_bounds name id' (below_eq_some.mp hid).1
  cases hdescribes with
  | shader _ _ _ _ _ hins _ _ _ =>
    obtain ⟨_, _, _, _, _, hv, rfl⟩ := exists_of_forall₂ hins.flip hi
    exact (hv.holds hbelow).connect _ _ _
  | copy _ _ _ _ _ _ _ _ hins _ =>
    obtain ⟨_, _, _, _, _, _, hv, rfl⟩ := exists_of_forall₂ hins.flip hi
    exact (hv.holds hbelow).connect _ _ _

/-- A walk that starts at values of the scope stays in the scope. -/
theorem occurs_holds (h : Charted net frame nodes low high handle) {values : List Value}
    (hvalues : ∀ v ∈ values, frame.Holds low high v) (hv : net.Occurs values v) :
    frame.Holds low high v := by
  have hnode : ∀ {w : Value} {id : NodeId} {slot : Text}, frame.Holds low high w →
      w.source = .node id slot → low < id ∧ id ≤ high := by
    intro w id slot hw hs
    rwa [Frame.Holds, hs] at hw
  rcases hv with hv | ⟨id, n, i, hid, hn, hi, rfl⟩
  · exact hvalues v hv
  · have hrange : low < id ∧ id ≤ high := by
      refine hid.induction (P := fun id => low < id ∧ id ≤ high) (fun r hr => ?_)
        fun a b ha hab => ?_
      · obtain ⟨w, hw, hr⟩ := List.mem_filterMap.mp hr
        obtain ⟨slot, hs⟩ := Value.node?_eq_some.mp hr
        exact hnode (hvalues w hw) hs
      · obtain ⟨m, hm, hb⟩ := hab
        obtain ⟨j, hj, slot, hs⟩ := Node.mem_sources.mp hb
        exact hnode (h.inputs_hold ha.1 ha.2 hm hj) hs
    exact h.inputs_hold hrange.1 hrange.2 hn hi

end Charted

/-! ## Graphs and materials of a file -/

theorem Graph.ChartedAll.exists_charted {bs : List Graph} {gs : List NodeGraph}
    (h : Graph.ChartedAll net bs gs low high) {g : NodeGraph} (hg : g ∈ gs) :
    ∃ b low high handle, Graph.Charted net b g low high handle := by
  induction h with
  | nil low => cases hg
  | cons hb _ _ ih =>
    rcases List.mem_cons.mp hg with rfl | hg
    · exact ⟨_, _, _, _, hb⟩
    · exact ih hg

theorem GraphOutput.Gives.denotes {o : GraphOutput} {out : ShaderGraph.GraphOutput}
    (h : o.Gives net frame handle out) :
    ∃ type?, Denotes net frame handle o.value type? [] out.value := by
  obtain ⟨_, _, ⟨_, hv⟩ | ⟨_, type, _, _, hv⟩⟩ := h
  · exact ⟨none, hv⟩
  · exact ⟨some type, hv⟩

theorem Graph.Charted.output_values {b : Graph} {g : NodeGraph}
    (h : b.Charted net g low high handle) (hg : net.graph? g.id = some g) :
    ∀ v ∈ g.outputValues, net.Resolves v ∧ Frame.Holds ⟨some (g.id, g.inputs), []⟩ low high v := by
  intro v hv
  obtain ⟨out, hout, rfl⟩ := List.mem_map.mp hv
  obtain ⟨o, _, hgives⟩ := exists_of_forall₂ h.outputs.flip hout
  obtain ⟨type?, hdenotes⟩ := GraphOutput.Gives.denotes hgives
  refine ⟨hdenotes.resolves fun k inputs hk => ?_, hdenotes.holds h.nodes.handle_bounds⟩
  obtain ⟨rfl, rfl⟩ := Prod.mk.inj (Option.some.inj hk)
  exact ⟨g, hg, rfl⟩

namespace Chart

variable {bp : Blueprint} {base : Text} {l : Loaded} {parameters : List (Text × Constant)}

theorem graph_charted (h : Chart bp base l parameters high handle) {k : GraphId} {g : NodeGraph}
    (hg : l.network.graph? k = some g) : g.id = k ∧ ∃ b low high handle,
      Graph.Charted l.network b g low high handle :=
  ⟨h.sound.id_of_graph? hg, h.graphs.exists_charted (Network.mem_graphs_of_graph? hg)⟩

theorem material_values (h : Chart bp base l parameters high handle) {mat : Stage.Material}
    (hmat : mat ∈ l.materials) : ∀ v ∈ [mat.surface, mat.geometryModifier],
      l.network.Resolves v ∧ Frame.Holds ⟨none, parameters⟩ high l.network.nodes.length v := by
  obtain ⟨m, _, hm⟩ := exists_of_forall₂ h.materials.flip hmat
  have hdrives : ∀ {e? : Option Expr} {v : Value},
      Drives l.network ⟨none, parameters⟩ handle e? v →
      l.network.Resolves v ∧ Frame.Holds ⟨none, parameters⟩ high l.network.nodes.length v :=
    fun hv => ⟨hv.1.resolves (by simp), hv.1.holds h.nodes.handle_bounds⟩
  intro v hv
  simp only [List.mem_cons, List.not_mem_nil, or_false] at hv
  rcases hv with rfl | rfl
  · exact hdrives (Material.Gives.surface hm)
  · exact hdrives (Material.Gives.geometryModifier hm)

theorem root_resolves (h : Chart bp base l parameters high handle) {mat : Stage.Material}
    (hmat : mat ∈ l.materials) : ∀ v ∈ Stage.rootValues l.network mat, l.network.Resolves v := by
  intro v hv
  rcases Stage.mem_rootValues.mp hv with rfl | rfl | ⟨k, _, g, hg, hv⟩
  · exact (h.material_values hmat _ (by simp)).1
  · exact (h.material_values hmat _ (by simp)).1
  · obtain ⟨rfl, b, low, high, handle, hb⟩ := h.graph_charted hg
    exact (hb.output_values hg v hv).1

theorem confined (h : Chart bp base l parameters high handle) {mat : Stage.Material}
    (hmat : mat ∈ l.materials) : Stage.Confined l.network mat := by
  have hgraph : ∀ {k : GraphId} {g : NodeGraph} {v : Value}, l.network.graph? k = some g →
      l.network.Occurs g.outputValues v →
      ∃ low high, Frame.Holds ⟨some (k, g.inputs), []⟩ low high v := by
    intro k g v hg hv
    obtain ⟨rfl, b, low, high, handle, hb⟩ := h.graph_charted hg
    exact ⟨low, high, hb.nodes.occurs_holds (fun w hw => (hb.output_values hg w hw).2) hv⟩
  refine ⟨fun v k x hv hs => ?_, fun k _ g hg v name c hv hs => ?_, fun k _ g hg v j x hv hs => ?_⟩
  · have hholds := h.nodes.occurs_holds (fun w hw => (h.material_values hmat w hw).2) hv
    rw [Frame.Holds, hs] at hholds
    simp at hholds
  · obtain ⟨low, high, hholds⟩ := hgraph hg hv
    rw [Frame.Holds, hs] at hholds
    cases hholds
  · obtain ⟨low, high, hholds⟩ := hgraph hg hv
    rw [Frame.Holds, hs] at hholds
    obtain ⟨inputs, he, hx⟩ := hholds
    obtain ⟨rfl, rfl⟩ := Prod.mk.inj (Option.some.inj he)
    exact ⟨rfl, hx⟩

theorem selfContained (h : Chart bp base l parameters high handle) {mat : Stage.Material}
    (hmat : mat ∈ l.materials) {settings : Stage.Settings} {c : Stage.Compiled}
    (hc : Stage.compile settings l.network mat = .ok c) : c.document.SelfContained :=
  (Stage.accepted_of_resolves h.sound (h.root_resolves hmat) hc).selfContained (h.confined hmat)

end Chart

section

variable {l : Loaded} {mat : Stage.Material} {settings : Stage.Settings} {c : Stage.Compiled}
  (hmat : mat ∈ l.materials) (hc : Stage.compile settings l.network mat = .ok c)

include hmat hc

/-- Documents of what a blueprint declares are self-contained, whatever the policy for parameters and
whichever graphs the material lists. -/
theorem documents_self_contained {bp : Blueprint} {base : Text} (h : load bp base = .ok l) :
    c.document.Closed ∧ c.document.SelfContained ∧ Stage.Confined l.network mat := by
  obtain ⟨parameters, high, handle, hchart⟩ := chart_of_load h
  have hself := hchart.selfContained hmat hc
  exact ⟨hself.closed, hself, hchart.confined hmat⟩

theorem selfContained_of_read {source filename : Text} (h : read source filename = .ok l) :
    c.document.SelfContained := by
  obtain ⟨_, bp, _, _, hload⟩ := read_eq_ok.mp h
  obtain ⟨parameters, high, handle, hchart⟩ := chart_of_load hload
  exact hchart.selfContained hmat hc

end

def splitSource : Text :=
"parameter \"p\" \x7b type = \"float\" \x7d
node_graph \"G\" \x7b
input \"x\" \x7b type = \"float\" \x7d
output \"y\" \x7b value = input.x \x7d
\x7d
node \"s\" \x7b
type = \"S\"
input \"a\" \x7b
type = \"float\"
value = node.g
\x7d
input \"b\" \x7b
type = \"float\"
value = param.p
\x7d
output \"o\" \x7b type = \"token\" \x7d
\x7d
node \"g\" \x7b graph = \"G\" \x7d
material \"M\" \x7b surface = node.s \x7d
"

theorem split_self_contained : ∃ l mat c, read splitSource "split.hcl" = .ok l ∧
    mat ∈ l.materials ∧ Stage.compile .standard l.network mat = .ok c ∧ c.document.Closed ∧
      c.document.SelfContained ∧ Stage.Confined l.network mat := by
  have hcompiles : ((read splitSource "split.hcl").toOption.any fun l => l.materials.any fun mat =>
      (Stage.compile .standard l.network mat).toOption.any fun _ => true) = true := by
    decide +kernel
  obtain ⟨l, hread, hany⟩ := Outcome.exists_of_any hcompiles
  obtain ⟨mat, hmat, hcompile⟩ := List.any_eq_true.mp hany
  obtain ⟨c, hc, _⟩ := Outcome.exists_of_any hcompile
  obtain ⟨_, bp, _, _, hload⟩ := read_eq_ok.mp hread
  exact ⟨l, mat, c, hread, hmat, hc, documents_self_contained hmat hc hload⟩

end Blueprint
end ShaderGraph
