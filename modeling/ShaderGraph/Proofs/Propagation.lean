import ShaderGraph.Surface
import ShaderGraph.Proofs.Continuation

/-!
# Faults are never masked

A value is faulty if it is a fault or leads to one. An operation that is given a faulty operand gives
a fault itself, or makes a node one of whose inputs is the operand or a fault in its place. So the
result is faulty again, and growth cannot mend it: whatever is built on a faulty value, with any calls
in between, has no document.
-/
namespace ShaderGraph

namespace Network

variable {net net' : Network} {v w : Value}

/-! ## Values that lead to faults -/

def Erroneous (net : Network) (v : Value) : Prop := ∃ ms, net.faults [v] = .ok ms ∧ ms ≠ []

def Faulty (net : Network) (v : Value) : Prop := ∃ w m, net.Occurs [v] w ∧ w.source = .fault m

theorem Erroneous.faulty (h : net.Erroneous v) : net.Faulty v := by
  obtain ⟨ms, hms, hne⟩ := h
  obtain ⟨m, hm⟩ := List.exists_mem_of_ne_nil ms hne
  obtain ⟨w, hw, hs⟩ := (mem_faults_iff hms).mp hm
  exact ⟨w, m, hw, hs⟩

theorem Sound.erroneous (hs : net.Sound) (hv : net.Resolves v) (h : net.Faulty v) :
    net.Erroneous v := by
  have hroot : ∀ u ∈ [v], Stage.handleValid net u = true :=
    List.forall_mem_singleton.mpr (Stage.handleValid_of_resolves hv)
  have hnodes : ∀ n ∈ net.nodes, ∀ i ∈ n.inputs, Stage.handleValid net i.value = true :=
    fun n hn i hi => Stage.handleValid_of_resolves (hs.wired n hn i hi).resolves
  obtain ⟨ms, hms, hmem⟩ := exists_faults fun _ hid => Stage.isSome_of_reachesFrom hroot hnodes hid
  obtain ⟨w, m, hw, hm⟩ := h
  exact ⟨ms, hms, List.ne_nil_of_mem ((hmem m).mpr ⟨w, hw, hm⟩)⟩

theorem Faulty.of_occurs (h : net.Faulty w) (hw : net.Occurs [v] w) : net.Faulty v := by
  obtain ⟨u, m, hu, hm⟩ := h
  exact ⟨u, m, hw.trans hu, hm⟩

theorem Faulty.present (h : net.Faulty v) : v.isAbsent ≠ true := by
  intro ha
  have hs := Value.isAbsent_iff.mp ha
  obtain ⟨w, m, hw | ⟨_, _, _, ⟨r, hr, _⟩, _⟩, hm⟩ := h
  · rw [List.mem_singleton.mp hw, hs] at hm
    cases hm
  · simp [Value.node?, hs] at hr

theorem Grows.faulty (h : net.Grows net') (hf : net.Faulty v) : net'.Faulty v := by
  obtain ⟨w, m, hw, hm⟩ := hf
  refine ⟨w, m, hw.imp_right ?_, hm⟩
  intro ⟨id, n, i, ⟨r, hr, hpath⟩, hn, hi, he⟩
  have hreads : ∀ a b, net.Reads a b → net'.Reads a b :=
    fun a b ⟨k, hk, hb⟩ => ⟨k, h.node? hk, hb⟩
  exact ⟨id, n, i, ⟨r, hr, hpath.lift _ hreads⟩, h.node? hn, hi, he⟩

theorem node?_new (n : Node) :
    ({ net with nodes := net.nodes ++ [n] } : Network).node? (net.nodes.length + 1) = some n := by
  simp [node?]

theorem hasOutput_new {n : Node} {slot : Text} (hr : n.isReference = false)
    (hs : slot ∈ n.outputs.map (·.name)) : HasOutput { net with nodes := net.nodes ++ [n] }
      (net.nodes.length + 1) slot := by
  refine ⟨n, node?_new n, ?_⟩
  rw [if_neg (by simp [hr])]
  exact hs

theorem addNode_faulty {type : Text} {inputs : List Input} {outputs : List Output} {graph : GraphId}
    {id : NodeId} (h : net.addNode type inputs outputs graph = .ok (id, net')) {i : Input}
    (hi : i ∈ inputs) (hf : net.Faulty i.value) (t : TypeTag) (slot : Text) :
    net'.Faulty ⟨t, .node id slot⟩ := by
  obtain ⟨_, wired, hw, _, he⟩ := addNode_eq_ok.mp h
  obtain ⟨hid, hnet⟩ := Prod.mk.inj he
  obtain ⟨j, hj⟩ := Outcome.exists_mapM.mp ⟨wired, hw⟩ i hi
  have hmem : j ∈ wired := (Outcome.mem_mapM hw).mpr ⟨i, hi, hj⟩
  have hnode : net'.node? id = some ⟨id, type, wired, outputs, graph⟩ := by
    rw [← hnet, ← hid]
    exact node?_new _
  have hgrows : net.Grows net' := hnet ▸ .of_node _
  have hoccurs : net'.Occurs [⟨t, .node id slot⟩] j.value :=
    Or.inr ⟨id, _, j, .root (by simp [Value.node?]), hnode, hmem, rfl⟩
  -- The slot took the operand, or a fault because the types differ.
  rcases value_of_wire hj with hv | ⟨message, hv⟩
  · exact (hgrows.faulty hf).of_occurs (hv ▸ hoccurs)
  · exact ⟨j.value, message, hoccurs, by rw [hv]; rfl⟩

theorem exists_addNode {type : Text} {inputs : List Input} {outputs : List Output} (graph : GraphId)
    (ht : type ≠ []) (hi : ∀ i ∈ inputs, i.type.isValid = true)
    (hr : ∀ i ∈ inputs, net.Resolves i.value) (ho : ∀ o ∈ outputs, o.type.isValid = true) :
    ∃ wired, net.addNode type inputs outputs graph = .ok (net.nodes.length + 1,
      { net with nodes := net.nodes ++ [⟨net.nodes.length + 1, type, wired, outputs, graph⟩] }) := by
  obtain ⟨wired, hw⟩ : ∃ wired, inputs.mapM (net.wire type) = .ok wired :=
    Outcome.exists_mapM.mpr fun i hm => ⟨_, wire_eq_ok.mpr ⟨hi i hm, hr i hm, rfl⟩⟩
  exact ⟨wired, addNode_eq_ok.mpr ⟨ht, wired, hw, ho, rfl⟩⟩

end Network

/-! ## Steps that answer an output -/

namespace Build

variable {α β : Type} {net net' : Network} {w : Value} {operands : List Value}

theorem bind_eq_ok {b : Build α} {f : α → Build β} {r : β} :
    (b >>= f) net = (.ok r, net') ↔ ∃ a mid, b net = (.ok a, mid) ∧ f a mid = (.ok r, net') := by
  rw [bind_apply]
  rcases b net with ⟨_ | a, mid⟩
  · constructor
    · intro h
      cases h
    · intro ⟨_, _, h, _⟩
      cases h
  · constructor
    · exact fun h => ⟨a, mid, rfl, h⟩
    · intro ⟨_, _, h, hf⟩
      cases h
      exact hf

theorem extend_eq_ok {f : Network → Except Misuse (α × Network)} {a : α} :
    extend f net = (.ok a, net') ↔ f net = .ok (a, net') := by
  unfold extend
  rcases f net with _ | ⟨b, mid⟩
  · constructor <;> (intro h; cases h)
  · constructor <;> (intro h; cases h; rfl)

variable {f : Network → Except Misuse (NodeId × Network)} {slot : Text}

theorem extend_output_eq_ok (h : (extend f >>= fun id => output id slot) net = (.ok w, net')) :
    ∃ id t, f net = .ok (id, net') ∧ w = ⟨t, .node id slot⟩ := by
  obtain ⟨id, mid, hf, ho⟩ := bind_eq_ok.mp h
  obtain ⟨hvalue, rfl⟩ := Prod.mk.inj ho
  obtain ⟨t, _, hw⟩ := Outcome.bind_eq_ok.mp hvalue
  exact ⟨id, t, extend_eq_ok.mp hf, (Outcome.pure_eq_ok.mp hw).symm⟩

theorem exists_extend_output {id : NodeId} (hf : f net = .ok (id, net'))
    (ho : net'.HasOutput id slot) :
    ∃ w, (extend f >>= fun id => output id slot) net = (.ok w, net') ∧ net'.Resolves w := by
  obtain ⟨t, ht⟩ := Network.outputType_ok_iff.mpr ho
  have hw : net'.output id slot = .ok ⟨t, .node id slot⟩ := Outcome.bind_eq_ok.mpr ⟨t, ht, rfl⟩
  refine ⟨⟨t, .node id slot⟩, bind_eq_ok.mpr ⟨id, net', extend_eq_ok.mpr hf, ?_⟩, ho⟩
  rw [output, inspect, hw]

/-- What a step with operands gives: a fault, or an output of a new node that has all operands that
are not absent. -/
inductive Gives (operands : List Value) (net : Network) : Value → Network → Prop
  | fault (type : TypeTag) (message : Text) : Gives operands net (.ofFault type message) net
  | node {type : Text} {inputs : List Input} {outputs : List Output} {graph : GraphId}
      {id : NodeId} {net' : Network} (t : TypeTag) (slot : Text) :
      net.addNode type inputs outputs graph = .ok (id, net') →
      (∀ v ∈ operands, v.isAbsent = true ∨ v ∈ inputs.map (·.value)) →
      Gives operands net ⟨t, .node id slot⟩ net'

namespace Gives

theorem network (h : Gives operands net w net') :
    net' = net ∨ ∃ n, net' = { net with nodes := net.nodes ++ [n] } := by
  cases h with
  | fault type message => exact Or.inl rfl
  | node t slot hadd _ =>
    obtain ⟨_, wired, _, _, he⟩ := Network.addNode_eq_ok.mp hadd
    exact Or.inr ⟨_, (Prod.mk.inj he).2.symm⟩

theorem network_of_fault (h : Gives operands net w net') {m : Text} (hw : w.source = .fault m) :
    net' = net := by
  cases h with
  | fault type message => rfl
  | node t slot _ _ => cases hw

theorem faulty (h : Gives operands net w net') {v : Value} (hv : v ∈ operands)
    (hf : net.Faulty v) : net'.Faulty w := by
  cases h with
  | fault type message => exact ⟨_, message, Or.inl List.mem_cons_self, rfl⟩
  | node t slot hadd hpresent =>
    obtain ⟨i, hi, rfl⟩ := List.mem_map.mp ((hpresent v hv).resolve_left hf.present)
    exact Network.addNode_faulty hadd hi hf t slot

end Gives

theorem Standard.gives {b : Build Value} (h : Standard operands b) (hb : b net = (.ok w, net')) :
    Gives operands net w net' := by
  cases h with
  | fault type message =>
    obtain ⟨hw, rfl⟩ := Prod.mk.inj hb
    obtain rfl := Except.ok.inj hw
    exact .fault type message
  | operation type outType inputs _ _ hu =>
    obtain ⟨id, t, hadd, rfl⟩ := extend_output_eq_ok hb
    exact .node t _ hadd hu.present

theorem Standard.returns {b : Build Value} (h : Standard operands b)
    (hr : ∀ v ∈ operands, net.Resolves v) : ∃ w net', b net = (.ok w, net') ∧ net'.Resolves w := by
  cases h with
  | fault type message => exact ⟨_, net, rfl, trivial⟩
  | operation type outType inputs ht ho hu =>
    have hout : ∀ o ∈ [(⟨"out", outType⟩ : Output)], o.type.isValid = true :=
      List.forall_mem_singleton.mpr ho
    obtain ⟨wired, hadd⟩ := Network.exists_addNode 0 ht hu.types
      (fun i hi => hr _ (hu.values i hi)) hout
    obtain ⟨w, hw⟩ := exists_extend_output (f := (·.addNode type inputs [⟨"out", outType⟩] 0)) hadd
      (Network.hasOutput_new rfl (List.mem_cons_self : Text.ofString "out" ∈ _))
    exact ⟨w, _, hw⟩

end Build

/-! ## Graphs that tint -/

def Network.Tints (net : Network) (g : GraphId) : Prop :=
  ∃ name before after, Surface.tint name before = (.ok (.ok g), after) ∧ after.Grows net

theorem Network.hasInput_of_addGraphInput {net net' : Network} {k : GraphId} {i : GraphInput}
    {v : Value} (h : net.addGraphInput k i = .ok (v, net')) : net'.HasInput k i.name := by
  obtain ⟨g, hg, _, _, he⟩ := addGraphInput_eq_ok.mp h
  obtain ⟨_, rfl⟩ := Prod.mk.inj he
  exact ⟨_, graph?_setGraph_self _ hg, by simp⟩

theorem Network.graphOutput_of_addGraphOutput {net net' : Network} {k : GraphId} {name : Text}
    {v : Value} (h : net.addGraphOutput k name v = .ok ((), net')) :
    ∃ g, net'.graph? k = some g ∧ name ∈ g.outputs.map (·.name) := by
  obtain ⟨g, hg, _, _, he⟩ := addGraphOutput_eq_ok.mp h
  obtain ⟨_, rfl⟩ := Prod.mk.inj he
  exact ⟨_, graph?_setGraph_self _ hg, by simp⟩

theorem Build.Adds.grows {α : Type} {given : List Value} {b : Build α} (h : b.Adds given)
    (net : Network) : net.Grows (b net).2 := by
  rcases h net with he | he
  · rw [he]
    exact .refl net
  · exact he.grows

theorem Network.Tints.slots {net : Network} {g : GraphId} (h : net.Tints g) :
    net.HasInput g "color" ∧ net.HasInput g "amount" ∧
      ∃ gr, net.graph? g = some gr ∧ Text.ofString "out" ∈ gr.outputs.map (·.name) := by
  obtain ⟨name, before, after, htint, hlater⟩ := h
  unfold Surface.tint at htint
  obtain ⟨_, _, hget, hrest⟩ := Build.bind_eq_ok.mp htint
  split at hrest
  · cases hrest
  split at hrest
  · cases hrest
  obtain ⟨k, mid₁, hgraph, hrest⟩ := Build.bind_eq_ok.mp hrest
  obtain ⟨color, mid₂, hcolor, hrest⟩ := Build.bind_eq_ok.mp hrest
  obtain ⟨amount, mid₃, hamount, hrest⟩ := Build.bind_eq_ok.mp hrest
  obtain ⟨product, mid₄, hproduct, hrest⟩ := Build.bind_eq_ok.mp hrest
  obtain ⟨_, mid₅, hout, hrest⟩ := Build.bind_eq_ok.mp hrest
  obtain ⟨hk, rfl⟩ := Prod.mk.inj hrest
  obtain rfl : k = g := Except.ok.inj (Except.ok.inj hk)
  rw [Build.graphInputDefault, Build.extend_eq_ok] at hcolor hamount
  rw [Build.graphOutput, Build.extend_eq_ok] at hout
  -- Every step of the five adds to the network and keeps what the steps before it declared.
  have h₃ : mid₂.Grows mid₃ := (Network.addGraphInput_extends hamount : Network.Extends [] _ _).grows
  have h₄ : mid₃.Grows mid₄ := by
    have hgrows := (Build.arithmetic_standard .multiply color amount).adds.grows mid₃
    rwa [show Build.arithmetic .multiply color amount mid₃ = _ from hproduct] at hgrows
  have h₅ : mid₄.Grows mid₅ := (Network.addGraphOutput_extends hout).grows
  refine ⟨?_, ?_, ?_⟩
  · exact (((h₃.trans h₄).trans h₅).trans hlater).hasInput (Network.hasInput_of_addGraphInput hcolor)
  · exact ((h₄.trans h₅).trans hlater).hasInput (Network.hasInput_of_addGraphInput hamount)
  · obtain ⟨gr, hgr, hmem⟩ := Network.graphOutput_of_addGraphOutput hout
    obtain ⟨gr', hgr', _, _, _, houtputs⟩ := hlater.graphs k gr hgr
    exact ⟨gr', hgr', (houtputs.map _).subset hmem⟩

/-! ## Operations -/

inductive Operation where
  | arithmetic (op : Build.Arithmetic) (a b : Value)
  | mix (fg bg amount : Value)
  | dot (a b : Value)
  | sin (a : Value)
  | image (file uv : Value) (outType : TypeTag)
  | pbrSurface (i : Build.PbrInputs)
  | unlitSurface (color opacity : Value)
  | geometryModifier (i : Build.ModifierInputs)
  /-- A new node and then one of its outputs. -/
  | node (type : Text) (inputs : List Input) (outputs : List Output) (slot : Text)
  | tinted (graph : GraphId) (color amount : Value)

namespace Operation

def build : Operation → Build Value
  | .arithmetic op a b => Build.arithmetic op a b
  | .mix fg bg amount => Build.mix fg bg amount
  | .dot a b => Build.dot a b
  | .sin a => Build.sin a
  | .image file uv outType => Build.image file uv outType
  | .pbrSurface i => Build.pbrSurface i
  | .unlitSurface color opacity => Build.unlitSurface color opacity
  | .geometryModifier i => Build.geometryModifier i
  | .node type inputs outputs slot => do
    let id ← Build.newNode type inputs outputs
    Build.output id slot
  | .tinted g color amount => Surface.tinted g color amount

def operands : Operation → List Value
  | .arithmetic _ a b | .dot a b | .image a b _ | .unlitSurface a b | .tinted _ a b => [a, b]
  | .mix fg bg amount => [fg, bg, amount]
  | .sin a => [a]
  | .pbrSurface i => i.slots.map (·.value)
  | .geometryModifier i => i.slots.map (·.value)
  | .node _ inputs _ _ => inputs.map (·.value)

/-- The node has a type, its slots have types and it has the output, or the graph can tint. All other
operations may be used at any time. -/
def Allowed (net : Network) : Operation → Prop
  | .node type inputs outputs slot => type ≠ [] ∧ (∀ i ∈ inputs, i.type.isValid = true) ∧
      (∀ o ∈ outputs, o.type.isValid = true) ∧ slot ∈ outputs.map (·.name)
  | .tinted g _ _ => net.Tints g
  | _ => True

variable {net net' : Network} {w : Value}

theorem standard_or (op : Operation) : op.build.Standard op.operands ∨
    (∃ type inputs outputs slot, op = .node type inputs outputs slot) ∨
    ∃ g color amount, op = .tinted g color amount := by
  cases op with
  | arithmetic op a b => exact Or.inl (Build.arithmetic_standard op a b)
  | mix fg bg amount => exact Or.inl (Build.mix_standard fg bg amount)
  | dot a b => exact Or.inl (Build.dot_standard a b)
  | sin a => exact Or.inl (Build.sin_standard a)
  | image file uv outType => exact Or.inl (Build.image_standard file uv outType)
  | pbrSurface i => exact Or.inl (Build.pbrSurface_standard i)
  | unlitSurface color opacity => exact Or.inl (Build.unlitSurface_standard color opacity)
  | geometryModifier i => exact Or.inl (Build.geometryModifier_standard i)
  | node type inputs outputs slot => exact Or.inr (Or.inl ⟨type, inputs, outputs, slot, rfl⟩)
  | tinted g color amount => exact Or.inr (Or.inr ⟨g, color, amount, rfl⟩)

def tintSlots (color amount : Value) : List Input :=
  [⟨"color", DataType.color3, color⟩, ⟨"amount", DataType.scalarFloat, amount⟩]

theorem uses_tintSlots (color amount : Value) :
    Build.Uses [color, amount] (Build.connected (tintSlots color amount)) :=
  .connected rfl (by simp [tintSlots, TypeTag.isValid_ofDataType])

theorem build_adds (op : Operation) : op.build.Adds op.operands := by
  rcases op.standard_or with h | ⟨type, inputs, outputs, slot, rfl⟩ | ⟨g, color, amount, rfl⟩
  · exact h.adds
  · have hv : ∀ i ∈ inputs, i.value ∈ inputs.map (·.value) := fun _ hi => List.mem_map_of_mem hi
    exact Build.Adds.bind (.extend fun _ _ _ => Network.addNode_extends hv) fun _ => .inspect _
  · have hv := (uses_tintSlots color amount).values
    exact Build.Adds.bind (.extend fun _ _ _ => Network.addReference_extends hv) fun _ => .inspect _

theorem gives (op : Operation) (h : op.build net = (.ok w, net')) :
    Build.Gives op.operands net w net' := by
  rcases op.standard_or with hs | ⟨type, inputs, outputs, slot, rfl⟩ | ⟨g, color, amount, rfl⟩
  · exact hs.gives h
  · obtain ⟨id, t, hadd, rfl⟩ := Build.extend_output_eq_ok h
    exact .node t slot hadd fun _ hv => Or.inr hv
  · obtain ⟨id, t, href, rfl⟩ := Build.extend_output_eq_ok h
    obtain ⟨_, _, _, hadd⟩ := Network.addReference_eq_ok.mp href
    exact .node t _ hadd (uses_tintSlots color amount).present

theorem tinted_returns {g : GraphId} {color amount : Value} (ht : net.Tints g)
    (hr : ∀ v ∈ [color, amount], net.Resolves v) :
    ∃ w net', (tinted g color amount).build net = (.ok w, net') ∧ net'.Resolves w := by
  obtain ⟨⟨gr, hgr, hcolor⟩, ⟨gr', hgr', hamount⟩, _, hgr'', hout⟩ := ht.slots
  obtain rfl : gr = gr' := Option.some.inj (hgr.symm.trans hgr')
  obtain rfl := Option.some.inj (hgr.symm.trans hgr'')
  have hu := uses_tintSlots color amount
  have hnames : ∀ i ∈ Build.connected (tintSlots color amount), i.name ∈ gr.inputs.map (·.name) := by
    intro i hi
    have hi := (List.mem_filter.mp hi).1
    simp only [tintSlots, List.mem_cons, List.not_mem_nil, or_false] at hi
    rcases hi with rfl | rfl
    · exact hcolor
    · exact hamount
  have htype : Network.referenceType ≠ [] := by decide
  have hnone : ∀ o ∈ ([] : List Output), o.type.isValid = true := by simp
  obtain ⟨wired, hadd⟩ := Network.exists_addNode g htype hu.types
    (fun i hi => hr _ (hu.values i hi)) hnone
  have href := Network.addReference_eq_ok.mpr ⟨gr, hgr, hnames, hadd⟩
  have hg : g ≠ 0 := fun h0 => by simp [h0, Network.graph?] at hgr
  obtain ⟨w, hw⟩ := Build.exists_extend_output (f := (·.addReference g _)) href
    ⟨_, Network.node?_new _, by rw [if_pos (by simpa [Node.isReference] using hg)]; exact ⟨gr, hgr, hout⟩⟩
  exact ⟨w, _, hw⟩

theorem returns (op : Operation) (ha : op.Allowed net)
    (hr : ∀ v ∈ op.operands, net.Resolves v) :
    ∃ w net', op.build net = (.ok w, net') ∧ net'.Resolves w := by
  rcases op.standard_or with hs | ⟨type, inputs, outputs, slot, rfl⟩ | ⟨g, color, amount, rfl⟩
  · exact hs.returns hr
  · obtain ⟨htype, hin, hout, hslot⟩ := ha
    obtain ⟨wired, hadd⟩ := Network.exists_addNode 0 htype hin
      (fun i hi => hr _ (List.mem_map_of_mem hi)) hout
    obtain ⟨w, hw⟩ := Build.exists_extend_output (f := (·.addNode type inputs outputs 0)) hadd
      (Network.hasOutput_new rfl hslot)
    exact ⟨w, _, hw⟩
  · exact tinted_returns ha hr

theorem sound (op : Operation) (hs : net.Sound) (h : op.build net = (.ok w, net')) :
    net'.Sound := by
  obtain rfl : (op.build net).2 = net' := congrArg Prod.snd h
  rcases op.build_adds net with he | he
  · rwa [he]
  · exact hs.step he

end Operation

/-! ## What is built on a value -/

/-- The value was built on the first one: any calls are made, and from time to time an operation with
the value so far among its operands gives the next one. -/
inductive BuiltOn (net₀ : Network) (v₀ : Value) : Network → Value → Prop
  | self : BuiltOn net₀ v₀ net₀ v₀
  | call {net : Network} {v : Value} (c : Call) : BuiltOn net₀ v₀ net v →
      BuiltOn net₀ v₀ (c.apply net) v
  | operation {net net' : Network} {v w : Value} (op : Operation) : BuiltOn net₀ v₀ net v →
      v ∈ op.operands → op.build net = (.ok w, net') → BuiltOn net₀ v₀ net' w

theorem BuiltOn.faulty {net₀ net : Network} {v₀ v : Value} (h : BuiltOn net₀ v₀ net v)
    (hv : net₀.Faulty v₀) : net.Faulty v := by
  induction h with
  | self => exact hv
  | call c _ ih => exact (c.grows _).faulty ih
  | operation op _ hmem hb ih => exact (op.gives hb).faulty hmem ih

theorem BuiltOn.sound {net₀ net : Network} {v₀ v : Value} (h : BuiltOn net₀ v₀ net v)
    (hs : net₀.Sound) : net.Sound := by
  induction h with
  | self => exact hs
  | call c _ ih => exact ih.apply c
  | operation op _ _ hb ih => exact op.sound ih hb

namespace Stage

variable {settings : Settings} {net : Network} {mat : Material} {v : Value}

theorem compile_ne_ok_of_faulty (hv : net.Faulty v)
    (hm : mat.surface = v ∨ mat.geometryModifier = v) (c : Compiled) :
    compile settings net mat ≠ .ok c := by
  intro hc
  obtain ⟨_, parameters, hcheck, _⟩ := compile_eq_ok hc
  obtain ⟨⟨listed, outputs⟩, _, hrest⟩ := Outcome.bind_eq_ok.mp hcheck
  obtain ⟨unlisted, _, hrest⟩ := Outcome.bind_eq_ok.mp hrest
  obtain ⟨faults, hfaults, hrest⟩ := Outcome.bind_eq_ok.mp hrest
  obtain ⟨collected, _, hrest⟩ := Outcome.bind_eq_ok.mp hrest
  obtain ⟨conflicts, _, hrest⟩ := Outcome.bind_eq_ok.mp hrest
  have hnil : faults = [] := by
    have hlist := (Prod.mk.inj (Outcome.pure_eq_ok.mp hrest)).1
    simp only [List.append_eq_nil_iff] at hlist
    exact hlist.1.2
  obtain ⟨w, m, hw, hs⟩ := hv
  have hroot : ∀ u ∈ [v], u ∈ mat.surface :: mat.geometryModifier :: outputs := by
    intro u hu
    rw [List.mem_singleton.mp hu]
    rcases hm with rfl | rfl <;> simp
  have hmem : m ∈ faults := (Network.mem_faults_iff hfaults).mpr ⟨w, hw.mono hroot, hs⟩
  rw [hnil] at hmem
  cases hmem

theorem refused_of_faulty (hs : net.Sound) (hover : mat.Over net) (hv : net.Faulty v)
    (hm : mat.surface = v ∨ mat.geometryModifier = v) :
    ∃ e, ∀ dst, appendLines settings dst net mat = .ok ⟨dst, [], some e⟩ := by
  refine (hover.appendLines_cases hs settings).resolve_left fun ⟨c, hc⟩ => ?_
  exact compile_ne_ok_of_faulty hv hm c hc

end Stage

/-- After any session, an operation on values that exist returns. It adds at most one node and nothing
else, and nothing at all if it gives a fault. If problems are found with an operand, then problems are
found with the result. So a material has no document if its surface or its geometry modifier was built
on a value with problems: if what it refers to exists, the problems are reported and nothing is added
to the lines. -/
theorem Operation.never_masks (calls : List Call) :
    (∀ op : Operation, op.Allowed (.after calls) →
      (∀ v ∈ op.operands, (Network.after calls).Resolves v) →
      ∃ w net', op.build (.after calls) = (.ok w, net') ∧
        (net' = .after calls ∨
          ∃ n, net' = { Network.after calls with nodes := (Network.after calls).nodes ++ [n] }) ∧
        ((∃ m, w.source = .fault m) → net' = .after calls) ∧
        ((∃ v ∈ op.operands, (Network.after calls).Erroneous v) → net'.Erroneous w)) ∧
    ∀ v net w, (Network.after calls).Erroneous v → BuiltOn (.after calls) v net w →
      ∀ (settings : Stage.Settings) (mat : Stage.Material),
        mat.surface = w ∨ mat.geometryModifier = w →
        (∀ c, Stage.compile settings net mat ≠ .ok c) ∧
        (mat.Over net →
          ∃ e, ∀ dst, Stage.appendLines settings dst net mat = .ok ⟨dst, [], some e⟩) := by
  have hs := Network.sound_after calls
  constructor
  · intro op hallowed hresolves
    obtain ⟨w, net', hb, hw⟩ := op.returns hallowed hresolves
    have hgives := op.gives hb
    refine ⟨w, net', hb, hgives.network, fun ⟨m, hm⟩ => hgives.network_of_fault hm, ?_⟩
    intro ⟨v, hv, he⟩
    exact (op.sound hs hb).erroneous hw (hgives.faulty hv he.faulty)
  · intro v net w he hbuilt settings mat hm
    have hfaulty := hbuilt.faulty he.faulty
    exact ⟨Stage.compile_ne_ok_of_faulty hfaulty hm,
      fun hover => Stage.refused_of_faulty (hbuilt.sound hs) hover hfaulty hm⟩

def toneCalls : List Call :=
  [.graph "Tone", .graphInputDefault 1 "color" (some Surface.white),
   .graphInputDefault 1 "amount" (some (.scalar Constant.one)),
   .arithmetic .multiply ⟨DataType.color3, .graphInput 1 "color"⟩
     ⟨DataType.scalarFloat, .graphInput 1 "amount"⟩,
   .graphOutput 1 "out" ⟨DataType.color3, .node 1 "out"⟩]

theorem tone_tints : (Network.after toneCalls).Tints 1 := by
  have htint : Surface.tint "Tone" .empty = (.ok (.ok 1), .after toneCalls) := rfl
  exact ⟨_, _, _, htint, .refl _⟩

def broken : Value := .ofFault DataType.color3 "broken"

theorem broken_tone : (Network.after toneCalls).Tints 1 ∧ (Network.after toneCalls).Erroneous broken ∧
    ∃ w net', (Operation.tinted 1 broken .absent).build (.after toneCalls) = (.ok w, net') ∧
      net'.Erroneous w ∧
      ∀ settings name c, Stage.compile settings net' ⟨name, w, .absent, [1]⟩ ≠ .ok c := by
  have hbroken : (Network.after toneCalls).Erroneous broken :=
    (Network.sound_after toneCalls).erroneous trivial ⟨broken, _, Or.inl List.mem_cons_self, rfl⟩
  have hmem : broken ∈ (Operation.tinted 1 broken .absent).operands := List.mem_cons_self
  have hresolves : ∀ v ∈ [broken, .absent], (Network.after toneCalls).Resolves v := by
    simp [Network.Resolves, broken, Value.ofFault, Value.absent]
  obtain ⟨hoperation, hmaterial⟩ := Operation.never_masks toneCalls
  obtain ⟨w, net', hb, _, _, he⟩ := hoperation (.tinted 1 broken .absent) tone_tints hresolves
  refine ⟨tone_tints, hbroken, w, net', hb, he ⟨broken, hmem, hbroken⟩, fun settings name => ?_⟩
  have hbuilt : BuiltOn (.after toneCalls) broken net' w := .operation _ .self hmem hb
  exact (hmaterial broken net' w hbroken hbuilt settings _ (Or.inl rfl)).1

end ShaderGraph
