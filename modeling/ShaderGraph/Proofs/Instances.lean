import ShaderGraph.Proofs.Soundness

/-!
# What drives the inputs of instances

An instance of a graph has inputs that the graph declares, under their names. The types of its slots
are given with it: a value is compared with the type of its slot and not with the type that the graph
declares. So a network is mirrored, which means that whatever drives an input of an instance has the
type declared for that input, exactly if all calls that made instances were given the declared types.
-/
namespace ShaderGraph

def Input.Live (i : Input) : Prop := i.value.source ≠ .absent ∧ ∀ m, i.value.source ≠ .fault m

namespace Network

variable {net net' : Network}

def InputType (net : Network) (id : GraphId) (slot : Text) (type : TypeTag) : Prop :=
  ∃ g j, net.graph? id = some g ∧ g.input? slot = some j ∧ j.type = type

def Mirrored (net : Network) : Prop :=
  ∀ n ∈ net.nodes, n.isReference = true → ∀ i ∈ n.inputs, i.Live →
    net.InputType n.graph i.name i.value.type

theorem InputType.unique {id : GraphId} {slot : Text} {type type' : TypeTag}
    (h : net.InputType id slot type) (h' : net.InputType id slot type') : type = type' := by
  obtain ⟨g, j, hg, hj, rfl⟩ := h
  obtain ⟨g', j', hg', hj', rfl⟩ := h'
  obtain rfl : g = g' := Option.some.inj (hg.symm.trans hg')
  rw [Option.some.inj (hj.symm.trans hj')]

theorem Grows.inputType (h : net.Grows net') {id : GraphId} {slot : Text} {type : TypeTag}
    (ht : net.InputType id slot type) : net'.InputType id slot type := by
  obtain ⟨g, j, hg, hj, htype⟩ := ht
  obtain ⟨g', hg', _, _, hinputs, _⟩ := h.graphs id g hg
  exact ⟨g', j, hg', hinputs.find?_eq_some hj, htype⟩

theorem Sound.exists_inputType (hs : net.Sound) {n : Node} (hn : n ∈ net.nodes)
    (href : n.isReference = true) {i : Input} (hi : i ∈ n.inputs) :
    ∃ type, net.InputType n.graph i.name type := by
  obtain ⟨_, g, hg, hnames⟩ := hs.reference n hn href
  have hsome := (g.isSome_input? i.name).mpr (hnames i hi)
  obtain ⟨j, hj⟩ := Option.isSome_iff_exists.mp hsome
  exact ⟨j.type, g, j, hg, hj, rfl⟩

/-- Growth without a new instance neither makes nor mends a wrong type: declared types stay. -/
theorem Sound.mirrored_iff_of_grows (hs : net.Sound) (hg : net.Grows net')
    (hplain : ∀ n ∈ net'.nodes, n ∈ net.nodes ∨ n.isReference = false) :
    net'.Mirrored ↔ net.Mirrored := by
  constructor
  · intro h n hn href i hi hlive
    obtain ⟨type, htype⟩ := hs.exists_inputType hn href hi
    have hlater := h n (hg.nodes.subset hn) href i hi hlive
    rwa [hlater.unique (hg.inputType htype)]
  · intro h n hn href i hi hlive
    rcases hplain n hn with hold | hnot
    · exact hg.inputType (h n hold href i hi hlive)
    · rw [hnot] at href
      cases href

/-! ## A new instance -/

def Fitted (net : Network) (graph : GraphId) (inputs : List Input) : Prop :=
  ∀ i ∈ inputs, i.Live → i.value.type = i.type → net.InputType graph i.name i.type

theorem connect_of_type {node : Text} {i : Input} (h : i.value.type = i.type) :
    connect node i = i.value := by
  rw [connect, if_pos (by simp [h])]

theorem fitted_iff_wired {node : Text} {graph : GraphId} {inputs wired : List Input}
    (hw : inputs.mapM (net.wire node) = .ok wired) :
    (∀ j ∈ wired, j.Live → net.InputType graph j.name j.value.type) ↔ net.Fitted graph inputs := by
  constructor
  · intro h i hi hlive htype
    obtain ⟨j, hj⟩ := Outcome.exists_mapM.mp ⟨wired, hw⟩ i hi
    have hmem := (Outcome.mem_mapM hw).mpr ⟨i, hi, hj⟩
    obtain ⟨_, _, rfl⟩ := wire_eq_ok.mp hj
    rw [connect_of_type htype] at hmem
    rw [← htype]
    exact h i hmem hlive
  · intro h j hj hlive
    obtain ⟨i, hi, hij⟩ := (Outcome.mem_mapM hw).mp hj
    obtain ⟨_, _, rfl⟩ := wire_eq_ok.mp hij
    rcases connect_cases node i with ⟨hc, hv⟩ | ⟨message, hc⟩
    · -- The value was kept, so it is the one that was given and has the type of its slot.
      have hlive' : i.Live := by simpa only [Input.Live, hc] using hlive
      have htype := hv.resolve_left (mt Value.isAbsent_iff.mp hlive'.1)
      simpa only [hc, htype] using h i hi hlive' htype
    · exact absurd (by rw [hc]; rfl) (hlive.2 message)

theorem mirrored_node_iff {n : Node} (href : n.isReference = true) :
    Mirrored { net with nodes := net.nodes ++ [n] } ↔
      net.Mirrored ∧ ∀ i ∈ n.inputs, i.Live → net.InputType n.graph i.name i.value.type := by
  constructor
  · intro h
    exact ⟨fun m hm => h m (List.mem_append_left _ hm),
      h n (List.mem_append_right _ List.mem_cons_self) href⟩
  · intro ⟨hold, hnew⟩
    exact forall_mem_concat hold fun _ => hnew

end Network

/-! ## Calls and sessions -/

theorem Network.nodes_of_addGraph {net net' : Network} {name : Text} {id : GraphId}
    (h : net.addGraph name = .ok (id, net')) : net'.nodes = net.nodes := by
  obtain ⟨_, _, he⟩ := addGraph_eq_ok.mp h
  obtain ⟨_, rfl⟩ := Prod.mk.inj he
  rfl

namespace Call

theorem Effect.plain {net net' : Network} {c : Call} (h : c.Effect net net')
    (hc : ∀ g inputs, c ≠ .reference g inputs) :
    ∀ n ∈ net'.nodes, n ∈ net.nodes ∨ n.isReference = false := by
  cases h with
  | nothing => exact fun n hn => Or.inl hn
  | node he =>
    obtain ⟨_, wired, _, _, hr⟩ := Network.addNode_eq_ok.mp he
    obtain ⟨_, rfl⟩ := Prod.mk.inj hr
    exact Network.forall_mem_concat (fun n hn => Or.inl hn) (Or.inr rfl)
  | reference _ => exact absurd rfl (hc _ _)
  | graph he =>
    rw [Network.nodes_of_addGraph he]
    exact fun n hn => Or.inl hn
  | input _ he =>
    obtain ⟨_, _, _, _, hr⟩ := Network.addGraphInput_eq_ok.mp he
    obtain ⟨_, rfl⟩ := Prod.mk.inj hr
    exact fun n hn => Or.inl hn
  | output _ he =>
    obtain ⟨_, _, _, _, hr⟩ := Network.addGraphOutput_eq_ok.mp he
    obtain ⟨_, rfl⟩ := Prod.mk.inj hr
    exact fun n hn => Or.inl hn

/-- The call makes no instance, or one whose inputs are given with the types that the graph declares. -/
def Fits (net : Network) : Call → Prop
  | .reference g inputs => (∃ r, net.addReference g inputs = .ok r) → net.Fitted g inputs
  | _ => True

theorem apply_reference_ok {net net' : Network} {g : GraphId} {inputs : List Input} {id : NodeId}
    (h : net.addReference g inputs = .ok (id, net')) : (reference g inputs).apply net = net' := by
  simp [apply, build, Build.bind_apply, Build.reference, Build.extend, h, Build.pure_apply]

theorem apply_reference_error {net : Network} {g : GraphId} {inputs : List Input} {m : Misuse}
    (h : net.addReference g inputs = .error m) : (reference g inputs).apply net = net := by
  simp [apply, build, Build.bind_apply, Build.reference, Build.extend, h]

theorem mirrored_reference_iff {net : Network} (g : GraphId) (inputs : List Input) :
    ((reference g inputs).apply net).Mirrored ↔ net.Mirrored ∧ (reference g inputs).Fits net := by
  cases hr : net.addReference g inputs with
  | error m => simp [apply_reference_error hr, Fits, hr]
  | ok r =>
    obtain ⟨id, net'⟩ := r
    rw [apply_reference_ok hr]
    have hfits : (reference g inputs).Fits net ↔ net.Fitted g inputs := by simp [Fits, hr]
    obtain ⟨gr, hgr, _, hadd⟩ := Network.addReference_eq_ok.mp hr
    obtain ⟨_, wired, hw, _, he⟩ := Network.addNode_eq_ok.mp hadd
    obtain ⟨_, rfl⟩ := Prod.mk.inj he
    have href : g ≠ 0 := fun h0 => by simp [h0, Network.graph?] at hgr
    rw [Network.mirrored_node_iff (by simpa [Node.isReference] using href), hfits,
      ← Network.fitted_iff_wired hw]

theorem mirrored_apply_iff {net : Network} (hs : net.Sound) (c : Call) :
    (c.apply net).Mirrored ↔ net.Mirrored ∧ c.Fits net := by
  by_cases hc : ∃ g inputs, c = .reference g inputs
  · obtain ⟨g, inputs, rfl⟩ := hc
    exact mirrored_reference_iff g inputs
  · have hplain := (c.effect net).plain fun g inputs h => hc ⟨g, inputs, h⟩
    have hfits : c.Fits net := by
      cases c with
      | reference g inputs => exact absurd ⟨g, inputs, rfl⟩ hc
      | _ => trivial
    rw [and_iff_left hfits]
    exact hs.mirrored_iff_of_grows (c.grows net) hplain

end Call

namespace Network

def Fitting (net : Network) : List Call → Prop
  | [] => True
  | c :: calls => c.Fits net ∧ Fitting (c.apply net) calls

theorem mirrored_run_iff {net : Network} (hs : net.Sound) (calls : List Call) :
    (calls.foldl Call.apply net).Mirrored ↔ net.Mirrored ∧ net.Fitting calls := by
  induction calls generalizing net with
  | nil => simp [Fitting]
  | cons c calls ih => rw [List.foldl_cons, ih (hs.apply c), c.mirrored_apply_iff hs, Fitting, and_assoc]

/-- After any session, what drives an input of an instance has the type of its slot, and the graph
declares an input of that name. It has the declared type, at all instances, exactly if every instance
was made with slots of the declared types. -/
theorem instances_mirrored_iff (calls : List Call) :
    (∀ n ∈ (after calls).nodes, n.isReference = true → ∀ i ∈ n.inputs, i.Live →
      i.value.type = i.type ∧ ∃ type, (after calls).InputType n.graph i.name type) ∧
    ((after calls).Mirrored ↔ Fitting .empty calls) := by
  have hs := sound_after calls
  constructor
  · intro n hn href i hi hlive
    have hvalue := (hs.wired n hn i hi).value
    exact ⟨hvalue.resolve_left (mt Value.isAbsent_iff.mp hlive.1), hs.exists_inputType hn href hi⟩
  · have hempty : Network.empty.Mirrored := by simp [Mirrored, Network.empty]
    rw [after, mirrored_run_iff Sound.empty calls, and_iff_right hempty]

def crossedCalls : List Call :=
  [.graph "Tone", .graphInput 1 "tint" DataType.color3,
   .reference 1 [⟨"tint", DataType.scalarFloat, .ofConstant (.scalar Constant.one)⟩]]

theorem crossed_not_mirrored : ¬ (after crossedCalls).Mirrored := by
  intro h
  obtain ⟨_, _, hfits, _⟩ := (instances_mirrored_iff crossedCalls).2.mp h
  have hlive : Input.Live ⟨"tint", DataType.scalarFloat, .ofConstant (.scalar Constant.one)⟩ :=
    ⟨by simp [Value.ofConstant], by simp [Value.ofConstant]⟩
  have hgiven := hfits ⟨_, rfl⟩ _ List.mem_cons_self hlive rfl
  have hdeclared : (after (crossedCalls.take 2)).InputType 1 "tint" DataType.color3 :=
    ⟨_, _, rfl, rfl, rfl⟩
  exact absurd (hdeclared.unique hgiven) (by decide)

end Network
end ShaderGraph
