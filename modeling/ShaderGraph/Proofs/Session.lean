import ShaderGraph.Proofs.Soundness

/-!
# Sessions with issued values

A session in which every value that a call is given was either written down, such as a constant, or
answered by an earlier call. A property of values lasts if it is kept when networks grow and holds of
everything written down or answered. Then it holds of every value in the network, at the inputs of
nodes and at the outputs of graphs. One such property is that whatever a value refers to exists; this
covers the outputs of graphs, which are stored without being resolved.
-/
namespace ShaderGraph

/-- Values that are written down and not answered. -/
inductive Value.Literal : Value → Prop
  | absent : Literal .absent
  | constant (c : Constant) : Literal (.ofConstant c)
  | parameter (name : Text) (c : Constant) : Literal (.ofParameter name c)
  | fault (type : TypeTag) (message : Text) : Literal (.ofFault type message)

def Value.isLiteral (v : Value) : Bool :=
  match v.source with
  | .absent => v.type = .undefined
  | .constant (some c) | .parameter _ (some c) => v.type = c.dataType
  | .fault _ => true
  | _ => false

theorem Value.isLiteral_iff {v : Value} : v.isLiteral = true ↔ v.Literal := by
  constructor
  · intro h
    obtain ⟨type, source⟩ := v
    unfold isLiteral at h
    dsimp only at h
    split at h
    · rw [of_decide_eq_true h]
      exact .absent
    · rw [of_decide_eq_true h]
      exact .constant _
    · rw [of_decide_eq_true h]
      exact .parameter _ _
    · exact .fault _ _
    · cases h
  · intro h
    cases h <;> simp [isLiteral, Value.absent, Value.ofConstant, Value.ofParameter, Value.ofFault]

instance : DecidablePred Value.Literal := fun _ => decidable_of_iff _ Value.isLiteral_iff

def Call.answer (net : Network) (c : Call) : Option Value :=
  match (c.build net).1 with
  | .ok v => v
  | .error _ => none

inductive Session : Network → List Value → Prop
  | start : Session .empty []
  | call {net : Network} {issued : List Value} (c : Call) : Session net issued →
      (∀ v ∈ c.values, v.Literal ∨ v ∈ issued) →
      Session (c.apply net) (issued ++ (c.answer net).toList)

/-- Goes on with calls, as long as they are given values that were written down or answered. -/
def Session.run? (net : Network) (issued : List Value) : List Call → Option (Network × List Value)
  | [] => some (net, issued)
  | c :: calls =>
    if ∀ v ∈ c.values, v.Literal ∨ v ∈ issued then
      run? (c.apply net) (issued ++ (c.answer net).toList) calls
    else none

theorem Session.of_run? {net : Network} {issued : List Value} {calls : List Call}
    {r : Network × List Value} (h : Session net issued) (hr : run? net issued calls = some r) :
    Session r.1 r.2 := by
  induction calls generalizing net issued with
  | nil =>
    obtain rfl := Option.some.inj hr
    exact h
  | cons c calls ih =>
    rw [run?] at hr
    split at hr
    · rename_i hv
      exact ih (.call c h hv) hr
    · cases hr

def scaledCalls : List Call :=
  [.graph "Scale", .graphInput 1 "amount" DataType.scalarFloat,
   .arithmetic .multiply ⟨DataType.scalarFloat, .graphInput 1 "amount"⟩
     (.ofConstant (.float .one #v[Constant.one])),
   .graphOutput 1 "scaled" ⟨DataType.scalarFloat, .node 1 "out"⟩,
   .reference 1 [⟨"amount", DataType.scalarFloat, .ofParameter "glow" (.float .one #v[Constant.one])⟩],
   .output 2 "scaled", .unlitSurface .absent ⟨DataType.scalarFloat, .node 2 "scaled"⟩]

def scaled : Network × List Value := (Session.run? .empty [] scaledCalls).getD (.empty, [])

theorem scaled_session : Session scaled.1 scaled.2 := by
  have hsome : (Session.run? .empty [] scaledCalls).isSome = true := by decide +kernel
  obtain ⟨r, hr⟩ := Option.isSome_iff_exists.mp hsome
  rw [scaled, hr]
  exact Session.start.of_run? hr

/-! ## Properties that last -/

namespace Network

structure Lasting (P : Network → Value → Prop) : Prop where
  grows {net net' : Network} {v : Value} : net.Grows net' → P net v → P net' v
  literal {net : Network} {v : Value} : v.Literal → P net v
  output {net : Network} {id : NodeId} {name : Text} {v : Value} :
    net.output id name = .ok v → P net v
  graphInput {net net' : Network} {id : GraphId} {i : GraphInput} {v : Value} : net.Sound →
    net.addGraphInput id i = .ok (v, net') → P net' v

structure All (net : Network) (Q : Value → Prop) : Prop where
  inputs : ∀ n ∈ net.nodes, ∀ i ∈ n.inputs, Q i.value
  outputs : ∀ g ∈ net.graphs, ∀ o ∈ g.outputs, Q o.value

theorem All.imp {net : Network} {Q R : Value → Prop} (h : net.All Q) (hqr : ∀ v, Q v → R v) :
    net.All R :=
  ⟨fun n hn i hi => hqr _ (h.inputs n hn i hi), fun g hg o ho => hqr _ (h.outputs g hg o ho)⟩

theorem Extends.all {given : List Value} {net net' : Network} {Q : Value → Prop}
    (h : Extends given net net') (hv : ∀ v ∈ given, Q v)
    (hf : ∀ type message, Q (.ofFault type message)) (hall : net.All Q) : net'.All Q := by
  cases h with
  | node _ htakes =>
    refine ⟨forall_mem_concat hall.inputs fun i hi => ?_, hall.outputs⟩
    rcases htakes i hi with hm | ⟨message, hm⟩
    · exact hv _ hm
    · rw [hm]
      exact hf _ _
  | graph _ _ => exact ⟨hall.inputs, forall_mem_concat hall.outputs (by simp)⟩
  | input h₀ _ _ =>
    refine ⟨hall.inputs, fun g hm => ?_⟩
    rcases List.mem_or_eq_of_mem_set hm with hm | rfl
    · exact hall.outputs g hm
    · exact fun o ho => hall.outputs _ (mem_graphs_of_graph? h₀) o ho
  | output h₀ hmv _ _ =>
    refine ⟨hall.inputs, fun g hm => ?_⟩
    rcases List.mem_or_eq_of_mem_set hm with hm | rfl
    · exact hall.outputs g hm
    · exact forall_mem_concat (hall.outputs _ (mem_graphs_of_graph? h₀)) (hv _ hmv)

end Network

namespace Build

variable {α : Type} {P : Network → Value → Prop}

/-- The values that the step answers on a sound network have the property afterwards. -/
def Answers (P : Network → Value → Prop) (b : Build (Option Value)) : Prop :=
  ∀ net v, net.Sound → (b net).1 = .ok (some v) → P (b net).2 v

theorem Answers.silent (b : Build α) : Answers P (b >>= fun _ => pure none) := by
  intro net v _ h
  rw [bind_apply] at h
  split at h
  · rw [pure_apply] at h
    cases h
  · simp at h

theorem Answers.map {b : Build Value}
    (hb : ∀ net v, net.Sound → (b net).1 = .ok v → P (b net).2 v) :
    Answers P (some <$> b) := by
  intro net v hs h
  have hmap : (some <$> b) net = (b >>= fun a => pure (some a)) net := rfl
  rw [hmap, bind_apply] at h ⊢
  have hv := hb net
  rcases hbn : b net with ⟨_ | a, net'⟩ <;> rw [hbn] at h hv
  · simp at h
  · obtain rfl : a = v := Option.some.inj (Except.ok.inj h)
    exact hv a hs rfl

theorem Answers.inspect {f : Network → Except Misuse α} {g : α → Build (Option Value)}
    (hg : ∀ a, Answers P (g a)) : Answers P (inspect f >>= g) := by
  intro net v hs h
  rw [bind_apply] at h ⊢
  rcases hf : Build.inspect f net with ⟨_ | a, net'⟩ <;> rw [hf] at h
  · simp at h
  · obtain rfl : net = net' := congrArg Prod.snd hf
    exact hg a net v hs h

theorem Standard.answers (hP : Network.Lasting P) {given : List Value} {b : Build Value}
    (h : Standard given b) : Answers P (some <$> b) := by
  refine .map fun net v _ hv => ?_
  cases h with
  | fault type message =>
    obtain rfl : Value.ofFault type message = v := Except.ok.inj hv
    exact hP.literal (.fault type message)
  | operation type outType inputs _ _ _ =>
    rw [Build.operation, bind_apply] at hv ⊢
    split at hv
    · exact hP.output hv
    · simp at hv

theorem graphInput_answers (hP : Network.Lasting P) (graph : GraphId) (i : GraphInput) :
    Answers P (some <$> extend (·.addGraphInput graph i)) := by
  refine .map fun net v hs hv => ?_
  unfold extend at hv ⊢
  split at hv
  · rename_i w net' he
    obtain rfl : w = v := by simpa using hv
    exact hP.graphInput hs he
  · simp at hv

end Build

theorem Call.build_answers {P : Network → Value → Prop} (hP : Network.Lasting P) (c : Call) :
    c.build.Answers P := by
  cases c with
  | node type inputs outputs => exact .silent _
  | reference g inputs => exact .silent _
  | graph name => exact .silent _
  | graphInput g name type => exact Build.graphInput_answers hP g _
  | graphInputDefault g name default =>
    exact .inspect fun c => Build.graphInput_answers hP g _
  | graphOutput g name v => exact .silent _
  | output id name => exact .map fun net v _ hv => hP.output hv
  | arithmetic op a b => exact (Build.arithmetic_standard op a b).answers hP
  | mix fg bg amount => exact (Build.mix_standard fg bg amount).answers hP
  | dot a b => exact (Build.dot_standard a b).answers hP
  | sin a => exact (Build.sin_standard a).answers hP
  | time => exact Build.time_standard.answers hP
  | texcoord => exact Build.texcoord_standard.answers hP
  | image file uv outType => exact (Build.image_standard file uv outType).answers hP
  | pbrSurface i => exact (Build.pbrSurface_standard i).answers hP
  | unlitSurface color opacity => exact (Build.unlitSurface_standard color opacity).answers hP
  | geometryModifier i => exact (Build.geometryModifier_standard i).answers hP

structure Held (P : Network → Value → Prop) (net : Network) (issued : List Value) : Prop where
  sound : net.Sound
  answered : ∀ v ∈ issued, P net v
  all : net.All (P net)

variable {P : Network → Value → Prop} {net : Network} {issued : List Value}

theorem Held.given (hP : Network.Lasting P) (h : Held P net issued) {v : Value}
    (hv : v.Literal ∨ v ∈ issued) : P net v :=
  hv.elim hP.literal (h.answered v)

theorem Held.call (hP : Network.Lasting P) (h : Held P net issued) (c : Call)
    (hv : ∀ v ∈ c.values, P net v) :
    Held P (c.apply net) (issued ++ (c.answer net).toList) := by
  have hnew : ∀ v ∈ (c.answer net).toList, P (c.apply net) v := by
    intro v hm
    refine c.build_answers hP net v h.sound ?_
    rw [Option.mem_toList, Call.answer] at hm
    split at hm
    · rename_i w hw
      rw [hw, hm]
    · simp at hm
  obtain ⟨hsound, hold, hall⟩ : (c.apply net).Sound ∧ (∀ v, P net v → P (c.apply net) v) ∧
      (c.apply net).All (P (c.apply net)) := by
    rcases c.build_adds net with he | he
    · rw [Call.apply, he]
      exact ⟨h.sound, fun _ hr => hr, h.all⟩
    · have hgrows : ∀ v, P net v → P (c.apply net) v := fun _ hr => hP.grows he.grows hr
      refine ⟨h.sound.step he, hgrows, he.all (fun v hm => hgrows v (hv v hm)) ?_ ?_⟩
      · exact fun type message => hP.literal (.fault type message)
      · exact h.all.imp hgrows
  refine ⟨hsound, fun v hm => ?_, hall⟩
  rcases List.mem_append.mp hm with hm | hm
  · exact hold v (h.answered v hm)
  · exact hnew v hm

theorem Session.held (hP : Network.Lasting P) (h : Session net issued) : Held P net issued := by
  induction h with
  | start => exact ⟨.empty, by simp, by simp [Network.empty], by simp [Network.empty]⟩
  | call c _ hv ih => exact ih.call hP c fun v hm => ih.given hP (hv v hm)

/-! ## What values refer to -/

theorem Value.Literal.resolves {v : Value} (h : v.Literal) (net : Network) : net.Resolves v := by
  cases h <;>
    simp [Network.Resolves, Value.absent, Value.ofConstant, Value.ofParameter, Value.ofFault]

theorem Build.output_resolves {net : Network} {id : NodeId} {name : Text} {v : Value}
    (h : net.output id name = .ok v) : net.Resolves v := by
  obtain ⟨t, ht, hv⟩ := Outcome.bind_eq_ok.mp h
  rw [← Outcome.pure_eq_ok.mp hv]
  exact Network.outputType_ok_iff.mp ⟨t, ht⟩

theorem Network.Sound.graphInput_declared {net net' : Network} {id : GraphId} {i : GraphInput}
    {v : Value} (hs : net.Sound) (h : net.addGraphInput id i = .ok (v, net')) :
    v = ⟨i.type, .graphInput id i.name⟩ ∧
      ∃ g, net'.graph? id = some g ∧ g.input? i.name = some i := by
  obtain ⟨g, hg, _, hnew, hr⟩ := addGraphInput_eq_ok.mp h
  obtain ⟨rfl, rfl⟩ := Prod.mk.inj hr
  have hnone : g.inputs.find? (·.name = i.name) = none := by
    rw [List.find?_eq_none]
    intro j hj hname
    exact hnew (List.mem_map.mpr ⟨j, hj, of_decide_eq_true hname⟩)
  rw [hs.id_of_graph? hg]
  refine ⟨rfl, _, graph?_setGraph_self _ hg, ?_⟩
  rw [NodeGraph.input?, List.find?_append, hnone]
  simp

theorem Network.resolves_lasting : Lasting Resolves where
  grows hg hv := hg.resolves hv
  literal hv := hv.resolves _
  output hv := Build.output_resolves hv
  graphInput hs he := by
    obtain ⟨rfl, g, hg, hi⟩ := hs.graphInput_declared he
    exact ⟨g, hg, (g.isSome_input? _).mp (by rw [hi]; rfl)⟩

theorem Session.sound (h : Session net issued) : net.Sound :=
  (h.held Network.resolves_lasting).sound

end ShaderGraph
