import ShaderGraph.Proofs.Components
import ShaderGraph.Proofs.ConflictTexts
import ShaderGraph.Proofs.Emission
import ShaderGraph.Proofs.Propagation

/-!
# Textured surfaces

What a textured surface adds to a network, which settings it accepts, and what becomes of a material
that has it for its surface. Two settings are accepted that should not be: a number that is not one
passes the check of its range, and the texture may have the name of another parameter of the surface,
which no material can declare twice.
-/
namespace ShaderGraph

namespace Binary

variable {f : Format}

theorem key_lt_key {x y : Binary f} : x.key < y.key ↔ x.toRat < y.toRat := by
  obtain ⟨s, a⟩ := x
  obtain ⟨t, b⟩ := y
  have hmono : ∀ m n, f.value m < f.value n ↔ m < n := fun _ _ => f.value_strictMono.lt_iff_lt
  have hpos : ∀ n, 0 < f.value n ↔ 0 < n := fun n => f.value_zero ▸ hmono 0 n
  have hnonneg : ∀ n, 0 ≤ f.value n := fun n =>
    f.value_zero ▸ f.value_strictMono.monotone n.zero_le
  cases s <;> cases t <;> simp only [key, toRat, Bool.false_eq_true, if_false, if_true]
  · rw [Int.ofNat_lt, hmono]
  · have ha := hnonneg a
    have hb := hnonneg b
    constructor
    · omega
    · intro h
      linarith
  · rcases Nat.eq_zero_or_pos a with rfl | ha
    · rw [f.value_zero, neg_zero, hpos]
      omega
    · have hva := (hpos a).mpr ha
      have hvb := hnonneg b
      exact ⟨fun _ => by linarith, fun _ => by omega⟩
  · rw [neg_lt_neg_iff, neg_lt_neg_iff, Int.ofNat_lt, hmono]

theorem lessThan_of_finite {x y : Single} (hx : x.isFinite = true) (hy : y.isFinite = true) :
    x.lessThan y = decide (x.toRat < y.toRat) := by
  simp only [lessThan, (not_nan_of_finite hx).1, (not_nan_of_finite hy).1, key_lt_key]
  rfl

end Binary

namespace Surface

/-! ## The range of a setting -/

def InUnit (x : Single) : Prop := x.isFinite = true ∧ 0 ≤ x.toRat ∧ x.toRat ≤ 1

theorem InUnit.not_nan {x : Single} (h : InUnit x) : x.isNaN = false :=
  (Binary.not_nan_of_finite h.1).1

theorem toRat_zero : (.zero : Single).toRat = 0 := Format.value_zero _

theorem toRat_one : Constant.one.toRat = 1 := by
  have hone : Constant.one = ⟨false, 1065353216⟩ := by decide +kernel
  have hparts : Format.binary32.parts 1065353216 = (8388608, -23) := by decide +kernel
  simp only [hone, Binary.toRat, Format.value, hparts]
  norm_num

/-- The check of the range lets a number pass that is not one. -/
theorem outsideUnit_eq_false_iff {x : Single} :
    outsideUnit x = false ↔ x.isNaN = true ∨ InUnit x := by
  rcases x.cases_magnitude with hx | hx | hx
  · simp [outsideUnit, Binary.lessThan, hx]
  · have hnot : ¬ InUnit x := by
      rintro ⟨hfinite, _⟩
      rw [hx] at hfinite
      simp [Binary.isFinite, Binary.infinite] at hfinite
    have hnan : x.isNaN = false := by
      rw [hx]
      simp [Binary.isNaN, Binary.infinite]
    have hout : outsideUnit x = true := by
      rw [hx]
      cases x.negative <;> decide +kernel
    simp [hnot, hnan, hout]
  · have hfinite : x.isFinite = true := by simp [Binary.isFinite, hx]
    rw [outsideUnit, Binary.lessThan_of_finite hfinite (by decide),
      Binary.lessThan_of_finite (by decide +kernel) hfinite, toRat_zero, toRat_one,
      (Binary.not_nan_of_finite hfinite).1]
    simp [InUnit, hfinite]

end Surface

/-! ## What is added to the network -/

namespace Network

variable {net : Network}

theorem wire_of_wired {type : Text} {i : Input} (h : net.Wired i) : net.wire type i = .ok i := by
  have hconnect : connect type i = i.value := by
    rw [connect, if_pos (by simpa using h.value)]
  exact wire_eq_ok.mpr ⟨h.type, h.resolves, by rw [hconnect]⟩

theorem output_new (net : Network) {n : Node} {o : Output} (hr : n.isReference = false)
    (ho : n.output? o.name = some o) :
    Network.output { net with nodes := net.nodes ++ [n] } (net.nodes.length + 1) o.name =
      .ok ⟨o.type, .node (net.nodes.length + 1) o.name⟩ := by
  have htype := outputType_eq_ok.mpr ⟨n, net.node?_new n, by rw [hr]; exact ⟨o, ho, rfl⟩⟩
  exact Outcome.bind_eq_ok.mpr ⟨o.type, htype, rfl⟩

end Network

namespace Build

theorem operation_apply {net : Network} {type : Text} {outType : TypeTag} {inputs : List Input}
    (ht : type ≠ []) (ho : outType.isValid = true) (hi : ∀ i ∈ inputs, net.Wired i) :
    operation type outType inputs net =
      (.ok ⟨outType, .node (net.nodes.length + 1) "out"⟩, { net with nodes := net.nodes ++
        [⟨net.nodes.length + 1, type, inputs, [⟨"out", outType⟩], 0⟩] }) := by
  have hwired : inputs.mapM (net.wire type) = .ok inputs :=
    Outcome.mapM_eq_ok.mpr (List.forall₂_same.mpr fun i hmem => Network.wire_of_wired (hi i hmem))
  have hvalid : ∀ o ∈ [(⟨"out", outType⟩ : Output)], o.type.isValid = true := by simpa using ho
  refine bind_eq_ok.mpr ⟨_, _, extend_eq_ok.mpr (Network.addNode_eq_ok.mpr
    ⟨ht, inputs, hwired, hvalid, rfl⟩), ?_⟩
  exact congrArg (·, _) (net.output_new (o := ⟨"out", outType⟩) rfl rfl)

end Build

namespace Surface

open Build

namespace Textured

variable (k : Textured)

def textureName : Text := if k.albedoName.isEmpty then "albedo" else k.albedoName

def sampler (id : NodeId) : Node :=
  ⟨id, "ND_image_color3", [slot "file" (.ofTexture k.textureName k.albedo)],
    [⟨"out", DataType.color3⟩], 0⟩

def shader (sampler id : NodeId) : Node :=
  ⟨id, "ND_realitykit_pbr_surfaceshader",
    [⟨"baseColor", DataType.color3, ⟨DataType.color3, .node sampler "out"⟩⟩,
     ⟨"roughness", DataType.scalarFloat, .ofParameter "roughness" (.scalar k.roughness)⟩,
     ⟨"metallic", DataType.scalarFloat, .ofParameter "metallic" (.scalar k.metallic)⟩],
    [⟨"out", DataType.token⟩], 0⟩

def extended (net : Network) : Network :=
  { net with nodes := net.nodes ++ [k.sampler (net.nodes.length + 1),
    k.shader (net.nodes.length + 1) (net.nodes.length + 2)] }

def value (net : Network) : Value := ⟨DataType.token, .node (net.nodes.length + 2) "out"⟩

end Textured

theorem image_texture (net : Network) (name : Text) (source : Option TextureSource) :
    image (.ofTexture name source) .absent DataType.color3 net =
      (.ok ⟨DataType.color3, .node (net.nodes.length + 1) "out"⟩, { net with nodes := net.nodes ++
        [⟨net.nodes.length + 1, "ND_image_color3", [slot "file" (.ofTexture name source)],
          [⟨"out", DataType.color3⟩], 0⟩] }) := by
  refine operation_apply (by decide) (by decide) fun i hi => ?_
  obtain rfl := List.mem_singleton.mp hi
  exact ⟨rfl, .inr rfl, rfl⟩

theorem pbrSurface_textured (k : Textured) {net : Network} {sampler : NodeId}
    (h : net.HasOutput sampler "out") :
    pbrSurface
        { baseColor := ⟨DataType.color3, .node sampler "out"⟩
          roughness := .ofParameter "roughness" (.scalar k.roughness)
          metallic := .ofParameter "metallic" (.scalar k.metallic) } net =
      (.ok ⟨DataType.token, .node (net.nodes.length + 1) "out"⟩,
        { net with nodes := net.nodes ++ [k.shader sampler (net.nodes.length + 1)] }) := by
  refine operation_apply (by decide) (by decide) fun i hi => ?_
  replace hi : i ∈ (k.shader sampler 0).inputs := hi
  simp only [Textured.shader, List.mem_cons, List.not_mem_nil, or_false] at hi
  rcases hi with rfl | rfl | rfl
  · exact ⟨rfl, .inr rfl, h⟩
  · exact ⟨rfl, .inr rfl, rfl⟩
  · exact ⟨rfl, .inr rfl, rfl⟩

theorem textured_apply {k : Textured} (hp : k.problem? = none) (ht : k.tint = .absent)
    (net : Network) : textured k net = (.ok (.ok (Textured.value net)), k.extended net) := by
  have hsampled := image_texture net k.textureName k.albedo
  have hout : Network.HasOutput { net with nodes := net.nodes ++ [k.sampler (net.nodes.length + 1)] }
      (net.nodes.length + 1) "out" := Network.hasOutput_new rfl (List.mem_singleton.mpr rfl)
  have hsurface := pbrSurface_textured k hout
  unfold textured
  rw [hp, ht]
  refine bind_eq_ok.mpr ⟨_, _, hsampled, bind_eq_ok.mpr ⟨_, _, rfl, ?_⟩⟩
  refine bind_eq_ok.mpr ⟨_, _, hsurface, ?_⟩
  simp [pure_apply, Textured.extended, Textured.value]

namespace Textured

variable (k : Textured) (net : Network)

theorem node?_sampler : (k.extended net).node? (net.nodes.length + 1) =
    some (k.sampler (net.nodes.length + 1)) := by
  simp [Network.node?, extended]

theorem node?_shader : (k.extended net).node? (net.nodes.length + 2) =
    some (k.shader (net.nodes.length + 1) (net.nodes.length + 2)) := by
  simp [Network.node?, extended]

theorem reachable_extended : (k.extended net).reachable [net.nodes.length + 2] =
    .ok [net.nodes.length + 2, net.nodes.length + 1] := by
  have hfirst : Fifo.Step (k.extended net) (Fifo.start [net.nodes.length + 2])
      ⟨[net.nodes.length + 1], {net.nodes.length + 2}, [net.nodes.length + 2]⟩ := by
    have hoffer : Fifo.offer ⟨[], {net.nodes.length + 2}, [net.nodes.length + 2]⟩
        (net.nodes.length + 1) =
        ⟨[net.nodes.length + 1], {net.nodes.length + 2}, [net.nodes.length + 2]⟩ := by
      simp [Fifo.offer]
    rw [Fifo.start_spec, ← hoffer]
    exact .pop (k.node?_shader net)
  have hlast : Fifo.Step (k.extended net)
      ⟨[net.nodes.length + 1], {net.nodes.length + 2}, [net.nodes.length + 2]⟩
      ⟨[], {net.nodes.length + 1, net.nodes.length + 2},
        [net.nodes.length + 2, net.nodes.length + 1]⟩ := .pop (k.node?_sampler net)
  exact Network.reachable_of_run (Relation.ReflTransGen.refl.tail hfirst |>.tail hlast)

theorem reachableNodes_extended :
    (k.extended net).reachableNodes [net.nodes.length + 2] =
      .ok [k.shader (net.nodes.length + 1) (net.nodes.length + 2),
        k.sampler (net.nodes.length + 1)] := by
  refine Outcome.bind_eq_ok.mpr ⟨_, k.reachable_extended net, Outcome.mapM_eq_ok.mpr ?_⟩
  exact .cons (Network.node_eq_ok.mpr (k.node?_shader net))
    (.cons (Network.node_eq_ok.mpr (k.node?_sampler net)) .nil)

/-! ## The material with the surface -/

def interface : List (Text × Constant) :=
  [("roughness", .scalar k.roughness), ("metallic", .scalar k.metallic),
   (k.textureName, .asset k.albedo)]

def NameTaken : Prop := k.textureName = "roughness" ∨ k.textureName = "metallic"

/-- The other default of a parameter with the name of the texture. -/
def rival : Constant :=
  .scalar (if k.textureName = "roughness" then k.roughness else k.metallic)

def parameters : List Parameter := k.interface.map fun d => ⟨d.1, some d.2⟩

theorem parameters_extended (policy : ParameterPolicy) :
    (k.extended net).parameters policy [net.nodes.length + 2] =
      .ok (k.parameters.foldl (Collected.add policy) ⟨[], []⟩) := by
  rw [Network.parameters, k.reachableNodes_extended net]
  rfl

/-- The uses of the parameters that have names of their own. -/
def numeric : List Parameter :=
  [⟨"roughness", some (.scalar k.roughness)⟩, ⟨"metallic", some (.scalar k.metallic)⟩]

theorem collected_eq : k.parameters.foldl (Collected.add .strict) ⟨[], []⟩ =
    Collected.add .strict ⟨k.numeric, []⟩ ⟨k.textureName, some (.asset k.albedo)⟩ := rfl

variable {k}

theorem collected_of_free (h : ¬ k.NameTaken) :
    k.parameters.foldl (Collected.add .strict) ⟨[], []⟩ = ⟨k.parameters, []⟩ := by
  obtain ⟨hr, hm⟩ := not_or.mp h
  have hfind : k.numeric.find? (·.name = k.textureName) = none := by
    simp [numeric, Ne.symm hr, Ne.symm hm]
  rw [collected_eq, Collected.add, hfind]
  rfl

theorem collected_of_taken (h : k.NameTaken) :
    k.parameters.foldl (Collected.add .strict) ⟨[], []⟩ =
      ⟨k.numeric, [⟨k.textureName, some k.rival, some (.asset k.albedo)⟩]⟩ := by
  have hfind : k.numeric.find? (·.name = k.textureName) = some ⟨k.textureName, some k.rival⟩ := by
    rw [rival]
    rcases h with h | h <;> rw [h] <;> rfl
  rw [collected_eq, Collected.add, hfind]
  rfl

variable (k)

def material (name : Text) (net : Network) : Stage.Material := ⟨name, value net, .absent, []⟩

theorem rootNodes_value : rootNodes [value net, .absent] = [net.nodes.length + 2] := rfl

theorem unlistedGraphs_extended (name : Text) :
    Stage.unlistedGraphs (k.extended net) (material name net) [value net, .absent] = .ok [] := by
  rw [Stage.unlistedGraphs, rootNodes_value, k.reachableNodes_extended net]
  rfl

theorem faults_extended : (k.extended net).faults [value net, .absent] = .ok [] := by
  rw [Network.faults, rootNodes_value, k.reachableNodes_extended net]
  rfl

open Stage

variable {settings : Settings} {name : Text}

theorem check_extended (name : Text) {texts : List Text} {c : Collected}
    (hc : k.parameters.foldl (Collected.add settings.policy) ⟨[], []⟩ = c)
    (ht : c.conflicts.mapM Conflict.message = .ok texts) :
    check settings (k.extended net) (material name net) = .ok (texts, c.parameters) := by
  have hroots : materialRoots (material name net) = [net.nodes.length + 2] := rfl
  refine Outcome.bind_eq_ok.mpr ⟨([], []), rfl, ?_⟩
  refine Outcome.bind_eq_ok.mpr ⟨[], k.unlistedGraphs_extended net name, ?_⟩
  refine Outcome.bind_eq_ok.mpr ⟨[], k.faults_extended net, ?_⟩
  refine Outcome.bind_eq_ok.mpr ⟨c, ?_, Outcome.bind_eq_ok.mpr ⟨texts, ht, rfl⟩⟩
  rw [hroots, k.parameters_extended net, hc]

def declarations : List Declaration :=
  k.interface.map fun d => ⟨d.2.dataType, .inputs, d.1, .literal d.2.literal⟩

theorem materialEntity_extended (name : Text) : ∃ nodes,
    (renderer (k.extended net)).materialEntity (k.extended net) (material name net) k.parameters =
      .ok ⟨name, k.declarations ++
        [⟨DataType.token, .outputs, "mtlx:surface",
            .connection (.output name (net.nodes.length + 2) "out")⟩,
         ⟨DataType.token, .outputs, "realitykit:vertex", .unset⟩], nodes⟩ := by
  obtain ⟨nodes, hnodes⟩ : ∃ nodes,
      (renderer (k.extended net)).nodeBlocks (k.extended net) name [net.nodes.length + 2] =
        .ok nodes :=
    ⟨_, nodeBlocks_eq_ok.mpr ⟨_, k.reachable_extended net, .cons ⟨_, k.node?_shader net, rfl⟩
      (.cons ⟨_, k.node?_sampler net, rfl⟩ .nil)⟩⟩
  refine ⟨nodes, Outcome.bind_eq_ok.mpr ⟨k.declarations, rfl, ?_⟩⟩
  refine Outcome.bind_eq_ok.mpr ⟨_, rfl, Outcome.bind_eq_ok.mpr ⟨_, rfl, ?_⟩⟩
  exact Outcome.bind_eq_ok.mpr ⟨nodes, hnodes, rfl⟩

theorem compile_of_taken (h : k.NameTaken) (hp : settings.policy = .strict) (hn : name ≠ []) :
    compile settings (k.extended net) (material name net) =
      .error (.faults [Conflict.text k.textureName k.rival (.asset k.albedo)]) := by
  have hmessages := Outcome.mapM_eq_ok.mpr
    (.cons (Conflict.message_eq k.textureName k.rival (.asset k.albedo)) .nil)
  have hcheck := k.check_extended net name (hp ▸ collected_of_taken h) hmessages
  rw [compile_checked hn hcheck]
  rfl

theorem compile_of_free {source : TextureSource} (hk : k.albedo = some source) (h : ¬ k.NameTaken)
    (hp : settings.policy = .strict) (hn : name ≠ []) :
    ∃ c, compile settings (k.extended net) (material name net) = .ok c ∧
      c.document.material.slots.filter (·.side = .inputs) = k.declarations ∧
      c.textures = [(k.textureName, source)] := by
  obtain ⟨nodes, hentity⟩ := k.materialEntity_extended net name
  have hnone : ([] : List Conflict).mapM Conflict.message = .ok [] := rfl
  have hcheck := k.check_extended net name (hp ▸ collected_of_free h) hnone
  have htextures : boundTextures k.parameters = [(k.textureName, source)] := by
    rw [parameters, interface, hk]
    rfl
  rw [compile_checked hn hcheck, if_pos List.isEmpty_nil]
  exact ⟨_, Outcome.mapError_eq_ok.mpr (build_eq_ok.mpr ⟨_, hentity, [], rfl, rfl⟩), rfl, htextures⟩

end Textured

open Stage

theorem problem?_of_accepted {k : Textured} {net net' : Network} {v : Value}
    (h : textured k net = (.ok (.ok v), net')) : k.problem? = none := by
  unfold textured at h
  cases hp : k.problem? with
  | none => rfl
  | some p =>
    rw [hp] at h
    cases h

theorem problem?_eq_none_iff {k : Textured} {source : TextureSource} (hk : k.albedo = some source)
    (ht : k.tint = .absent) : k.problem? = none ↔
      (k.roughness.isNaN = true ∨ InUnit k.roughness) ∧
      (k.metallic.isNaN = true ∨ InUnit k.metallic) := by
  rw [← outsideUnit_eq_false_iff, ← outsideUnit_eq_false_iff, Textured.problem?, hk, ht]
  cases outsideUnit k.roughness <;> cases outsideUnit k.metallic <;>
    simp [Value.absent, Value.isAbsent]

/-- A setting that was accepted lies in its range unless it is not a number, and the material with the
surface compiles, with the parameters of the surface and its texture, unless the texture has the name
of another parameter. -/
theorem textured_outcome (settings : Settings) {k : Textured} {source : TextureSource}
    {net net' : Network} {v : Value} {name : Text} (hk : k.albedo = some source)
    (ht : k.tint = .absent) (h : textured k net = (.ok (.ok v), net')) (hn : name ≠ []) :
    (InUnit k.roughness ↔ k.roughness.isNaN = false) ∧
    (InUnit k.metallic ↔ k.metallic.isNaN = false) ∧
    ((∃ c, compile { settings with policy := .strict } net' ⟨name, v, .absent, []⟩ = .ok c ∧
      c.document.material.slots.filter (·.side = .inputs) = k.declarations ∧
      c.textures = [(k.textureName, source)]) ↔ ¬ k.NameTaken) ∧
    (k.NameTaken → compile { settings with policy := .strict } net' ⟨name, v, .absent, []⟩ =
      .error (.faults [Conflict.text k.textureName k.rival (.asset k.albedo)])) := by
  have hp := problem?_of_accepted h
  obtain ⟨hrough, hmetal⟩ := (problem?_eq_none_iff hk ht).mp hp
  have hunit : ∀ {x : Single}, x.isNaN = true ∨ InUnit x → (InUnit x ↔ x.isNaN = false) :=
    fun hx => ⟨InUnit.not_nan, fun hnan => hx.resolve_left (by simp [hnan])⟩
  rw [textured_apply hp ht] at h
  cases h
  refine ⟨hunit hrough, hunit hmetal, ⟨?_, ?_⟩, ?_⟩
  · rintro ⟨c, hc, _⟩ htaken
    cases (k.compile_of_taken net htaken rfl hn).symm.trans hc
  · exact fun hfree => k.compile_of_free net hk hfree rfl hn
  · exact fun htaken => k.compile_of_taken net htaken rfl hn

def mislabelled : Textured := ⟨some (.file "albedo.png"), "roughness", .absent, .nan, .zero⟩

theorem mislabelled_outcome : ∃ v net', textured mislabelled .empty = (.ok (.ok v), net') ∧
    ¬ InUnit mislabelled.roughness ∧
    ∀ c, compile .standard net' ⟨"Painted", v, .absent, []⟩ ≠ .ok c := by
  have haccepted : textured mislabelled .empty =
      (.ok (.ok (Textured.value .empty)), mislabelled.extended .empty) := rfl
  obtain ⟨hunit, _, _, hclash⟩ := textured_outcome .standard rfl rfl haccepted
    (show ("Painted" : Text) ≠ [] by decide)
  refine ⟨_, _, haccepted, fun h => ?_, fun c hc => ?_⟩
  · exact absurd (hunit.mp h) (by decide +kernel)
  · cases (hclash (Or.inl rfl)).symm.trans hc

end Surface
end ShaderGraph
