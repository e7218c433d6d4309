import Mathlib.Data.List.Basic
import ShaderGraph.Stage.Compile

/-!
# Renaming nodes

A renaming of handles acts on everything that refers to nodes and leaves all else alone: types,
parameters, faults and messages do not change, and an injective renaming also commutes with leaving
out what was met before. The text of a document with its nodes renamed is that of the document with
other names for its nodes.
-/
namespace ShaderGraph

section

variable (ρ : NodeId → NodeId)

def Source.rename : Source → Source
  | .node id output => .node (ρ id) output
  | s => s

def Value.rename (v : Value) : Value := ⟨v.type, v.source.rename ρ⟩

def Input.rename (i : Input) : Input := ⟨i.name, i.type, i.value.rename ρ⟩

def Node.rename (n : Node) : Node :=
  ⟨ρ n.id, n.type, n.inputs.map (Input.rename ρ), n.outputs, n.graph⟩

def GraphOutput.rename (o : GraphOutput) : GraphOutput := ⟨o.name, o.value.rename ρ⟩

def NodeGraph.rename (g : NodeGraph) : NodeGraph :=
  ⟨g.id, g.name, g.inputs, g.outputs.map (GraphOutput.rename ρ)⟩

def Stage.Material.rename (m : Stage.Material) : Stage.Material :=
  ⟨m.name, m.surface.rename ρ, m.geometryModifier.rename ρ, m.nodeGraphs⟩

/-! ## What is left alone -/

variable (v : Value) (n : Node)

@[simp] theorem Value.isAbsent_rename : (v.rename ρ).isAbsent = v.isAbsent := by
  obtain ⟨type, source⟩ := v
  cases source <;> rfl

@[simp] theorem Value.fault?_rename : (v.rename ρ).fault? = v.fault? := by
  obtain ⟨type, source⟩ := v
  cases source <;> rfl

@[simp] theorem Value.parameter?_rename : (v.rename ρ).parameter? = v.parameter? := by
  obtain ⟨type, source⟩ := v
  cases source <;> rfl

@[simp] theorem Value.node?_rename : (v.rename ρ).node? = v.node?.map ρ := by
  obtain ⟨type, source⟩ := v
  cases source <;> rfl

@[simp] theorem Value.faultMessage_rename : (v.rename ρ).faultMessage = v.faultMessage := by
  rw [faultMessage, fault?_rename, faultMessage]

@[simp] theorem Node.sources_rename : (n.rename ρ).sources = n.sources.map ρ := by
  simp [sources, rename, Input.rename, List.filterMap_map, List.map_filterMap, Function.comp_def]

@[simp] theorem Node.parameters_rename : (n.rename ρ).parameters = n.parameters := by
  simp [parameters, rename, Input.rename, List.filterMap_map]

@[simp] theorem Node.faults_rename : (n.rename ρ).faults = n.faults := by
  simp [faults, rename, Input.rename, List.filterMap_map, Function.comp_def]

@[simp] theorem NodeGraph.outputValues_rename (g : NodeGraph) :
    (g.rename ρ).outputValues = g.outputValues.map (Value.rename ρ) := by
  simp [outputValues, rename, GraphOutput.rename, Function.comp_def]

theorem Stage.outputFaults_rename (slot : Text) :
    outputFaults slot (v.rename ρ) = outputFaults slot v := by
  have htype : (v.rename ρ).type = v.type := rfl
  simp [outputFaults, htype]

end

/-! ## Renaming by an injection -/

theorem discover_map {ρ : NodeId → NodeId} (hρ : Function.Injective ρ) (seen ids : List NodeId) :
    discover (seen.map ρ) (ids.map ρ) = (discover seen ids).map ρ := by
  induction ids generalizing seen with
  | nil => rfl
  | cons id ids ih =>
    simp only [List.map_cons, discover, List.mem_map_of_injective hρ]
    split
    · exact ih seen
    · rw [List.map_cons, ← ih (id :: seen), List.map_cons]

theorem rootNodes_rename {ρ : NodeId → NodeId} (hρ : Function.Injective ρ) (values : List Value) :
    rootNodes (values.map (Value.rename ρ)) = (rootNodes values).map ρ := by
  have hroots : (values.map (Value.rename ρ)).filterMap Value.node? =
      (values.filterMap Value.node?).map ρ := by
    simp [List.filterMap_map, List.map_filterMap]
  rw [rootNodes, hroots]
  exact discover_map hρ [] _

/-! ## Two renamings, and none -/

section

variable (ρ τ : NodeId → NodeId)

theorem Value.rename_rename (v : Value) : (v.rename ρ).rename τ = v.rename (τ ∘ ρ) := by
  obtain ⟨type, source⟩ := v
  cases source <;> rfl

theorem Node.rename_rename (n : Node) : (n.rename ρ).rename τ = n.rename (τ ∘ ρ) := by
  simp [rename, Input.rename, Value.rename_rename]

theorem NodeGraph.rename_rename (g : NodeGraph) : (g.rename ρ).rename τ = g.rename (τ ∘ ρ) := by
  simp [rename, GraphOutput.rename, Value.rename_rename]

theorem Stage.Material.rename_rename (m : Material) : (m.rename ρ).rename τ = m.rename (τ ∘ ρ) := by
  simp [rename, Value.rename_rename]

variable {ρ} (h : ∀ id, ρ id = id)
include h

theorem Value.rename_eq_self (v : Value) : v.rename ρ = v := by
  obtain ⟨type, source⟩ := v
  cases source with
  | node id slot => simp [rename, Source.rename, h]
  | _ => rfl

theorem Node.rename_eq_self (n : Node) : n.rename ρ = n := by
  have hinputs : n.inputs.map (Input.rename ρ) = n.inputs := by
    refine List.map_id'' (fun i => ?_) _
    rw [Input.rename, Value.rename_eq_self h]
  rw [rename, h, hinputs]

theorem NodeGraph.rename_eq_self (g : NodeGraph) : g.rename ρ = g := by
  have houtputs : g.outputs.map (GraphOutput.rename ρ) = g.outputs := by
    refine List.map_id'' (fun o => ?_) _
    rw [GraphOutput.rename, Value.rename_eq_self h]
  rw [rename, houtputs]

theorem Stage.Material.rename_eq_self (m : Material) : m.rename ρ = m := by
  rw [rename, Value.rename_eq_self h, Value.rename_eq_self h]

end

/-! ## Documents -/

namespace Stage

section

variable (ρ : NodeId → NodeId)

def Target.rename : Target → Target
  | .output entity node slot => .output entity (ρ node) slot
  | .input entity slot => .input entity slot

def Assignment.rename : Assignment → Assignment
  | .connection target => .connection (target.rename ρ)
  | a => a

def Declaration.rename (d : Declaration) : Declaration :=
  { d with assignment := d.assignment.rename ρ }

def NodeBlock.rename (b : NodeBlock) : NodeBlock :=
  ⟨ρ b.id, b.kind, b.slots.map (Declaration.rename ρ)⟩

def Entity.rename (e : Entity) : Entity :=
  ⟨e.name, e.slots.map (Declaration.rename ρ), e.nodes.map (NodeBlock.rename ρ)⟩

def Document.rename (d : Document) : Document :=
  ⟨d.header, d.material.rename ρ, d.graphs.map (Entity.rename ρ)⟩

def Compiled.rename (c : Compiled) : Compiled := ⟨c.document.rename ρ, c.textures⟩

end

section

variable {ρ : NodeId → NodeId} (h : ∀ id, ρ id = id)
include h

theorem Declaration.rename_eq_self (d : Declaration) : d.rename ρ = d := by
  obtain ⟨type, side, name, _ | t | ⟨entity, node, slot⟩ | ⟨entity, slot⟩⟩ := d
  · rfl
  · rfl
  · simp [rename, Assignment.rename, Target.rename, h]
  · rfl

theorem Entity.rename_eq_self (e : Entity) : e.rename ρ = e := by
  have hnodes : e.nodes.map (NodeBlock.rename ρ) = e.nodes := by
    refine List.map_id'' (fun b => ?_) _
    rw [NodeBlock.rename, h, List.map_id'' (Declaration.rename_eq_self h)]
  rw [rename, hnodes, List.map_id'' (Declaration.rename_eq_self h)]

theorem Compiled.rename_eq_self (c : Compiled) : c.rename ρ = c := by
  rw [rename, Document.rename, Entity.rename_eq_self h, List.map_id'' (Entity.rename_eq_self h)]

end

/-! ## Texts -/

section

variable (label : NodeId → Text) (root : Text) (ρ : NodeId → NodeId)

theorem Target.path_rename (t : Target) :
    (t.rename ρ).path label root = t.path (label ∘ ρ) root := by
  cases t <;> rfl

theorem Declaration.line_rename (d : Declaration) :
    (d.rename ρ).line label root = d.line (label ∘ ρ) root := by
  obtain ⟨type, side, name, _ | t | target⟩ := d
  · rfl
  · rfl
  · rw [line, line]
    exact congrArg (fun p => _ ++ (_ ++ p)) (target.path_rename label root ρ)

theorem NodeBlock.lines_rename (b : NodeBlock) :
    (b.rename ρ).lines label root = b.lines (label ∘ ρ) root := by
  have hopening : (b.rename ρ).opening label root = b.opening (label ∘ ρ) root := rfl
  have hslots : (b.rename ρ).slots = b.slots.map (Declaration.rename ρ) := rfl
  rw [lines, lines, hopening, hslots, List.map_map]
  simp only [Function.comp_def, Declaration.line_rename]

theorem Entity.body_rename (e : Entity) :
    (e.rename ρ).body label root = e.body (label ∘ ρ) root := by
  simp only [body, rename, List.map_map, List.flatMap_map, Function.comp_def,
    Declaration.line_rename, NodeBlock.lines_rename]

theorem Document.linesBy_rename (d : Document) :
    (d.rename ρ).linesBy label = d.linesBy (label ∘ ρ) := by
  have hgraph : ∀ e : Entity, (e.rename ρ).graphLines label d.header.root =
      e.graphLines (label ∘ ρ) d.header.root := by
    intro e
    rw [Entity.graphLines, Entity.body_rename]
    rfl
  have hmaterial : (d.material.rename ρ).materialLines label d.header.root =
      d.material.materialLines (label ∘ ρ) d.header.root := by
    rw [Entity.materialLines, Entity.body_rename]
    rfl
  have hgraphs : (d.rename ρ).graphs = d.graphs.map (Entity.rename ρ) := rfl
  have hopening : (d.rename ρ).opening = d.opening := rfl
  rw [linesBy, linesBy, hopening, hgraphs, List.flatMap_map]
  simp only [rename, hmaterial, hgraph]

end

theorem Document.lines_rename (ρ : NodeId → NodeId) (d : Document) :
    (d.rename ρ).lines = d.linesBy (nodeName ∘ ρ) := by
  rw [lines, linesBy_rename]

end Stage
end ShaderGraph
