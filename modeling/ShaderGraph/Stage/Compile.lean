import ShaderGraph.Network.Collect
import ShaderGraph.Stage.Document

/-!
# Compiling a material

`compile` checks a material and everything it reaches and builds its document. All problems are
collected before any of the document is built. How values are written and constants printed is an
argument of the emitter, a `Renderer`, and `renderer` is the one that compilations use.
-/
namespace ShaderGraph.Stage

structure Material where
  name : Text
  surface : Value
  geometryModifier : Value
  nodeGraphs : List GraphId
deriving DecidableEq, Repr

structure Settings where
  /-- The name of the root, `Root` if it is empty. -/
  rootName : Text
  metersPerUnit : Single
  upAxis : Text
  policy : ParameterPolicy
deriving DecidableEq, Repr

namespace Settings

def standard : Settings := ⟨"Root", Constant.one, "Y", .strict⟩

def blank : Settings := ⟨[], .zero, [], .strict⟩

def root (s : Settings) : Text := if s.rootName.isEmpty then "Root" else s.rootName

end Settings

inductive CompileError where
  | emptyName
  /-- Every problem found, in order of discovery. -/
  | faults (messages : List Text)
  | misuse (m : Misuse)
deriving DecidableEq, Repr

def faultsMessage : List Text → Text
  | [m] => "shader graph error: " ++ m
  | ms => Text.ofNat ms.length ++ " shader graph errors: " ++ Text.join "; " ms

def CompileError.message? : CompileError → Option Text
  | .emptyName => some "empty material name"
  | .faults ms => some (faultsMessage ms)
  | .misuse m => m.message?

structure Compiled where
  document : Document
  textures : List (Text × TextureSource)
deriving DecidableEq, Repr

def Compiled.lines (c : Compiled) : List Text := c.document.lines

def Compiled.text (c : Compiled) : Text := joinLines c.lines

def outputFaults (slot : Text) (v : Value) : List Text :=
  if v.isAbsent || !v.faultMessage.isEmpty then []
  else if v.node?.isNone then ["material " ++ slot ++ " must be a node output"]
  else if v.type ≠ DataType.token then
    ["material " ++ slot ++ " must be a token, got " ++ v.type.name]
  else []

def listedGraphs (net : Network) (material : Text) (earlier : List GraphId) :
    List GraphId → Except Misuse (List Text × List Value)
  | [] => .ok ([], [])
  | id :: ids => do
    let g ← net.graph id
    let (faults, values) ← listedGraphs net material (id :: earlier) ids
    if id ∈ earlier then
      return (("node graph " ++ Text.quote g.name ++ " listed more than once") :: faults, values)
    else
      let named := if g.name = material then
          ["node graph " ++ Text.quote g.name ++ " has the same name as the material"]
        else []
      return (named ++ faults, g.outputValues ++ values)

def unlistedGraphs (net : Network) (mat : Material) (values : List Value) :
    Except Misuse (List Text) := do
  let reached ← net.reachableNodes (rootNodes values)
  let used := (reached.filter Node.isReference).map (·.graph)
  (discover mat.nodeGraphs used).mapM fun id => do
    let g ← net.graph id
    return "node graph " ++ Text.quote g.name ++ " is referenced but not listed in material " ++
      Text.quote mat.name

def materialRoots (mat : Material) : List NodeId := rootNodes [mat.surface, mat.geometryModifier]

def check (settings : Settings) (net : Network) (mat : Material) :
    Except Misuse (List Text × List Parameter) := do
  let (listed, outputs) ← listedGraphs net mat.name [] mat.nodeGraphs
  let values := mat.surface :: mat.geometryModifier :: outputs
  let unlisted ← unlistedGraphs net mat values
  let faults ← net.faults values
  let collected ← net.parameters settings.policy (materialRoots mat)
  let conflicts ← collected.conflicts.mapM Conflict.message
  return (outputFaults "surface" mat.surface ++
    outputFaults "geometry modifier" mat.geometryModifier ++
    listed ++ unlisted ++ faults ++ conflicts, collected.parameters)

/-- What a slot is set to by a value, as seen from inside an entity. -/
def assignment (net : Network) (entity : Text) (v : Value) : Except Misuse Assignment :=
  match v.source with
  | .constant (some c) => .ok (.literal c.literal)
  | .constant none => .error .constantMissing
  | .node id slot => .ok (.connection (.output entity id slot))
  | .graphInput id input => do
    let g ← net.graph id
    return .connection (.input g.name input)
  | .parameter name _ => .ok (.connection (.input entity name))
  | .fault message => .ok (.literal (Text.quote message))
  | .absent => .error .sourceMissing

/-- How an emitter writes a value, as seen from inside an entity, and how it prints a constant. -/
structure Renderer where
  reference : Text → Value → Except Misuse Assignment
  literal : Option Constant → Except Misuse Text

def renderer (net : Network) : Renderer where
  reference := assignment net
  literal c := do
    let c ← required c
    return c.literal

@[simp] theorem renderer_reference (net : Network) : (renderer net).reference = assignment net :=
  rfl

@[simp] theorem renderer_literal_some (net : Network) (c : Constant) :
    (renderer net).literal (some c) = .ok c.literal := rfl

def outputDeclaration (o : Output) : Declaration := ⟨o.type, .outputs, o.name, .unset⟩

def nodeKind (net : Network) (n : Node) : Except Misuse NodeKind :=
  if n.isReference then do
    let g ← net.graph n.graph
    return .instanceOf g.name
  else .ok (.shader n.type)

def boundTextures (parameters : List Parameter) : List (Text × TextureSource) :=
  parameters.filterMap fun p => (p.default.bind Constant.source?).map (p.name, ·)

namespace Renderer

variable (r : Renderer)

def inputAssignment (entity : Text) (v : Value) : Except Misuse Assignment :=
  if v.isAbsent then .ok .unset else r.reference entity v

def inputDeclaration (entity : Text) (i : Input) : Except Misuse Declaration := do
  let a ← r.inputAssignment entity i.value
  return ⟨i.type, .inputs, i.name, a⟩

def nodeBlock (net : Network) (entity : Text) (id : NodeId) (n : Node) :
    Except Misuse NodeBlock := do
  let kind ← nodeKind net n
  let inputs ← n.inputs.mapM (r.inputDeclaration entity)
  return ⟨id, kind, inputs ++ n.outputs.map outputDeclaration⟩

def nodeBlocks (net : Network) (entity : Text) (roots : List NodeId) :
    Except Misuse (List NodeBlock) := do
  (← net.reachable roots).mapM fun id => do
    let n ← net.node id
    r.nodeBlock net entity id n

def parameterDeclaration (p : Parameter) : Except Misuse Declaration := do
  let c ← required p.default
  let text ← r.literal p.default
  return ⟨c.dataType, .inputs, p.name, .literal text⟩

def slotAssignment (entity : Text) (v : Value) : Except Misuse Assignment :=
  if v.node?.isSome then r.reference entity v else .ok .unset

def slotDeclaration (entity slot : Text) (v : Value) : Except Misuse Declaration := do
  let a ← r.slotAssignment entity v
  return ⟨DataType.token, .outputs, slot, a⟩

def materialEntity (net : Network) (mat : Material) (parameters : List Parameter) :
    Except Misuse Entity := do
  let inputs ← parameters.mapM r.parameterDeclaration
  let surface ← r.slotDeclaration mat.name "mtlx:surface" mat.surface
  let vertex ← r.slotDeclaration mat.name "realitykit:vertex" mat.geometryModifier
  let nodes ← r.nodeBlocks net mat.name (materialRoots mat)
  return ⟨mat.name, inputs ++ [surface, vertex], nodes⟩

def graphInputDeclaration (i : GraphInput) : Except Misuse Declaration := do
  let c ← i.defaultValue
  let text ← r.literal (some c)
  return ⟨i.type, .inputs, i.name, .literal text⟩

/-- An output of a graph is declared first and then set. -/
def graphOutputDeclarations (entity : Text) (o : GraphOutput) :
    Except Misuse (List Declaration) := do
  let a ← r.reference entity o.value
  return [⟨o.value.type, .outputs, o.name, .unset⟩, ⟨o.value.type, .outputs, o.name, a⟩]

def graphEntity (net : Network) (id : GraphId) : Except Misuse Entity := do
  let g ← net.graph id
  let inputs ← g.inputs.mapM r.graphInputDeclaration
  let outputs ← g.outputs.mapM (r.graphOutputDeclarations g.name)
  let nodes ← r.nodeBlocks net g.name (rootNodes g.outputValues)
  return ⟨g.name, inputs ++ outputs.flatten, nodes⟩

def build (settings : Settings) (net : Network) (mat : Material) (parameters : List Parameter) :
    Except Misuse Compiled := do
  let material ← r.materialEntity net mat parameters
  let graphs ← mat.nodeGraphs.mapM (r.graphEntity net)
  let header := ⟨settings.root, settings.metersPerUnit, settings.upAxis⟩
  return ⟨⟨header, material, graphs⟩, boundTextures parameters⟩

def compile (settings : Settings) (net : Network) (mat : Material) :
    Except CompileError Compiled := do
  if mat.name.isEmpty then throw .emptyName
  let (faults, parameters) ← (check settings net mat).mapError .misuse
  if faults.isEmpty then (r.build settings net mat parameters).mapError .misuse
  else throw (.faults faults)

end Renderer

def compile (settings : Settings) (net : Network) (mat : Material) : Except CompileError Compiled :=
  (renderer net).compile settings net mat

/-- Lines after a compilation was added to them, the textures to bind, and why nothing was added. -/
structure Appended where
  lines : List Text
  textures : List (Text × TextureSource)
  error : Option CompileError
deriving DecidableEq, Repr

def appendLines (settings : Settings) (dst : List Text) (net : Network) (mat : Material) :
    Except Misuse Appended :=
  match compile settings net mat with
  | .ok c => .ok ⟨dst ++ c.lines, c.textures, none⟩
  | .error (.misuse m) => .error m
  | .error e => .ok ⟨dst, [], some e⟩

structure Report where
  text : Text
  textures : List (Text × TextureSource)
  messages : List Text
deriving DecidableEq, Repr

def report (settings : Settings) (net : Network) (mat : Material) : Except Misuse Report :=
  match compile settings net mat with
  | .ok c => .ok ⟨c.text, c.textures, []⟩
  | .error (.misuse m) => .error m
  | .error (.faults messages) => .ok ⟨[], [], messages⟩
  | .error .emptyName => .ok ⟨[], [], CompileError.emptyName.message?.toList⟩

end ShaderGraph.Stage
