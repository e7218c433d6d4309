import ShaderGraph.Blueprint.Decode
import ShaderGraph.Blueprint.Scope
import ShaderGraph.Stage.Compile
import ShaderGraph.Text.Path

/-!
# Loading a blueprint

`load` builds the network and the materials that a blueprint declares: first the parameters, then the
node graphs in file order, then the nodes of the top level, then the materials. Loading goes on after
a fault and fails at the end.
-/
namespace ShaderGraph.Blueprint

open Config (Expr Span)
open Load

def Parameter.constant (base : Text) (p : Parameter) : Except (List Diagnostic) Constant :=
  let refused (fault : Fault) (subject : Span) : Except (List Diagnostic) Constant :=
    .error [⟨fault, some subject⟩]
  match DataType.parse p.type with
  | .error cause => refused (.parameterType p.name cause) p.extra.span
  | .ok .asset =>
    match p.default with
    | some e => refused (.assetDefault p.name) e.span
    | none =>
      if p.texture.isEmpty then .ok (.asset none)
      else if Path.isAbsolute p.texture then .ok (.asset (some (.file p.texture)))
      else .ok (.asset (some (.file (Path.join base p.texture))))
  | .ok type =>
    if !p.texture.isEmpty then refused (.unexpectedTexture p.name type) p.extra.span
    else literal type p.default p.colorSpace p.extra.span

def declareParameters (base : Text) :
    List (Text × Constant) → List Parameter → Load (List (Text × Constant))
  | done, [] => return done
  | done, p :: rest => do
    reportUnsupported p.extra
    if (done.lookup p.name).isSome then
      report (.parameterTaken p.name) p.extra.span
      declareParameters base done rest
    else match ← reported (p.constant base) with
      | none => declareParameters base done rest
      | some c => declareParameters base (done ++ [(p.name, c)]) rest

def GraphInput.declare (graph : GraphId) (graphName : Text) (i : GraphInput) : Load Unit := do
  reportUnsupported i.extra
  let g ← perform (.inspect (·.graph graph))
  if (g.input? i.name).isSome then report (.graphInputTaken graphName i.name) i.extra.span
  else match DataType.parse i.type with
    | .error cause => report (.graphInputType graphName i.name cause) i.extra.span
    | .ok type =>
      if i.default.isNone && i.colorSpace.isEmpty then
        let _ ← perform (.graphInput graph i.name type)
      else match ← reported (literal type i.default i.colorSpace i.extra.span) with
        | none => return ()
        | some c =>
          let _ ← perform (.graphInputDefault graph i.name c)

def GraphOutput.declare (s : Scope) (graph : GraphId) (graphName : Text) (o : GraphOutput) :
    Load Unit := do
  let subject := (o.value.map (·.span)).getD o.span
  let g ← perform (.inspect (·.graph graph))
  if (g.output? o.name).isSome then report (.graphOutputTaken graphName o.name) subject
  else if o.type.isEmpty then
    match ← s.finalValue o.value none with
    | none => return ()
    | some v => perform (.graphOutput graph o.name v)
  else match DataType.parse o.type with
    | .error cause => report (.graphOutputType graphName o.name cause) subject
    | .ok type =>
      match ← s.finalValue o.value type with
      | none => return ()
      | some v =>
        if v.type ≠ type then report (.graphOutputMismatch graphName o.name type v.type) subject
        else perform (.graphOutput graph o.name v)

def Graph.declare (b : Graph) : Load Unit := do
  reportUnsupported b.extra
  if b.name.isEmpty then report .graphName b.extra.span
  else if ((← get).network.findGraph? b.name).isSome then
    report (.graphTaken b.name) b.extra.span
  else
    let id ← perform (.newGraph b.name)
    b.inputs.forM (GraphInput.declare id b.name)
    let g ← perform (.inspect (·.graph id))
    let s ← Scope.enter (some g) [] b.nodes
    b.outputs.forM (GraphOutput.declare s id b.name)

def materialOutput (s : Scope) (argument : Text) (e? : Option Expr) : Load Value := do
  match e? with
  | none => return .absent
  | some e =>
    if e.reference?.isNone then
      report (.materialOutput argument) e.span
      return .absent
    else match ← s.finalValue e none with
      | none => return .absent
      | some v =>
        if v.node?.isNone && !v.isAbsent then
          report (.materialOutput argument) e.span
          return .absent
        else return v

def listedGraphs (material : Text) (subject : Span) : List Text → Load (List GraphId)
  | [] => return []
  | name :: rest => do
    match (← get).network.findGraph? name with
    | none =>
      report (.graphUnlisted material name) subject
      listedGraphs material subject rest
    | some g => return g.id :: (← listedGraphs material subject rest)

def Material.graphs (m : Material) : Load (List GraphId) := do
  match m.nodeGraphs with
  | none => return (← get).network.graphIds
  | some e =>
    match Decode.typed Config.Datum.toTexts e with
    | .error problems =>
      reportAll (problems.map .ofProblem)
      return []
    | .ok names => listedGraphs m.name e.span names

def declareMaterials (s : Scope) :
    List Stage.Material → List Material → Load (List Stage.Material)
  | done, [] => return done
  | done, m :: rest => do
    reportUnsupported m.extra
    if m.name.isEmpty then
      report .materialName m.extra.span
      declareMaterials s done rest
    else if done.any (·.name = m.name) then
      report (.materialTaken m.name) m.extra.span
      declareMaterials s done rest
    else
      let surface ← materialOutput s "surface" m.surface
      let geometryModifier ← materialOutput s "geometry_modifier" m.geometryModifier
      let graphs ← m.graphs
      declareMaterials s (done ++ [⟨m.name, surface, geometryModifier, graphs⟩]) rest

def declare (bp : Blueprint) (base : Text) : Load (List Stage.Material) := do
  let parameters ← declareParameters base [] bp.parameters
  bp.graphs.forM Graph.declare
  let top ← Scope.enter none parameters bp.nodes
  declareMaterials top [] bp.materials

structure Loaded where
  network : Network
  materials : List Stage.Material

def Loaded.material? (l : Loaded) (name : Text) : Option Stage.Material :=
  l.materials.find? (·.name = name)

inductive Refusal where
  | malformed
  | faults (diagnostics : List Diagnostic)
  | misuse (m : Misuse)

def load (bp : Blueprint) (base : Text) : Except Refusal Loaded :=
  match declare bp base ⟨.empty, [], []⟩ with
  | (.error m, _) => .error (.misuse m)
  | (.ok materials, s) =>
    if s.diagnostics.isEmpty then .ok ⟨s.network, materials⟩ else .error (.faults s.diagnostics)

def read (source filename : Text) : Except Refusal Loaded :=
  match Config.parseFile source with
  | none => .error .malformed
  | some body =>
    match decode body with
    | .error problems => .error (.faults (problems.map .ofProblem))
    | .ok bp => load bp (Path.directory filename)

end ShaderGraph.Blueprint
