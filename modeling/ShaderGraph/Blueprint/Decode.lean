import ShaderGraph.Blueprint.Basic
import ShaderGraph.Config.Parse

/-!
# Blueprints from configurations

Decoding checks the items of a body against a schema and reads them into declarations. All problems
are reported together. Bodies of declarations keep the items that their schema does not know; all
other bodies refuse them.
-/
namespace ShaderGraph.Blueprint

open Config (Attribute Block Body Expr Hint Problem)

/-- The items that a body may have. Names are in alphabetical order. -/
structure Schema where
  attributes : List Text
  required : List Text
  blocks : List Text
  /-- Whether other items are kept for later. -/
  keepsOthers : Bool

def editRow (c : Char) (target : List Char) (diagonal left : Nat) : List Nat → List Nat
  | [] => []
  | up :: row =>
    match target with
    | [] => []
    | d :: ds =>
      let here := min (min (up + 1) (left + 1)) (diagonal + if c = d then 0 else 1)
      here :: editRow c ds up here row

def nextRow (target : List Char) (row : List Nat) (c : Char) : List Nat :=
  match row with
  | [] => []
  | first :: rest => (first + 1) :: editRow c target first (first + 1) rest

def editDistance (given target : List Char) : Nat :=
  (given.foldl (nextRow target) (List.range (target.length + 1))).getLastD 0

def isSimilar (given name : Text) : Bool :=
  editDistance (given.chars?.getD []) (name.chars?.getD []) < 3

namespace Schema

def missing (s : Schema) (b : Body) : List Problem :=
  (s.required.filter fun name => (b.attribute? name).isNone).map fun name =>
    ⟨.missingArgument name, b.missingSpan⟩

def labelProblem? (s : Schema) (b : Block) : Option Problem :=
  if !s.blocks.contains b.type then none
  else match b.labels with
    | [] => some ⟨.missingLabel b.type, b.brace⟩
    | [_] => none
    | _ :: second :: _ => some ⟨.extraLabel b.type, second.2⟩

def argumentHint (s : Schema) (b : Body) (name : Text) : Hint :=
  match (s.attributes.filter fun a => (b.attribute? a).isNone).find? (isSimilar name) with
  | some similar => .name similar
  | none => if s.blocks.contains name then .block else .none

def blockHint (s : Schema) (type : Text) : Hint :=
  match s.blocks.find? (isSimilar type) with
  | some similar => .name similar
  | none => if s.attributes.contains type then .argument else .none

def unsupported (s : Schema) (b : Body) (argumentHint blockHint : Text → Hint) : List Problem :=
  (b.attributes.filter fun a => !s.attributes.contains a.name).map
      (fun a => ⟨.unsupportedArgument a.name (argumentHint a.name), a.nameSpan⟩) ++
    (b.blocks.filter fun c => !s.blocks.contains c.type).map
      (fun c => ⟨.unsupportedBlock c.type (blockHint c.type), c.typeSpan⟩)

def problems (s : Schema) (b : Body) : List Problem :=
  s.missing b ++ b.blocks.filterMap s.labelProblem? ++
    if s.keepsOthers then [] else s.unsupported b (s.argumentHint b) s.blockHint

def extra (s : Schema) (b : Body) : Extra :=
  ⟨b.missingSpan, s.unsupported b (fun _ => .none) (fun _ => .none)⟩

def file : Schema := ⟨[], [], ["material", "node", "node_graph", "parameter"], false⟩

def parameter : Schema :=
  ⟨["color_space", "default", "texture", "type"], ["type"], [], true⟩

def graph : Schema := ⟨[], [], ["input", "node", "output"], true⟩

def graphInput : Schema := ⟨["color_space", "default", "type"], ["type"], [], true⟩

def graphOutput : Schema := ⟨["type", "value"], [], [], false⟩

def node : Schema := ⟨["graph", "type"], [], ["input", "output"], true⟩

def input : Schema := ⟨["color_space", "type", "value"], [], [], true⟩

def output : Schema := ⟨["type"], ["type"], [], false⟩

def material : Schema :=
  ⟨["geometry_modifier", "node_graphs", "surface"], [], [], true⟩

end Schema

/-- A decoder collects problems and goes on. -/
abbrev Decode (α : Type) := StateM (List Problem) α

namespace Decode

def note (problems : List Problem) : Decode Unit := modify (· ++ problems)

def typed {α : Type} (read : Config.Datum → Except Config.ConversionError α) (e : Expr) :
    Except (List Problem) α :=
  let evaluation := e.eval
  match read evaluation.value with
  | .ok a => if evaluation.problems.isEmpty then .ok a else .error evaluation.problems
  | .error cause => .error (evaluation.problems ++ [⟨.unsuitable cause, e.startSpan⟩])

def text (b : Body) (name : Text) : Decode Text := do
  match b.attribute? name with
  | none => return []
  | some a =>
    match typed Config.Datum.toText a.expr with
    | .ok s => return s
    | .error problems =>
      note problems
      return []

def expr? (b : Body) (name : Text) : Option Expr := (b.attribute? name).map (·.expr)

def one {α : Type} (decode : Text → Body → Decode α) (block : Block) : Decode (Option α) := do
  match block.labels with
  | [(name, _)] => return some (← decode name block.body)
  | _ => return none

def each {α : Type} (b : Body) (type : Text) (decode : Text → Body → Decode α) : Decode (List α) :=
  (b.blocks.filter (·.type = type)).filterMapM (one decode)

end Decode

open Decode

def Parameter.decode (name : Text) (b : Body) : Decode Parameter := do
  note (Schema.parameter.problems b)
  let colorSpace ← text b "color_space"
  let texture ← text b "texture"
  let type ← text b "type"
  return ⟨name, type, expr? b "default", colorSpace, texture, Schema.parameter.extra b⟩

def GraphInput.decode (name : Text) (b : Body) : Decode GraphInput := do
  note (Schema.graphInput.problems b)
  let colorSpace ← text b "color_space"
  let type ← text b "type"
  return ⟨name, type, expr? b "default", colorSpace, Schema.graphInput.extra b⟩

def GraphOutput.decode (name : Text) (b : Body) : Decode GraphOutput := do
  note (Schema.graphOutput.problems b)
  let type ← text b "type"
  return ⟨name, expr? b "value", type, b.missingSpan⟩

def Input.decode (name : Text) (b : Body) : Decode Input := do
  note (Schema.input.problems b)
  let colorSpace ← text b "color_space"
  let type ← text b "type"
  return ⟨name, type, expr? b "value", colorSpace, Schema.input.extra b⟩

def Output.decode (name : Text) (b : Body) : Decode Output := do
  note (Schema.output.problems b)
  return ⟨name, ← text b "type"⟩

def Node.decode (name : Text) (b : Body) : Decode Node := do
  note (Schema.node.problems b)
  let graph ← text b "graph"
  let type ← text b "type"
  let inputs ← each b "input" Input.decode
  let outputs ← each b "output" Output.decode
  return ⟨name, type, graph, inputs, outputs, Schema.node.extra b⟩

def Graph.decode (name : Text) (b : Body) : Decode Graph := do
  note (Schema.graph.problems b)
  let inputs ← each b "input" GraphInput.decode
  let nodes ← each b "node" Node.decode
  let outputs ← each b "output" GraphOutput.decode
  return ⟨name, inputs, nodes, outputs, Schema.graph.extra b⟩

def Material.decode (name : Text) (b : Body) : Decode Material := do
  note (Schema.material.problems b)
  return ⟨name, expr? b "surface", expr? b "geometry_modifier", expr? b "node_graphs",
    Schema.material.extra b⟩

def decodeFile (b : Body) : Decode Blueprint := do
  note (Schema.file.problems b)
  let parameters ← each b "parameter" Parameter.decode
  let graphs ← each b "node_graph" Graph.decode
  let nodes ← each b "node" Node.decode
  let materials ← each b "material" Material.decode
  return ⟨parameters, graphs, nodes, materials⟩

def decode (b : Body) : Except (List Problem) Blueprint :=
  let (bp, problems) := (decodeFile b).run []
  if problems.isEmpty then .ok bp else .error problems

end ShaderGraph.Blueprint
