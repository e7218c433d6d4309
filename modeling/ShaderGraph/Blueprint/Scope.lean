import ShaderGraph.Blueprint.Literal
import ShaderGraph.Blueprint.Loading

/-!
# Scopes

A scope holds the nodes of the top level or of one node graph. A node is built when something first
refers to it, so the order of declarations does not matter. A node that is referred to while it is
being built depends on its own output.
-/
namespace ShaderGraph.Blueprint

open Config (Expr Span Step)
open Load

/-- The nodes of the top level or of one node graph, and what they may refer to. -/
structure Scope where
  /-- The node graph, with its inputs, around the nodes. -/
  graph : Option NodeGraph
  parameters : List (Text × Constant)
  /-- The nodes, no two of one name. -/
  nodes : List Node

namespace Scope

def place (s : Scope) : Place :=
  match s.graph with
  | none => .topLevel
  | some g => .graph g.name

inductive Target where
  | node (name : Text) (output : Option Text)
  | parameter (name : Text)
  | graphInput (name : Text)
deriving DecidableEq, Repr

def target (root : Text) (steps : List Step) : Except Fault Target :=
  let node := root = Text.ofString "node"
  match steps with
  | [.attribute name] =>
    if node then .ok (.node name none)
    else if root = Text.ofString "param" then .ok (.parameter name)
    else if root = Text.ofString "input" then .ok (.graphInput name)
    else .error (.referenceRoot root)
  | [.attribute name, .attribute output] =>
    if node then .ok (.node name (some output)) else .error .referenceForm
  | _ => .error .referenceForm

def outputNames (id : NodeId) : Build (List Text) := .inspect fun net => do
  let n ← net.node id
  if n.isReference then
    let g ← net.graph n.graph
    return g.outputs.map (·.name)
  else return n.outputs.map (·.name)

/-- The value of an output of a built node. Only a single output may go without its name. -/
def nodeOutput (name : Text) (id : NodeId) (output? : Option Text) (subject : Span) :
    Load (Option Value) := do
  let names ← perform (outputNames id)
  match output?, names with
  | none, [output] => return some (← perform (.output id output))
  | none, _ => refuse (.nodeOutputAmbiguous name names.length) subject
  | some output, _ =>
    if names.contains output then return some (← perform (.output id output))
    else refuse (.nodeOutputUnknown name output) subject

def resolve (s : Scope) (build : Text → Load (Option NodeId)) (root : Text) (steps : List Step)
    (subject : Span) : Load (Option Value) := do
  match target root steps with
  | .error fault => refuse fault subject
  | .ok (.parameter name) =>
    match s.graph with
    | some g => refuse (.parameterInGraph g.name name) subject
    | none =>
      match s.parameters.lookup name with
      | none => refuse (.parameterUnknown name) subject
      | some default => return some (.ofParameter name default)
  | .ok (.graphInput name) =>
    match s.graph with
    | none => refuse (.graphInputOutside name) subject
    | some g =>
      match g.input? name with
      | none => refuse (.graphInputUnknown g.name name) subject
      | some input => return some ⟨input.type, .graphInput g.id name⟩
  | .ok (.node name output?) =>
    if !s.nodes.any (·.name = name) then refuse (.nodeUnknown name s.place) subject
    else match ← build name with
      | none => return none
      | some id => nodeOutput name id output? subject

def value (s : Scope) (build : Text → Load (Option NodeId)) (e? : Option Expr)
    (type? : Option DataType) (space : Text) : Load (Option Value) := do
  match e? with
  | none => return some .absent
  | some e =>
    match e.reference? with
    | some (root, steps) => s.resolve build root steps e.span
    | none =>
      match type? with
      | none => refuse .literalUntyped e.span
      | some type => return (← reported (literal type e space e.span)).map .ofConstant

def inputs (s : Scope) (build : Text → Load (Option NodeId)) (node : Text) :
    List ShaderGraph.Input → Bool → List Input → Load (List ShaderGraph.Input × Bool)
  | done, ok, [] => return (done, ok)
  | done, ok, i :: rest => do
    if done.any (·.name = i.name) then
      report (.inputTaken node i.name) i.extra.span
      s.inputs build node done false rest
    else match DataType.parse i.type with
      | .error cause =>
        report (.inputType node i.name cause) i.extra.span
        s.inputs build node done false rest
      | .ok type =>
        let v ← s.value build i.value type i.colorSpace
        s.inputs build node (done ++ [⟨i.name, type, v.getD .absent⟩]) (ok && v.isSome) rest

def outputs (node : Text) (subject : Span) :
    List ShaderGraph.Output → Bool → List Output → Load (List ShaderGraph.Output × Bool)
  | done, ok, [] => return (done, ok)
  | done, ok, o :: rest => do
    if done.any (·.name = o.name) then
      report (.outputTaken node o.name) subject
      outputs node subject done false rest
    else match DataType.parse o.type with
      | .error cause =>
        report (.outputType node o.name cause) subject
        outputs node subject done false rest
      | .ok type => outputs node subject (done ++ [⟨o.name, type⟩]) ok rest

def graphInputs (s : Scope) (build : Text → Load (Option NodeId)) (g : NodeGraph) (node : Text) :
    List ShaderGraph.Input → Bool → List Input → Load (List ShaderGraph.Input × Bool)
  | done, ok, [] => return (done, ok)
  | done, ok, i :: rest => do
    match g.input? i.name with
    | none =>
      report (.graphInputUnknown g.name i.name) i.extra.span
      s.graphInputs build g node done false rest
    | some declared =>
      if done.any (·.name = i.name) then
        report (.inputTaken node i.name) i.extra.span
        s.graphInputs build g node done false rest
      else if !i.type.isEmpty && (DataType.ofName? i.type).map TypeTag.ofDataType ≠ some declared.type
      then
        report (.inputMismatch g.name i.name declared.type i.type) i.extra.span
        s.graphInputs build g node done false rest
      else
        let v ← s.value build i.value declared.type.dataType? i.colorSpace
        s.graphInputs build g node (done ++ [⟨i.name, declared.type, v.getD .absent⟩])
          (ok && v.isSome) rest

def instantiate (s : Scope) (build : Text → Load (Option NodeId)) (n : Node) :
    Load (Option NodeId) := do
  match (← get).network.findGraph? n.graph with
  | none => refuse (.graphUndeclared n.name n.graph) n.extra.span
  | some g =>
    if s.graph.any (·.id = g.id) then refuse (.graphRecursive n.name n.graph) n.extra.span
    else if !n.outputs.isEmpty then refuse (.outputUnexpected n.name n.graph) n.extra.span
    else
      let (ins, ok) ← s.graphInputs build g n.name [] true n.inputs
      if ok then return some (← perform (.reference g.id ins)) else return none

def shader (s : Scope) (build : Text → Load (Option NodeId)) (n : Node) :
    Load (Option NodeId) := do
  let (ins, ok) ← s.inputs build n.name [] true n.inputs
  let (outs, ok) ← outputs n.name n.extra.span [] ok n.outputs
  if ok then return some (← perform (.newNode n.type ins outs)) else return none

def construct (s : Scope) (build : Text → Load (Option NodeId)) (n : Node) :
    Load (Option NodeId) := do
  reportUnsupported n.extra
  n.inputs.forM fun i => reportUnsupported i.extra
  if !n.graph.isEmpty then
    if !n.type.isEmpty then refuse (.nodeAmbiguous n.name) n.extra.span
    else s.instantiate build n
  else if n.type.isEmpty then refuse (.nodeUntyped n.name) n.extra.span
  else if n.type = Network.referenceType then refuse (.nodeReserved n.name) n.extra.span
  else s.shader build n

def without (nodes : List Node) (name : Text) : List Node := nodes.filter (·.name ≠ name)

theorem length_without_lt {nodes : List Node} {name : Text} {n : Node}
    (h : nodes.find? (·.name = name) = some n) : (without nodes name).length < nodes.length := by
  have hmem := List.mem_of_find?_eq_some h
  have hname := List.find?_some h
  apply List.length_filter_lt_length_iff_exists.2
  exact ⟨n, hmem, by simpa using hname⟩

/-- Builds the node of a name unless that is settled already. `idle` holds the nodes that are not
being built: a node that is neither settled nor idle depends on its own output. -/
def build (s : Scope) (idle : List Node) (name : Text) : Load (Option NodeId) := do
  match (← get).settled.lookup name with
  | some outcome => return outcome
  | none =>
    match _h : idle.find? (·.name = name) with
    | some n =>
      let outcome ← s.construct (s.build (without idle name)) n
      settle name outcome
      return outcome
    | none =>
      match s.nodes.find? (·.name = name) with
      | some n => report (.cycle name s.place) n.extra.span
      | none => pure ()
      settle name none
      return none
termination_by idle.length
decreasing_by exact length_without_lt _h

def distinct (place : Place) : List Node → List Node → Load (List Node)
  | done, [] => return done
  | done, n :: rest => do
    if done.any (·.name = n.name) then
      report (.nodeTaken n.name place) n.extra.span
      distinct place done rest
    else distinct place (done ++ [n]) rest

def enter (graph : Option NodeGraph) (parameters : List (Text × Constant)) (nodes : List Node) :
    Load Scope := do
  let place := (Scope.mk graph parameters []).place
  let s : Scope := ⟨graph, parameters, ← distinct place [] nodes⟩
  modify fun st => { st with settled := [] }
  s.nodes.forM fun n => do
    let _ ← s.build s.nodes n.name
  return s

def finalValue (s : Scope) (e? : Option Expr) (type? : Option DataType) : Load (Option Value) :=
  s.value (s.build s.nodes) e? type? []

end Scope

end ShaderGraph.Blueprint
