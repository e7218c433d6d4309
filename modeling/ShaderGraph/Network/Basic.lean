import ShaderGraph.Constant.Basic

/-!
# Shading networks

A network owns the nodes and node graphs of one compilation unit. Nodes and graphs refer to each
other by handle: the first node has handle one, and so has the first graph. A value is a typed
reference to data of the network; a value that could not be built carries a message instead and
makes every compilation that reaches it fail.
-/
namespace ShaderGraph

abbrev NodeId := Nat
abbrev GraphId := Nat

inductive Source where
  /-- Nothing: an unconnected input or output. -/
  | absent
  | constant (value : Option Constant)
  | node (id : NodeId) (output : Text)
  | graphInput (graph : GraphId) (input : Text)
  /-- An input of the material's interface. Sources of one name are the same parameter. -/
  | parameter (name : Text) (default : Option Constant)
  /-- A value that could not be built. -/
  | fault (message : Text)
deriving DecidableEq, Repr

structure Value where
  type : TypeTag
  source : Source
deriving DecidableEq, Repr

namespace Value

def absent : Value := ⟨.undefined, .absent⟩

instance : Inhabited Value := ⟨absent⟩

def isAbsent (v : Value) : Bool :=
  match v.source with
  | .absent => true
  | _ => false

def node? (v : Value) : Option NodeId :=
  match v.source with
  | .node id _ => some id
  | _ => none

def fault? (v : Value) : Option Text :=
  match v.source with
  | .fault message => some message
  | _ => none

def parameter? (v : Value) : Option (Text × Option Constant) :=
  match v.source with
  | .parameter name default => some (name, default)
  | _ => none

def faultMessage (v : Value) : Text := v.fault?.getD []

def isConnection (v : Value) : Bool :=
  match v.source with
  | .node .. | .graphInput .. | .parameter .. => true
  | _ => false

def ofConstant (c : Constant) : Value := ⟨c.dataType, .constant (some c)⟩

def ofParameter (name : Text) (default : Constant) : Value :=
  ⟨default.dataType, .parameter name (some default)⟩

def ofFault (type : TypeTag) (message : Text) : Value := ⟨type, .fault message⟩

def ofTexture (name : Text) (source : Option TextureSource) : Value :=
  ofParameter name (.asset source)

end Value

structure Input where
  name : Text
  type : TypeTag
  value : Value
deriving DecidableEq, Repr

structure Output where
  name : Text
  type : TypeTag
deriving DecidableEq, Repr

/-- One shader operation. A node with a nonzero `graph` instantiates that node graph; it has no
output slots of its own and shows the graph's. -/
structure Node where
  id : NodeId
  type : Text
  inputs : List Input
  outputs : List Output
  graph : GraphId
deriving DecidableEq, Repr

namespace Node

def isReference (n : Node) : Bool := n.graph != 0

def input? (n : Node) (name : Text) : Option Input := n.inputs.find? (·.name = name)
def output? (n : Node) (name : Text) : Option Output := n.outputs.find? (·.name = name)

def sources (n : Node) : List NodeId := n.inputs.filterMap (·.value.node?)

end Node

structure GraphInput where
  name : Text
  type : TypeTag
  default : Option Constant
deriving DecidableEq, Repr

structure GraphOutput where
  name : Text
  value : Value
deriving DecidableEq, Repr

structure NodeGraph where
  id : GraphId
  name : Text
  inputs : List GraphInput
  outputs : List GraphOutput
deriving DecidableEq, Repr

namespace NodeGraph

def input? (g : NodeGraph) (name : Text) : Option GraphInput := g.inputs.find? (·.name = name)
def output? (g : NodeGraph) (name : Text) : Option GraphOutput := g.outputs.find? (·.name = name)
def outputValues (g : NodeGraph) : List Value := g.outputs.map (·.value)

end NodeGraph

structure Network where
  nodes : List Node
  graphs : List NodeGraph
deriving DecidableEq, Repr

/-- A use of a network that its author has to mend: a handle or a slot that does not exist, a name
that is taken, a slot without a type. -/
inductive Misuse where
  | emptyNodeType
  | inputType (node input : Text)
  | outputType (node output : Text)
  | nodeHandle (id : NodeId)
  | graphHandle (id : GraphId)
  | nodeOutput (id : NodeId) (type output : Text)
  | graphOutput (graph output : Text)
  | graphInput (graph input : Text)
  | parameterDefault (name : Text)
  | constantMissing
  | emptyGraphName
  | graphTaken (name : Text)
  | graphInputType (graph input : Text)
  | graphInputTaken (graph input : Text)
  | graphOutputAbsent (graph output : Text)
  | graphOutputTaken (graph output : Text)
  | noDefault (type : TypeTag)
  | sourceMissing
  /-- A constant was needed for its type and there was none. -/
  | untypedConstant
deriving DecidableEq, Repr

def Misuse.message? : Misuse → Option Text
  | .emptyNodeType => some "empty node type"
  | .inputType node input => some (node ++ " input " ++ Text.quote input ++ ": invalid data type")
  | .outputType node output => some (node ++ " output " ++ Text.quote output ++ ": invalid data type")
  | .nodeHandle id => some ("invalid node handle " ++ Text.ofNat id)
  | .graphHandle id => some ("invalid node graph handle " ++ Text.ofNat id)
  | .nodeOutput id type output =>
    some ("node " ++ Text.ofNat id ++ " (" ++ type ++ ") has no output " ++ Text.quote output)
  | .graphOutput graph output =>
    some ("node graph " ++ graph ++ " has no output " ++ Text.quote output)
  | .graphInput graph input => some ("node graph " ++ graph ++ " has no input " ++ Text.quote input)
  | .parameterDefault name => some ("parameter " ++ name ++ " has no default value")
  | .constantMissing => some "nil constant value"
  | .emptyGraphName => some "empty node graph name"
  | .graphTaken name => some ("node graph " ++ name ++ " already defined")
  | .graphInputType graph input =>
    some ("node graph " ++ graph ++ " input " ++ input ++ ": invalid data type")
  | .graphInputTaken graph input =>
    some ("node graph " ++ graph ++ " input " ++ input ++ " declared twice")
  | .graphOutputAbsent graph output =>
    some ("node graph " ++ graph ++ " output " ++ output ++ ": absent value")
  | .graphOutputTaken graph output =>
    some ("node graph " ++ graph ++ " output " ++ output ++ " declared twice")
  | .noDefault type => some ("no default for data type " ++ type.name)
  | .sourceMissing => some "unhandled value source <nil>"
  | .untypedConstant => none

def TypeTag.default (t : TypeTag) : Except Misuse Constant :=
  match t.dataType? with
  | some d => .ok (Constant.defaultOf d)
  | none => .error (.noDefault t)

def GraphInput.defaultValue (i : GraphInput) : Except Misuse Constant :=
  match i.default with
  | some c => .ok c
  | none => i.type.default

def required : Option Constant → Except Misuse Constant
  | some c => .ok c
  | none => .error .untypedConstant

namespace Network

def empty : Network := ⟨[], []⟩

instance : Inhabited Network := ⟨empty⟩

def node? (net : Network) : NodeId → Option Node
  | 0 => none
  | k + 1 => net.nodes[k]?

def graph? (net : Network) : GraphId → Option NodeGraph
  | 0 => none
  | k + 1 => net.graphs[k]?

def node (net : Network) (id : NodeId) : Except Misuse Node :=
  match net.node? id with
  | some n => .ok n
  | none => .error (.nodeHandle id)

def graph (net : Network) (id : GraphId) : Except Misuse NodeGraph :=
  match net.graph? id with
  | some g => .ok g
  | none => .error (.graphHandle id)

def findGraph? (net : Network) (name : Text) : Option NodeGraph := net.graphs.find? (·.name = name)

def graphIds (net : Network) : List GraphId := net.graphs.map (·.id)

def outputType (net : Network) (id : NodeId) (name : Text) : Except Misuse TypeTag := do
  let n ← net.node id
  if n.isReference then
    let g ← net.graph n.graph
    match g.output? name with
    | some out => return out.value.type
    | none => throw (.graphOutput g.name name)
  else
    match n.output? name with
    | some out => return out.type
    | none => throw (.nodeOutput id n.type name)

def output (net : Network) (id : NodeId) (name : Text) : Except Misuse Value := do
  return ⟨← net.outputType id name, .node id name⟩

def resolve (net : Network) (v : Value) : Except Misuse Unit :=
  match v.source with
  | .node id output => do
    let _ ← net.outputType id output
  | .graphInput id input => do
    let g ← net.graph id
    if (g.input? input).isNone then throw (.graphInput g.name input)
  | .parameter name none => .error (.parameterDefault name)
  | .constant none => .error .constantMissing
  | _ => .ok ()

/-- What a slot holds when it is connected to `v`: a value of another type becomes a fault, which
keeps the message of `v` if `v` is a fault already. -/
def connect (node : Text) (input : Input) : Value :=
  if input.value.isAbsent || input.value.type = input.type then input.value
  else
    let message := input.value.faultMessage
    .ofFault input.type (if message.isEmpty then
        node ++ " input " ++ Text.quote input.name ++ ": expected " ++ input.type.name ++ ", got " ++
          input.value.type.name
      else message)

def wire (net : Network) (node : Text) (input : Input) : Except Misuse Input := do
  if !input.type.isValid then throw (.inputType node input.name)
  net.resolve input.value
  return { input with value := connect node input }

def checkOutput (node : Text) (output : Output) : Except Misuse Unit :=
  if output.type.isValid then .ok () else .error (.outputType node output.name)

def addNode (net : Network) (type : Text) (inputs : List Input) (outputs : List Output)
    (graph : GraphId) : Except Misuse (NodeId × Network) := do
  if type.isEmpty then throw .emptyNodeType
  let id := net.nodes.length + 1
  let wired ← inputs.mapM (net.wire type)
  outputs.forM (checkOutput type)
  return (id, { net with nodes := net.nodes ++ [⟨id, type, wired, outputs, graph⟩] })

def referenceType : Text := "NodeGraphReference"

def checkGraphInput (g : NodeGraph) (input : Input) : Except Misuse Unit :=
  if (g.input? input.name).isSome then .ok () else .error (.graphInput g.name input.name)

def addReference (net : Network) (graph : GraphId) (inputs : List Input) :
    Except Misuse (NodeId × Network) := do
  let g ← net.graph graph
  inputs.forM (checkGraphInput g)
  net.addNode referenceType inputs [] graph

def addGraph (net : Network) (name : Text) : Except Misuse (GraphId × Network) :=
  if name.isEmpty then .error .emptyGraphName
  else if (net.findGraph? name).isSome then .error (.graphTaken name)
  else
    let id := net.graphs.length + 1
    .ok (id, { net with graphs := net.graphs ++ [⟨id, name, [], []⟩] })

def setGraph (net : Network) (id : GraphId) (g : NodeGraph) : Network :=
  { net with graphs := net.graphs.set (id - 1) g }

def addGraphInput (net : Network) (graph : GraphId) (input : GraphInput) :
    Except Misuse (Value × Network) := do
  let g ← net.graph graph
  if !input.type.isValid then throw (.graphInputType g.name input.name)
  if (g.input? input.name).isSome then throw (.graphInputTaken g.name input.name)
  return (⟨input.type, .graphInput g.id input.name⟩,
    net.setGraph graph { g with inputs := g.inputs ++ [input] })

/-- Declares an output of a graph. What drives it is not resolved. -/
def addGraphOutput (net : Network) (graph : GraphId) (name : Text) (v : Value) :
    Except Misuse (Unit × Network) := do
  let g ← net.graph graph
  if v.isAbsent then throw (.graphOutputAbsent g.name name)
  if (g.output? name).isSome then throw (.graphOutputTaken g.name name)
  return ((), net.setGraph graph { g with outputs := g.outputs ++ [⟨name, v⟩] })

def overwriteInput (net : Network) (id : NodeId) (index : Nat) (v : Value) : Option Network := do
  let n ← net.node? id
  let input ← n.inputs[index]?
  let inputs := n.inputs.set index { input with value := v }
  return { net with nodes := net.nodes.set (id - 1) { n with inputs } }

end Network
end ShaderGraph
