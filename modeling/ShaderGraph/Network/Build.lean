import ShaderGraph.Network.Basic

/-!
# Building a network

A build step reads and extends a network and may end in a misuse. What earlier steps have added stays
when a later one is misused.
-/
namespace ShaderGraph

abbrev Build (α : Type) := ExceptT Misuse (StateM Network) α

namespace Build

def extend {α : Type} (f : Network → Except Misuse (α × Network)) : Build α := fun net =>
  match f net with
  | .ok (a, net') => (.ok a, net')
  | .error e => (.error e, net)

def inspect {α : Type} (f : Network → Except Misuse α) : Build α := fun net => (f net, net)

def newNode (type : Text) (inputs : List Input) (outputs : List Output) : Build NodeId :=
  extend (·.addNode type inputs outputs 0)

def reference (graph : GraphId) (inputs : List Input) : Build NodeId :=
  extend (·.addReference graph inputs)

def output (id : NodeId) (name : Text) : Build Value := inspect (·.output id name)

def newGraph (name : Text) : Build GraphId := extend (·.addGraph name)

def graphInput (graph : GraphId) (name : Text) (type : TypeTag) : Build Value :=
  extend (·.addGraphInput graph ⟨name, type, none⟩)

def graphInputDefault (graph : GraphId) (name : Text) (default : Constant) : Build Value :=
  extend (·.addGraphInput graph ⟨name, default.dataType, some default⟩)

def graphOutput (graph : GraphId) (name : Text) (v : Value) : Build Unit :=
  extend (·.addGraphOutput graph name v)

end Build
end ShaderGraph
