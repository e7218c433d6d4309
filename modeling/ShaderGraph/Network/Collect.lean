import ShaderGraph.Network.Reach

/-!
# Parameters and faults of reachable nodes

`Network.parameters` lists the parameters that reachable nodes read, one entry per name, and reports
names with conflicting defaults. `Network.faults` lists the messages of reachable faults.
-/
namespace ShaderGraph

inductive ParameterPolicy where
  /-- Differing defaults are an error. -/
  | strict
  /-- The default found first counts. -/
  | firstWins
deriving DecidableEq, Repr

structure Parameter where
  name : Text
  default : Option Constant
deriving DecidableEq, Repr

structure Conflict where
  name : Text
  first : Option Constant
  other : Option Constant
deriving DecidableEq, Repr

namespace Conflict

def agrees (a b : Conflict) : Bool :=
  a.name == b.name && Constant.agree? a.first b.first && Constant.agree? a.other b.other

def message (c : Conflict) : Except Misuse Text := do
  let first ← required c.first
  let other ← required c.other
  return "parameter " ++ Text.quote c.name ++ " declared with conflicting defaults " ++
    first.dataType.name ++ " " ++ first.describe ++ " and " ++
    other.dataType.name ++ " " ++ other.describe

end Conflict

structure Collected where
  parameters : List Parameter
  conflicts : List Conflict
deriving DecidableEq, Repr

def Collected.add (policy : ParameterPolicy) (c : Collected) (p : Parameter) : Collected :=
  match c.parameters.find? (·.name = p.name) with
  | none => { c with parameters := c.parameters ++ [p] }
  | some first =>
    let conflict : Conflict := ⟨p.name, first.default, p.default⟩
    if Constant.agree? first.default p.default || policy = .firstWins ||
        c.conflicts.any (·.agrees conflict) then c
    else { c with conflicts := c.conflicts ++ [conflict] }

def Node.parameters (n : Node) : List Parameter :=
  n.inputs.filterMap fun i => i.value.parameter?.map fun (name, default) => ⟨name, default⟩

def Node.faults (n : Node) : List Text := n.inputs.filterMap (·.value.fault?)

namespace Network

def parameters (net : Network) (policy : ParameterPolicy) (roots : List NodeId) :
    Except Misuse Collected := do
  let uses := (← net.reachableNodes roots).flatMap Node.parameters
  return uses.foldl (Collected.add policy) ⟨[], []⟩

/-- The messages of the given values that are faults, then those of the faults that they reach. -/
def faults (net : Network) (values : List Value) : Except Misuse (List Text) := do
  let reached ← net.reachableNodes (rootNodes values)
  return values.filterMap Value.fault? ++ reached.flatMap Node.faults

end Network
end ShaderGraph
