import ShaderGraph.Network.Basic

/-!
# Reachable nodes

The nodes that given nodes depend on through their inputs, in breadth-first order of discovery. All
analyses and the emitted document follow this order. An instance of a graph is walked through its own
inputs; the graph is not entered.
-/
namespace ShaderGraph

def discover (seen : List NodeId) : List NodeId → List NodeId
  | [] => []
  | id :: ids => if id ∈ seen then discover seen ids else id :: discover (id :: seen) ids

def rootNodes (values : List Value) : List NodeId := discover [] (values.filterMap Value.node?)

/-- A list of handles that grows at its end. `listed` may start with handles from elsewhere; `seen` has
those that were added to it. -/
structure Trail where
  listed : List NodeId
  seen : List NodeId
deriving DecidableEq, Repr

def Trail.enqueue (t : Trail) (id : NodeId) : Trail :=
  if id ∈ t.seen then t else ⟨t.listed ++ [id], id :: t.seen⟩

namespace Network

def nodeIds (net : Network) : List NodeId := List.range' 1 net.nodes.length

/-- Walks the network along the trail from position `next` on: the handles before it are walked, those
after it wait. `fresh` holds the handles of nodes that were not walked; a handle on the trail that is
not fresh is no handle of the network, because a node is added only once. -/
def walk (net : Network) (fresh : List NodeId) (next : Nat) (t : Trail) :
    Except Misuse (List NodeId) :=
  match t.listed[next]? with
  | none => .ok t.listed
  | some id =>
    if id ∈ fresh then
      match net.node? id with
      | none => .error (.nodeHandle id)
      | some n => net.walk (fresh.erase id) (next + 1) (n.sources.foldl Trail.enqueue t)
    else .error (.nodeHandle id)
termination_by fresh.length
decreasing_by
  have := List.length_erase_of_mem ‹id ∈ fresh›
  have := List.length_pos_of_mem ‹id ∈ fresh›
  omega

/-- Adds the nodes reachable from the roots to a list, the roots first. What the list already has does
not matter. -/
def appendReachable (net : Network) (dst roots : List NodeId) : Except Misuse (List NodeId) := do
  roots.forM fun id => discard (net.node id)
  net.walk net.nodeIds dst.length (roots.foldl Trail.enqueue ⟨dst, []⟩)

def reachable (net : Network) (roots : List NodeId) : Except Misuse (List NodeId) :=
  net.appendReachable [] roots

def reachableNodes (net : Network) (roots : List NodeId) : Except Misuse (List Node) := do
  (← net.reachable roots).mapM net.node

end Network
end ShaderGraph
