import ShaderGraph.Blueprint.Fault
import ShaderGraph.Network.Build

/-!
# Steps of loading

Loading a blueprint builds a network and collects diagnostics. A step goes on after a fault, so that as
many as possible are reported, and ends only at a misuse of the network.
-/
namespace ShaderGraph.Blueprint

open Config (Span)

structure Loading where
  network : Network
  diagnostics : List Diagnostic
  /-- The nodes of the scope at hand that have been dealt with, `none` for those that failed. -/
  settled : List (Text × Option NodeId)

/-- A step of loading. A misuse of the network ends it. -/
abbrev Load (α : Type) := ExceptT Misuse (StateM Loading) α

namespace Load

def report (fault : Fault) (subject : Span) : Load Unit :=
  modify fun s => { s with diagnostics := s.diagnostics ++ [⟨fault, some subject⟩] }

def reportAll (ds : List Diagnostic) : Load Unit :=
  modify fun s => { s with diagnostics := s.diagnostics ++ ds }

def reportUnsupported (extra : Extra) : Load Unit :=
  reportAll (extra.unsupported.map .ofProblem)

def perform {α : Type} (act : Build α) : Load α := fun s =>
  let (r, network) := act s.network
  (r, { s with network })

def reported {α : Type} (r : Except (List Diagnostic) α) : Load (Option α) := do
  match r with
  | .ok a => return some a
  | .error ds =>
    reportAll ds
    return none

def refuse {α : Type} (fault : Fault) (subject : Span) : Load (Option α) := do
  report fault subject
  return none

def settle (name : Text) (outcome : Option NodeId) : Load Unit :=
  modify fun s => { s with settled := (name, outcome) :: s.settled }

end Load

end ShaderGraph.Blueprint
