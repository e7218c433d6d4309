import ShaderGraph.Stage.Compile

/-!
# Writing a document

A sink takes bytes up to a limit, if it has one. The write that goes past the limit stores what still
fits and fails.
-/
namespace ShaderGraph.Stage

structure Sink where
  limit : Option Nat
  received : Text
deriving DecidableEq, Repr

namespace Sink

def full : Text := "disk full"

def write (s : Sink) (t : Text) : Nat × Bool × Sink :=
  match s.limit with
  | none => (t.length, true, { s with received := s.received ++ t })
  | some limit =>
    let room := limit - s.received.length
    if t.length ≤ room then (t.length, true, { s with received := s.received ++ t })
    else (room, false, { s with received := s.received ++ t.take room })

end Sink

structure Delivery where
  /-- The number of bytes stored. -/
  count : Nat
  complete : Bool
  sink : Sink
  textures : List (Text × TextureSource)
deriving DecidableEq, Repr

def deliver (settings : Settings) (net : Network) (mat : Material) (s : Sink) :
    Except CompileError Delivery := do
  let c ← compile settings net mat
  let (count, complete, sink) := s.write c.text
  return ⟨count, complete, sink, c.textures⟩

end ShaderGraph.Stage
