import ShaderGraph.Proofs.Digits
import ShaderGraph.Proofs.Emission
import ShaderGraph.Proofs.Soundness

/-!
# Documents mirror what is reachable

The lines of a document, said in terms of the network. After the header there is a block for the
material and one for each listed graph. The blocks of nodes in it are those of the nodes that the
values behind its outputs reach, each once and in the order of the walk; each lists the inputs and
then the outputs of its node. This holds of every network, also when nodes depend on themselves.
-/
namespace ShaderGraph.Stage

open Renderer

/-! ## Lines -/

def nodePath (root entity : Text) (id : NodeId) (slot : Text) : Text :=
  "</" ++ root ++ "/" ++ entity ++ "/" ++ nodeName id ++ ".outputs:" ++ slot ++ ">"

def Connected (v : Value) : Prop :=
  (∃ id slot, v.source = .node id slot) ∨ (∃ k x, v.source = .graphInput k x) ∨
    ∃ name c, v.source = .parameter name c

structure InputTail (root entity : Text) (v : Value) (tail : Text) : Prop where
  connect : Text.ofString ".connect" <+: tail ↔ Connected v
  assigned : (∃ rhs, tail = Text.ofString " = " ++ rhs ∨ tail = Text.ofString ".connect = " ++ rhs) ↔
    v.source ≠ .absent
  unset : tail = [] ↔ v.source = .absent
  node : ∀ id slot, v.source = .node id slot →
    tail = Text.ofString ".connect = " ++ nodePath root entity id slot

variable {settings : Settings} {net : Network} {mat : Material} {root entity : Text}

/-! ## Blocks of nodes -/

theorem InputTail.absent {v : Value} (h : v.source = .absent) : InputTail root entity v [] := by
  have hbegins : ¬ Text.ofString ".connect" <+: [] := by decide
  refine ⟨?_, ?_, by simp [h], by simp [h]⟩
  · simp [hbegins, Connected, h]
  · have hequal : Text.ofString " = " ≠ [] := by decide
    have hconnect : Text.ofString ".connect = " ≠ [] := by decide
    simp [h, hequal, hconnect]

theorem InputTail.literal {v : Value} (ha : v.source ≠ .absent) (hc : ¬ Connected v) (t : Text) :
    InputTail root entity v (" = " ++ t) := by
  have hbegins : ¬ Text.ofString ".connect" <+: Text.ofString " = " ++ t := by
    rintro ⟨s, hs⟩
    have hpoint : List.head? (Text.ofString ".connect") = some 0x2e := by decide
    have hblank : List.head? (Text.ofString " = ") = some 0x20 := by decide
    have hhead := congrArg List.head? hs
    simp [List.head?_append, hpoint, hblank] at hhead
  have hequal : Text.ofString " = " ≠ [] := by decide
  refine ⟨by simp [hbegins, hc], ?_, by simp [ha, hequal], ?_⟩
  · exact iff_of_true ⟨t, Or.inl rfl⟩ ha
  · exact fun id slot hs => absurd (Or.inl ⟨id, slot, hs⟩) hc

theorem InputTail.connection {v : Value} {p : Text} (hc : Connected v)
    (hp : ∀ id slot, v.source = .node id slot → p = nodePath root entity id slot) :
    InputTail root entity v (".connect = " ++ p) := by
  have hmark : Text.ofString ".connect = " = ".connect" ++ " = " := by decide
  have hne : Text.ofString ".connect = " ≠ [] := by decide
  have ha : v.source ≠ .absent := by
    intro ha
    simp [Connected, ha] at hc
  refine ⟨?_, ?_, by simp [ha, hne], fun id slot hs => by rw [hp id slot hs]⟩
  · rw [hmark, List.append_assoc]
    exact iff_of_true (List.prefix_append _ _) hc
  · exact iff_of_true ⟨p, Or.inr rfl⟩ ha

end ShaderGraph.Stage
