import ShaderGraph.Constant.Literal
import ShaderGraph.Network.Basic

/-!
# Stage documents

A stage document as data: one material block and one block per node graph, each with declarations of
slots and blocks of nodes. `Document.linesBy` is the only place where a document becomes text. It
leaves the names of nodes open: `label` gives them, and in the text of a document it is `nodeName`.
-/
namespace ShaderGraph.Stage

def nodeName (id : NodeId) : Text := "Node" ++ Text.ofNat id

inductive Target where
  /-- An output of a node inside an entity, that is inside a material or a node graph. -/
  | output (entity : Text) (node : NodeId) (slot : Text)
  | input (entity : Text) (slot : Text)
deriving DecidableEq, Repr

def Target.path (label : NodeId → Text) (root : Text) : Target → Text
  | .output entity node slot =>
    "</" ++ root ++ "/" ++ entity ++ "/" ++ label node ++ ".outputs:" ++ slot ++ ">"
  | .input entity slot => "</" ++ root ++ "/" ++ entity ++ ".inputs:" ++ slot ++ ">"

inductive Assignment where
  | unset
  | literal (text : Text)
  | connection (target : Target)
deriving DecidableEq, Repr

def Assignment.text (label : NodeId → Text) (root : Text) : Assignment → Text
  | .unset => []
  | .literal t => " = " ++ t
  | .connection target => ".connect = " ++ target.path label root

inductive Side where
  | inputs | outputs
deriving DecidableEq, Repr

def Side.name : Side → Text
  | .inputs => "inputs"
  | .outputs => "outputs"

structure Declaration where
  type : TypeTag
  side : Side
  name : Text
  assignment : Assignment
deriving DecidableEq, Repr

def Declaration.line (label : NodeId → Text) (root : Text) (d : Declaration) : Text :=
  d.type.name ++ " " ++ d.side.name ++ ":" ++ d.name ++ d.assignment.text label root

inductive NodeKind where
  | shader (type : Text)
  | instanceOf (graph : Text)
deriving DecidableEq, Repr

structure NodeBlock where
  id : NodeId
  kind : NodeKind
  slots : List Declaration
deriving DecidableEq, Repr

structure Entity where
  name : Text
  slots : List Declaration
  nodes : List NodeBlock
deriving DecidableEq, Repr

structure Header where
  root : Text
  metersPerUnit : Single
  upAxis : Text
deriving DecidableEq, Repr

structure Document where
  header : Header
  material : Entity
  graphs : List Entity
deriving DecidableEq, Repr

def indent (depth : Nat) (t : Text) : Text := List.replicate (4 * depth) 0x20 ++ t

section

variable (label : NodeId → Text) (root : Text)

def NodeBlock.opening (b : NodeBlock) : List Text :=
  match b.kind with
  | .shader type =>
    [indent 2 ("def Shader " ++ Text.quote (label b.id)),
     indent 2 "\x7b",
     indent 3 ("uniform token info:id = " ++ Text.quote type)]
  | .instanceOf graph =>
    [indent 2 ("def " ++ Text.quote (label b.id) ++ " ("),
     indent 3 "active = true",
     indent 3 "instanceable = true",
     indent 3 ("references = </" ++ root ++ "/" ++ graph ++ ">"),
     indent 2 ")",
     indent 2 "\x7b"]

def NodeBlock.lines (b : NodeBlock) : List Text :=
  [] :: b.opening label root ++ b.slots.map (fun d => indent 3 (d.line label root)) ++
    [indent 2 "\x7d"]

def Entity.body (e : Entity) : List Text :=
  e.slots.map (fun d => indent 2 (d.line label root)) ++ e.nodes.flatMap (·.lines label root)

def Entity.materialLines (e : Entity) : List Text :=
  [indent 1 ("def Material " ++ Text.quote e.name), indent 1 "\x7b"] ++ e.body label root ++
    [indent 1 "\x7d"]

def Entity.graphLines (e : Entity) : List Text :=
  [indent 1 ("def NodeGraph " ++ Text.quote e.name ++ " ("),
   indent 2 "active = true",
   indent 1 ")",
   indent 1 "\x7b"] ++ e.body label root ++ [indent 1 "\x7d"]

end

namespace Header

def lines (h : Header) : List Text :=
  ["#usda 1.0",
   "(",
   indent 1 ("defaultPrim = " ++ Text.quote h.root),
   indent 1 ("metersPerUnit = " ++ Literal.number h.metersPerUnit),
   indent 1 ("upAxis = " ++ Text.quote h.upAxis),
   ")",
   "",
   "def Xform " ++ Text.quote h.root]

end Header

namespace Document

def opening (d : Document) : List Text :=
  ["\x7b", indent 1 ("reorder nameChildren = [" ++ Text.quote d.material.name ++ "]")]

/-- The lines of the document, without line ends and with nodes named by `label`. -/
def linesBy (label : NodeId → Text) (d : Document) : List Text :=
  d.header.lines ++ d.opening ++ d.material.materialLines label d.header.root ++
    d.graphs.flatMap (·.graphLines label d.header.root) ++ [Text.ofString "\x7d"]

def lines (d : Document) : List Text := d.linesBy nodeName

end Document

def joinLines (lines : List Text) : Text := Text.join "\n" lines

end ShaderGraph.Stage
