import ShaderGraph.Proofs.Seams
import ShaderGraph.Proofs.Typing

/-!
# The names in a document

Names of slots stand in a document as they are, and so do the names on the way of a path. All other data
is written as a number or between quotes. So a property that can be told from pieces holds of all lines
of a document exactly if it holds of these names, and which names these are is said in terms of the
network.
-/
namespace ShaderGraph

open Text (Smooth Seamed smooth_append smooth_ofNat)

/-! ## Constants -/

namespace Literal

theorem Element.smooth {t : Text} (h : Element t) : Smooth t := by
  have helement := Text.forall_byte (P := fun b => isElement b = true → Text.isSeam b = true)
    (by decide +kernel)
  exact fun b hb => helement b (h.bytes b hb)

theorem smooth_tuple {ts : List Text} (hts : ∀ t ∈ ts, Smooth t) : Smooth (tuple ts) := by
  have hsep : Smooth (Text.ofString ", ") := by decide
  exact smooth_append.mpr ⟨smooth_append.mpr ⟨by decide, hsep.join hts⟩, by decide⟩

theorem smooth_number (x : Single) : Smooth (number x) := (number_element x).smooth

theorem smooth_numbers (xs : List Single) : ∀ t ∈ xs.map number, Smooth t := by
  intro t ht
  obtain ⟨x, _, rfl⟩ := List.mem_map.mp ht
  exact smooth_number x

theorem smooth_integers (xs : List Int32) : ∀ t ∈ xs.map fun n => Text.ofInt n.toInt, Smooth t := by
  intro t ht
  obtain ⟨n, _, rfl⟩ := List.mem_map.mp ht
  exact (ofInt_element _).smooth

theorem colorSpace_seamed {P : Text → Prop} (h : Seamed P) {body : Text} (hbody : Smooth body)
    (space : Text) : P (body ++ colorSpace space) := by
  rw [h.lead hbody, colorSpace]
  split
  · exact h.nil
  · rw [h.trail (by decide), List.append_assoc, h.lead (by decide), h.lead (by decide)]
    exact h.quoted space

end Literal

open Literal in
theorem Constant.literal_seamed {P : Text → Prop} (h : Seamed P) (c : Constant) : P c.literal := by
  cases c with
  | bool b => cases b <;> exact h.smooth (by decide)
  | int l v => cases l with
    | one => exact h.smooth (Smooth.nil.join (smooth_integers v.toList))
    | _ => exact h.smooth (smooth_tuple (smooth_integers v.toList))
  | half l v => cases l with
    | one => exact h.smooth (Smooth.nil.join (smooth_numbers v.toList))
    | _ => exact h.smooth (smooth_tuple (smooth_numbers v.toList))
  | float l v => cases l with
    | one => exact h.smooth (Smooth.nil.join (smooth_numbers v.toList))
    | _ => exact h.smooth (smooth_tuple (smooth_numbers v.toList))
  | string s => exact h.quoted s
  | token s => exact h.quoted s
  | asset source => exact h.quoted []
  | color channels v space =>
    exact colorSpace_seamed h (smooth_tuple (smooth_numbers v.toList)) space
  | matrix o v =>
    refine h.smooth (smooth_tuple fun t ht => ?_)
    obtain ⟨row, _, rfl⟩ := List.mem_map.mp ht
    exact smooth_tuple (smooth_numbers row)

/-! ## Lines -/

theorem TypeTag.smooth_name (t : TypeTag) : Smooth t.name := by
  have hall : ∀ d ∈ DataType.all, Smooth d.name := by decide
  rw [TypeTag.name]
  split
  · rename_i d hd
    rw [TypeTag.dataType?] at hd
    split at hd
    · cases hd
    · exact hall d (List.mem_of_getElem? hd)
  · split
    · decide
    · exact smooth_append.mpr ⟨smooth_append.mpr ⟨by decide, smooth_ofNat _⟩, by decide⟩

namespace Stage

open Renderer (inputAssignment slotAssignment)

theorem feed_eq : Text.ofString "\n" = [0x0a] := by decide

theorem smooth_nodeName (id : NodeId) : Smooth (nodeName id) :=
  smooth_append.mpr ⟨by decide, smooth_ofNat id⟩

theorem smooth_indent (depth : Nat) : Smooth (List.replicate (4 * depth) 0x20) := by
  intro b hb
  rw [List.eq_of_mem_replicate hb]
  decide

def Target.names (root : Text) : Target → List Text
  | .output entity _ slot => [root, entity, slot]
  | .input entity slot => [root, entity, slot]

def Assignment.names (root : Text) : Assignment → List Text
  | .connection target => target.names root
  | .unset | .literal _ => []

def Declaration.names (root : Text) (d : Declaration) : List Text :=
  d.name :: d.assignment.names root

def NodeKind.names (root : Text) : NodeKind → List Text
  | .shader _ => []
  | .instanceOf graph => [root, graph]

def NodeBlock.names (root : Text) (b : NodeBlock) : List Text :=
  b.kind.names root ++ b.slots.flatMap (·.names root)

def Entity.names (root : Text) (e : Entity) : List Text :=
  e.slots.flatMap (·.names root) ++ e.nodes.flatMap (·.names root)

def Document.names (d : Document) : List Text :=
  (d.material :: d.graphs).flatMap (·.names d.header.root)

section Lines

variable {P : Text → Prop} {root : Text}

theorem Target.path_iff (h : Seamed P) (t : Target) :
    P (t.path nodeName root) ↔ ∀ name ∈ t.names root, P name := by
  cases t with
  | output entity node slot =>
    simp only [Target.path, Target.names, List.append_assoc, List.forall_mem_cons,
      List.not_mem_nil, false_implies, implies_true, and_true]
    rw [h.lead (by decide), h.between (by decide) (by decide),
      h.between (by decide) (by decide), h.lead (smooth_nodeName node),
      h.lead (by decide), h.trail (by decide)]
  | input entity slot =>
    simp only [Target.path, Target.names, List.append_assoc, List.forall_mem_cons,
      List.not_mem_nil, false_implies, implies_true, and_true]
    rw [h.lead (by decide), h.between (by decide) (by decide),
      h.between (by decide) (by decide), h.trail (by decide)]

def Declaration.LiteralHolds (P : Text → Prop) (d : Declaration) : Prop :=
  ∀ t, d.assignment = .literal t → P t

theorem Declaration.line_iff (h : Seamed P) {d : Declaration} (hd : d.LiteralHolds P) :
    P (d.line nodeName root) ↔ ∀ name ∈ d.names root, P name := by
  have hside : Smooth d.side.name := by cases d.side <;> decide
  simp only [Declaration.line, List.append_assoc]
  rw [h.lead (TypeTag.smooth_name d.type), h.lead (by decide), h.lead hside,
    h.lead (by decide), Declaration.names, List.forall_mem_cons]
  cases ha : d.assignment with
  | unset => simp [Assignment.text, Assignment.names]
  | literal t =>
    rw [Assignment.text, h.between (by decide) (by decide)]
    exact and_congr_right' (iff_of_true (hd t ha) (by simp [Assignment.names]))
  | connection t =>
    rw [Assignment.text, h.between (by decide) (by decide), t.path_iff h]
    rfl

theorem indent_iff (h : Seamed P) (depth : Nat) (t : Text) : P (indent depth t) ↔ P t :=
  h.lead (smooth_indent depth) t

theorem slots_iff (h : Seamed P) (depth : Nat) {ds : List Declaration}
    (hds : ∀ d ∈ ds, d.LiteralHolds P) :
    (∀ line ∈ ds.map fun d => indent depth (d.line nodeName root), P line) ↔
      ∀ name ∈ ds.flatMap (·.names root), P name := by
  rw [List.forall_mem_map, List.forall_mem_flatMap]
  refine forall₂_congr fun d hd => ?_
  rw [indent_iff h, Declaration.line_iff h (hds d hd)]

namespace NodeBlock

theorem opening_iff (h : Seamed P) (b : NodeBlock) :
    (∀ line ∈ b.opening nodeName root, P line) ↔ ∀ name ∈ b.kind.names root, P name := by
  have hfixed : ∀ depth t, Smooth t → P (indent depth t) :=
    fun depth t ht => (indent_iff h depth t).mpr (h.smooth ht)
  have hname : P (Text.quote (nodeName b.id)) := h.quoted _
  cases hkind : b.kind with
  | shader type =>
    refine iff_of_true ?_ (by simp [NodeKind.names])
    simp only [opening, hkind, List.forall_mem_cons, indent_iff h]
    exact ⟨(h.lead (by decide) _).mpr hname, h.smooth (by decide),
      (h.lead (by decide) _).mpr (h.quoted type), by simp⟩
  | instanceOf graph =>
    simp only [opening, hkind, NodeKind.names, List.forall_mem_cons, indent_iff h,
      List.append_assoc]
    rw [h.lead (by decide), h.trail (by decide), h.lead (by decide),
      h.between (by decide) (by decide), h.trail (by decide)]
    have hrest : P "active = true" ∧ P "instanceable = true" ∧ P ")" ∧ P "\x7b" :=
      ⟨h.smooth (by decide), h.smooth (by decide), h.smooth (by decide), h.smooth (by decide)⟩
    tauto

theorem lines_iff (h : Seamed P) {b : NodeBlock} (hb : ∀ d ∈ b.slots, d.LiteralHolds P) :
    (∀ line ∈ b.lines nodeName root, P line) ↔ ∀ name ∈ b.names root, P name := by
  have hclose : P (indent 2 "\x7d") := (indent_iff h 2 _).mpr (h.smooth (by decide))
  simp only [lines, NodeBlock.names, List.forall_mem_append, List.forall_mem_cons, opening_iff h,
    slots_iff h 3 hb]
  simp [h.nil, hclose]

end NodeBlock

def Entity.LiteralsHold (P : Text → Prop) (e : Entity) : Prop :=
  ∀ d ∈ e.declarations, d.LiteralHolds P

theorem Entity.body_iff (h : Seamed P) {e : Entity} (he : e.LiteralsHold P) :
    (∀ line ∈ e.body nodeName root, P line) ↔ ∀ name ∈ e.names root, P name := by
  have hslots : ∀ d ∈ e.slots, d.LiteralHolds P :=
    fun d hd => he d (List.mem_append_left _ hd)
  have hnodes : ∀ b ∈ e.nodes, ∀ d ∈ b.slots, d.LiteralHolds P := fun b hb d hd =>
    he d (List.mem_append_right _ (List.mem_flatMap.mpr ⟨b, hb, hd⟩))
  simp only [Entity.body, Entity.names, List.forall_mem_append, slots_iff h 2 hslots,
    List.forall_mem_flatMap]
  exact and_congr_right' (forall₂_congr fun b hb => NodeBlock.lines_iff h (hnodes b hb))

theorem Entity.materialLines_iff (h : Seamed P) {e : Entity} (he : e.LiteralsHold P) :
    (∀ line ∈ e.materialLines nodeName root, P line) ↔ ∀ name ∈ e.names root, P name := by
  have hopen : P (Text.ofString "def Material " ++ Text.quote e.name) :=
    (h.lead (by decide) _).mpr (h.quoted e.name)
  have hmarks : P "\x7b" ∧ P "\x7d" := ⟨h.smooth (by decide), h.smooth (by decide)⟩
  simp only [Entity.materialLines, List.forall_mem_append, List.forall_mem_cons, indent_iff h,
    Entity.body_iff h he]
  simp [hopen, hmarks]

theorem Entity.graphLines_iff (h : Seamed P) {e : Entity} (he : e.LiteralsHold P) :
    (∀ line ∈ e.graphLines nodeName root, P line) ↔ ∀ name ∈ e.names root, P name := by
  have hopen : P (Text.ofString "def NodeGraph " ++ (Text.quote e.name ++ Text.ofString " (")) := by
    rw [h.lead (by decide), h.trail (by decide)]
    exact h.quoted e.name
  have hmarks : P "active = true" ∧ P ")" ∧ P "\x7b" ∧ P "\x7d" :=
    ⟨h.smooth (by decide), h.smooth (by decide), h.smooth (by decide), h.smooth (by decide)⟩
  simp only [Entity.graphLines, List.forall_mem_append, List.forall_mem_cons, indent_iff h,
    Entity.body_iff h he]
  simp [hopen, hmarks]

theorem Header.lines_hold (h : Seamed P) (header : Header) : ∀ line ∈ header.lines, P line := by
  simp only [Header.lines, List.forall_mem_cons, indent_iff h]
  refine ⟨h.smooth (by decide), h.smooth (by decide), ?_, ?_, ?_, h.smooth (by decide),
    h.smooth (by decide), ?_, by simp⟩
  · exact (h.lead (by decide) _).mpr (h.quoted _)
  · exact (h.lead (by decide) _).mpr (h.smooth (Literal.smooth_number _))
  · exact (h.lead (by decide) _).mpr (h.quoted _)
  · exact (h.lead (by decide) _).mpr (h.quoted _)

/-- A property that can be told from pieces holds of the lines of a document exactly if it holds of the
names in it. -/
theorem Document.lines_iff (h : Seamed P) {d : Document}
    (hd : ∀ e ∈ d.entities, e.LiteralsHold P) :
    (∀ line ∈ d.lines, P line) ↔ ∀ name ∈ d.names, P name := by
  obtain ⟨hmaterial, hgraphs⟩ := List.forall_mem_cons.mp hd
  have hopening : ∀ line ∈ d.opening, P line := by
    simp only [Document.opening, List.forall_mem_cons, indent_iff h]
    refine ⟨h.smooth (by decide), ?_, by simp⟩
    rw [h.trail (by decide), h.lead (by decide)]
    exact h.quoted _
  have hlast : ∀ line ∈ [Text.ofString "\x7d"], P line :=
    List.forall_mem_singleton.mpr (h.smooth (by decide))
  rw [Document.lines, Document.linesBy, Document.names, List.flatMap_cons]
  simp only [List.forall_mem_append, List.forall_mem_flatMap, Entity.materialLines_iff h hmaterial]
  rw [and_iff_left hlast, and_assoc, and_iff_right ⟨Header.lines_hold h d.header, hopening⟩]
  exact and_congr_right' (forall₂_congr fun e he => Entity.graphLines_iff h (hgraphs e he))

end Lines

/-! ## What is written as a literal -/

section Literals

variable {P : Text → Prop} {net : Network} {entity : Text} {e : Entity} {d : Declaration}

theorem assignment_holds (h : Seamed P) {v : Value} {t : Text}
    (ha : assignment net entity v = .ok (.literal t)) : P t := by
  obtain ⟨type, source⟩ := v
  cases source with
  | constant c =>
    cases c with
    | none => cases ha
    | some c =>
      obtain rfl := Assignment.literal.inj (Except.ok.inj ha)
      exact c.literal_seamed h
  | fault m =>
    obtain rfl := Assignment.literal.inj (Except.ok.inj ha)
    exact h.quoted m
  | graphInput k x =>
    obtain ⟨g, _, ha⟩ := Outcome.bind_eq_ok.mp ha
    cases Outcome.pure_eq_ok.mp ha
  | absent => cases ha
  | node id slot => cases ha
  | parameter name c => cases ha

theorem inputDeclaration_holds (h : Seamed P) {i : Input}
    (hd : (renderer net).inputDeclaration entity i = .ok d) : d.LiteralHolds P := by
  obtain ⟨a, ha, rfl⟩ := inputDeclaration_eq_ok.mp hd
  rintro t rfl
  rw [inputAssignment] at ha
  split at ha
  · cases ha
  · exact assignment_holds h ha

theorem nodeBlocks_hold (h : Seamed P) {roots : List NodeId} {bs : List NodeBlock}
    (hbs : (renderer net).nodeBlocks net entity roots = .ok bs) :
    ∀ d ∈ bs.flatMap (·.slots), d.LiteralHolds P := by
  obtain ⟨ids, _, hbs⟩ := Outcome.bind_eq_ok.mp hbs
  intro d hd
  obtain ⟨b, hb, hd⟩ := List.mem_flatMap.mp hd
  obtain ⟨id, _, hb⟩ := (Outcome.mem_mapM hbs).mp hb
  obtain ⟨n, _, hnb⟩ := Outcome.bind_eq_ok.mp hb
  obtain ⟨kind, _, inputs, hinputs, rfl⟩ := nodeBlock_eq_ok.mp hnb
  rcases List.mem_append.mp hd with hd | hd
  · obtain ⟨i, _, hid⟩ := (Outcome.mem_mapM hinputs).mp hd
    exact inputDeclaration_holds h hid
  · obtain ⟨o, _, rfl⟩ := List.mem_map.mp hd
    exact fun t ht => absurd ht (by simp [outputDeclaration])

theorem materialEntity_holds (h : Seamed P) {mat : Material} {parameters : List Parameter}
    (he : (renderer net).materialEntity net mat parameters = .ok e) : e.LiteralsHold P := by
  obtain ⟨inputs, hinputs, he⟩ := Outcome.bind_eq_ok.mp he
  obtain ⟨surface, hsurface, he⟩ := Outcome.bind_eq_ok.mp he
  obtain ⟨vertex, hvertex, he⟩ := Outcome.bind_eq_ok.mp he
  obtain ⟨nodes, hnodes, he⟩ := Outcome.bind_eq_ok.mp he
  obtain rfl := Outcome.pure_eq_ok.mp he
  have hslot : ∀ {slot v d}, (renderer net).slotDeclaration mat.name slot v = .ok d →
      d.LiteralHolds P := by
    intro slot v d hd
    obtain ⟨a, ha, rfl⟩ := slotDeclaration_eq_ok.mp hd
    rintro t rfl
    rw [slotAssignment] at ha
    split at ha
    · exact assignment_holds h ha
    · cases ha
  refine List.forall_mem_append.mpr ⟨List.forall_mem_append.mpr ⟨fun d hd => ?_, ?_⟩,
    nodeBlocks_hold h hnodes⟩
  · obtain ⟨p, _, hd⟩ := (Outcome.mem_mapM hinputs).mp hd
    obtain ⟨c, _, rfl⟩ := parameterDeclaration_eq_ok.mp hd
    exact fun t ht => Assignment.literal.inj ht ▸ c.literal_seamed h
  · exact List.forall_mem_cons.mpr ⟨hslot hsurface, List.forall_mem_singleton.mpr (hslot hvertex)⟩

theorem graphEntity_holds (h : Seamed P) {k : GraphId}
    (he : (renderer net).graphEntity net k = .ok e) : e.LiteralsHold P := by
  obtain ⟨g, _, he⟩ := Outcome.bind_eq_ok.mp he
  obtain ⟨inputs, hinputs, he⟩ := Outcome.bind_eq_ok.mp he
  obtain ⟨outputs, houtputs, he⟩ := Outcome.bind_eq_ok.mp he
  obtain ⟨nodes, hnodes, he⟩ := Outcome.bind_eq_ok.mp he
  obtain rfl := Outcome.pure_eq_ok.mp he
  refine List.forall_mem_append.mpr ⟨List.forall_mem_append.mpr ⟨fun d hd => ?_, fun d hd => ?_⟩,
    nodeBlocks_hold h hnodes⟩
  · obtain ⟨i, _, hd⟩ := (Outcome.mem_mapM hinputs).mp hd
    obtain ⟨c, _, rfl⟩ := graphInputDeclaration_eq_ok.mp hd
    exact fun t ht => Assignment.literal.inj ht ▸ c.literal_seamed h
  · obtain ⟨o, _, a, ha, rfl | rfl⟩ := (mem_graphOutputs houtputs).mp hd
    · exact fun t ht => absurd ht (by simp)
    · rintro t rfl
      exact assignment_holds h ha

theorem literalsHold_of_compile (h : Seamed P) {settings : Settings} {mat : Material} {c : Compiled}
    (hc : compile settings net mat = .ok c) : ∀ e ∈ c.document.entities, e.LiteralsHold P := by
  obtain ⟨_, parameters, _, hbuild⟩ := compile_eq_ok hc
  obtain ⟨material, hmaterial, graphs, hgraphs, rfl⟩ := build_eq_ok.mp hbuild
  refine List.forall_mem_cons.mpr ⟨materialEntity_holds h hmaterial, fun e he => ?_⟩
  obtain ⟨k, _, hk⟩ := (Outcome.mem_mapM hgraphs).mp he
  exact graphEntity_holds h hk

end Literals

/-! ## Names in terms of the network -/

/-- The names that stand as they are in the entity that some values drive: those of the slots of its
nodes, and those on the paths that values and instances are written as. -/
inductive InscribedIn (root : Text) (net : Network) (entity : Text) (values : List Value) :
    Text → Prop
  | input {id : NodeId} {n : Node} {i : Input} : net.ReachesFrom values id →
      net.node? id = some n → i ∈ n.inputs → InscribedIn root net entity values i.name
  | output {id : NodeId} {n : Node} {o : Output} : net.ReachesFrom values id →
      net.node? id = some n → o ∈ n.outputs → InscribedIn root net entity values o.name
  | node {v : Value} {id : NodeId} {slot name : Text} : net.Occurs values v →
      v.source = .node id slot → name ∈ [root, entity, slot] →
      InscribedIn root net entity values name
  | parameter {v : Value} {x name : Text} {default : Option Constant} : net.Occurs values v →
      v.source = .parameter x default → name ∈ [root, entity, x] →
      InscribedIn root net entity values name
  | graphInput {v : Value} {k : GraphId} {g : NodeGraph} {x name : Text} : net.Occurs values v →
      v.source = .graphInput k x → net.graph? k = some g → name ∈ [root, g.name, x] →
      InscribedIn root net entity values name
  | reference {id : NodeId} {n : Node} {g : NodeGraph} {name : Text} : net.ReachesFrom values id →
      net.node? id = some n → n.isReference = true → net.graph? n.graph = some g →
      name ∈ [root, g.name] → InscribedIn root net entity values name

/-- The names that stand as they are in the document of a material: those of its parameters, those of
the inputs and outputs of its graphs, and those in the material and in the graphs. -/
inductive Inscribed (root : Text) (net : Network) (mat : Material) : Text → Prop
  | parameter {place : NodeId × Nat} {p : Parameter} :
      net.ReadsParameter [mat.surface, mat.geometryModifier] place p → Inscribed root net mat p.name
  | graphInput {k : GraphId} {g : NodeGraph} {i : GraphInput} : k ∈ mat.nodeGraphs →
      net.graph? k = some g → i ∈ g.inputs → Inscribed root net mat i.name
  | graphOutput {k : GraphId} {g : NodeGraph} {o : GraphOutput} : k ∈ mat.nodeGraphs →
      net.graph? k = some g → o ∈ g.outputs → Inscribed root net mat o.name
  | material {name : Text} :
      InscribedIn root net mat.name [mat.surface, mat.geometryModifier] name →
      Inscribed root net mat name
  | graph {k : GraphId} {g : NodeGraph} {name : Text} : k ∈ mat.nodeGraphs →
      net.graph? k = some g → InscribedIn root net g.name g.outputValues name →
      Inscribed root net mat name

section Names

variable {root name : Text} {net : Network} {mat : Material} {e : Entity} {values : List Value}

theorem Declaration.mem_names {ds : List Declaration} : name ∈ ds.flatMap (·.names root) ↔
    name ∈ ds.map (·.name) ∨ ∃ t, Connects ds t ∧ name ∈ t.names root := by
  simp only [List.mem_flatMap, Declaration.names, List.mem_cons, and_or_left, exists_or,
    List.mem_map, Connects]
  refine or_congr (by simp only [eq_comm]) ⟨?_, ?_⟩
  · rintro ⟨d, hd, hname⟩
    cases ha : d.assignment with
    | unset => simp [ha, Assignment.names] at hname
    | literal t => simp [ha, Assignment.names] at hname
    | connection t => exact ⟨t, ⟨d, hd, ha⟩, by simpa [ha, Assignment.names] using hname⟩
  · rintro ⟨t, ⟨d, hd, ha⟩, hname⟩
    exact ⟨d, hd, by simpa [ha, Assignment.names] using hname⟩

theorem Entity.mem_names : name ∈ e.names root ↔ name ∈ e.slots.map (·.name) ∨
    (∃ b ∈ e.nodes, name ∈ b.slots.map (·.name)) ∨
      (∃ t, Connects e.declarations t ∧ name ∈ t.names root) ∨
        ∃ b ∈ e.nodes, name ∈ b.kind.names root := by
  have hslots : name ∈ e.declarations.map (·.name) ↔
      name ∈ e.slots.map (·.name) ∨ ∃ b ∈ e.nodes, name ∈ b.slots.map (·.name) := by
    simp only [Entity.declarations, List.map_append, List.mem_append, List.map_flatMap,
      List.mem_flatMap]
  rw [← or_assoc, ← hslots, Entity.declarations, ← or_assoc, ← Declaration.mem_names,
    List.flatMap_append, List.flatMap_assoc, Entity.names]
  simp only [List.mem_append, List.mem_flatMap (b := name), NodeBlock.names, and_or_left, exists_or]
  rw [or_assoc]
  exact or_congr_right or_comm

theorem names_of_mapM {α : Type} {f : α → Except Misuse Declaration} (label : α → Text)
    {xs : List α} {ds : List Declaration} (h : xs.mapM f = .ok ds)
    (hf : ∀ x d, f x = .ok d → d.name = label x) : ds.map (·.name) = xs.map label := by
  have hall := Outcome.mapM_eq_ok.mp h
  clear h
  induction hall with
  | nil => rfl
  | cons hx _ ih => rw [List.map_cons, List.map_cons, hf _ _ hx, ih]

theorem nodeBlock_names {entity : Text} {id : NodeId} {n : Node} {b : NodeBlock}
    (h : (renderer net).nodeBlock net entity id n = .ok b) :
    b.slots.map (·.name) = n.inputs.map (·.name) ++ n.outputs.map (·.name) := by
  obtain ⟨kind, _, inputs, hinputs, rfl⟩ := nodeBlock_eq_ok.mp h
  have hnames := names_of_mapM Input.name hinputs fun i d hd => by
    obtain ⟨a, _, rfl⟩ := inputDeclaration_eq_ok.mp hd
    rfl
  rw [List.map_append, hnames, List.map_map]
  rfl

theorem nodeBlock_references {entity : Text} {id : NodeId} {n : Node} {b : NodeBlock}
    (h : (renderer net).nodeBlock net entity id n = .ok b) : name ∈ b.kind.names root ↔
      n.isReference = true ∧ ∃ g, net.graph? n.graph = some g ∧ name ∈ [root, g.name] := by
  have hkind : ∀ graph, b.kind = .instanceOf graph ↔
      n.isReference = true ∧ ∃ g, net.graph? n.graph = some g ∧ g.name = graph :=
    fun _ => nodeBlock_instanceOf h
  cases hk : b.kind with
  | shader type =>
    refine iff_of_false (by simp [NodeKind.names]) ?_
    rintro ⟨href, g, hg, _⟩
    have hinstance := (hkind g.name).mpr ⟨href, g, hg, rfl⟩
    rw [hk] at hinstance
    cases hinstance
  | instanceOf graph =>
    obtain ⟨href, g, hg, rfl⟩ := (hkind graph).mp hk
    rw [NodeKind.names]
    refine ⟨fun hname => ⟨href, g, hg, hname⟩, ?_⟩
    rintro ⟨_, g', hg', hname⟩
    obtain rfl := Option.some.inj (hg.symm.trans hg')
    exact hname

theorem Entity.DrivenBy.exists_block (h : e.DrivenBy net values) {P : NodeBlock → Prop}
    {Q : Node → Prop}
    (hiff : ∀ {id n b}, (renderer net).nodeBlock net e.name id n = .ok b → (P b ↔ Q n)) :
    (∃ b ∈ e.nodes, P b) ↔ ∃ id n, net.ReachesFrom values id ∧ net.node? id = some n ∧ Q n := by
  constructor
  · rintro ⟨b, hb, hP⟩
    obtain ⟨id, n, hid, hn, hnb⟩ := (h.blocks b).mp hb
    exact ⟨id, n, hid, hn, (hiff hnb).mp hP⟩
  · rintro ⟨id, n, hid, hn, hQ⟩
    obtain ⟨b, hnb⟩ := h.complete id n hid hn
    exact ⟨b, (h.blocks b).mpr ⟨id, n, hid, hn, hnb⟩, (hiff hnb).mpr hQ⟩

theorem Entity.DrivenBy.exists_path (h : e.DrivenBy net values) :
    (∃ t, Connects e.declarations t ∧ name ∈ t.names root) ↔
      ∃ v t, net.Occurs values v ∧ assignment net e.name v = .ok (.connection t) ∧
        name ∈ t.names root := by
  constructor
  · rintro ⟨t, ht, hname⟩
    obtain ⟨v, hv, ha⟩ := (h.connections t).mp ht
    exact ⟨v, t, hv, ha, hname⟩
  · rintro ⟨v, t, hv, ha, hname⟩
    exact ⟨t, (h.connections t).mpr ⟨v, hv, ha⟩, hname⟩

theorem Entity.DrivenBy.mem_names (h : e.DrivenBy net values) : name ∈ e.names root ↔
    name ∈ e.slots.map (·.name) ∨ InscribedIn root net e.name values name := by
  rw [Entity.mem_names, h.exists_path,
    h.exists_block (Q := fun n => name ∈ n.inputs.map (·.name) ++ n.outputs.map (·.name))
      fun hnb => by rw [nodeBlock_names hnb],
    h.exists_block nodeBlock_references]
  refine or_congr_right ⟨?_, fun hin => ?_⟩
  · rintro (⟨id, n, hid, hn, hname⟩ | ⟨v, t, hv, ha, hname⟩ | ⟨id, n, hid, hn, href, g, hg, hname⟩)
    · rcases List.mem_append.mp hname with hname | hname
      · obtain ⟨i, hi, rfl⟩ := List.mem_map.mp hname
        exact .input hid hn hi
      · obtain ⟨o, ho, rfl⟩ := List.mem_map.mp hname
        exact .output hid hn ho
    · rcases assignment_connection.mp ha with
        ⟨id, slot, hs, rfl⟩ | ⟨k, x, g, hs, hg, rfl⟩ | ⟨x, c, hs, rfl⟩
      · exact .node hv hs hname
      · exact .graphInput hv hs hg hname
      · exact .parameter hv hs hname
    · exact .reference hid hn href hg hname
  · cases hin with
    | input hid hn hi =>
      exact Or.inl ⟨_, _, hid, hn, List.mem_append_left _ (List.mem_map_of_mem hi)⟩
    | output hid hn ho =>
      exact Or.inl ⟨_, _, hid, hn, List.mem_append_right _ (List.mem_map_of_mem ho)⟩
    | node hv hs hname =>
      exact Or.inr (Or.inl ⟨_, _, hv, assignment_connection.mpr (Or.inl ⟨_, _, hs, rfl⟩), hname⟩)
    | parameter hv hs hname =>
      exact Or.inr (Or.inl ⟨_, _, hv, assignment_connection.mpr
        (Or.inr (Or.inr ⟨_, _, hs, rfl⟩)), hname⟩)
    | graphInput hv hs hg hname =>
      exact Or.inr (Or.inl ⟨_, _, hv, assignment_connection.mpr
        (Or.inr (Or.inl ⟨_, _, _, hs, hg, rfl⟩)), hname⟩)
    | reference hid hn href hg hname =>
      exact Or.inr (Or.inr ⟨_, _, hid, hn, href, _, hg, hname⟩)

def outputNames : List Text := ["mtlx:surface", "realitykit:vertex"]

theorem materialEntity_names {parameters : List Parameter}
    (h : (renderer net).materialEntity net mat parameters = .ok e) : e.slots.map (·.name) =
      parameters.map (·.name) ++ outputNames := by
  obtain ⟨inputs, hinputs, h⟩ := Outcome.bind_eq_ok.mp h
  obtain ⟨surface, hsurface, h⟩ := Outcome.bind_eq_ok.mp h
  obtain ⟨vertex, hvertex, h⟩ := Outcome.bind_eq_ok.mp h
  obtain ⟨nodes, _, h⟩ := Outcome.bind_eq_ok.mp h
  obtain rfl := Outcome.pure_eq_ok.mp h
  obtain ⟨a, _, rfl⟩ := slotDeclaration_eq_ok.mp hsurface
  obtain ⟨b, _, rfl⟩ := slotDeclaration_eq_ok.mp hvertex
  have hnames := names_of_mapM Parameter.name hinputs fun p d hd => by
    obtain ⟨c, _, rfl⟩ := parameterDeclaration_eq_ok.mp hd
    rfl
  rw [List.map_append, hnames]
  rfl

theorem graphEntity_names {k : GraphId} {g : NodeGraph} (hg : net.graph? k = some g)
    (h : (renderer net).graphEntity net k = .ok e) : name ∈ e.slots.map (·.name) ↔
      (∃ i ∈ g.inputs, i.name = name) ∨ ∃ o ∈ g.outputs, o.name = name := by
  constructor
  · intro hname
    obtain ⟨d, hd, rfl⟩ := List.mem_map.mp hname
    rcases graphEntity_slots hg h hd with ⟨i, hi, _, rfl⟩ | ⟨o, ho, _, _, rfl⟩
    · exact Or.inl ⟨i, hi, rfl⟩
    · exact Or.inr ⟨o, ho, rfl⟩
  · obtain ⟨_, hinputs, houtputs, _⟩ := graphEntity_spec hg h
    have hmem : ∀ {side}, Declares e.slots side name → name ∈ e.slots.map (·.name) := by
      rintro side ⟨d, hd, _, rfl⟩
      exact List.mem_map_of_mem hd
    rintro (⟨i, hi, rfl⟩ | ⟨o, ho, rfl⟩)
    · exact hmem ((hinputs _).mpr (List.mem_map_of_mem hi))
    · exact hmem (houtputs _ (List.mem_map_of_mem ho))

theorem driven_of_check {settings : Settings} {parameters : List Parameter}
    (h : check settings net mat = .ok ([], parameters)) :
    ¬ Undriven mat.surface ∧ ¬ Undriven mat.geometryModifier := by
  obtain ⟨⟨listed, outputs⟩, _, h⟩ := Outcome.bind_eq_ok.mp h
  obtain ⟨unlisted, _, h⟩ := Outcome.bind_eq_ok.mp h
  obtain ⟨found, _, h⟩ := Outcome.bind_eq_ok.mp h
  obtain ⟨collected, _, h⟩ := Outcome.bind_eq_ok.mp h
  obtain ⟨conflicts, _, h⟩ := Outcome.bind_eq_ok.mp h
  have hnone := (Prod.mk.inj (Outcome.pure_eq_ok.mp h)).1
  simp only [List.append_eq_nil_iff, outputFaults_eq_nil] at hnone
  exact hnone.1.1.1.1

theorem mem_material_names {policy : ParameterPolicy} {collected : Collected}
    (hs : ¬ Undriven mat.surface) (hm : ¬ Undriven mat.geometryModifier)
    (hc : net.parameters policy (materialRoots mat) = .ok collected)
    (h : (renderer net).materialEntity net mat collected.parameters = .ok e) :
    name ∈ e.names root ↔
      ((∃ place p, net.ReadsParameter [mat.surface, mat.geometryModifier] place p ∧
        p.name = name) ∨ name ∈ outputNames) ∨
      InscribedIn root net mat.name [mat.surface, mat.geometryModifier] name := by
  obtain ⟨hname, _, hdriven⟩ := materialEntity_spec hs hm h
  have hparameters : name ∈ collected.parameters.map (·.name) ↔
      ∃ place p, net.ReadsParameter [mat.surface, mat.geometryModifier] place p ∧ p.name = name :=
    Network.mem_parameter_names hc
  rw [hdriven.mem_names, materialEntity_names h, List.mem_append, hparameters, hname]

theorem mem_graph_names {k : GraphId} {g : NodeGraph} (hg : net.graph? k = some g)
    (h : (renderer net).graphEntity net k = .ok e) : name ∈ e.names root ↔
      ((∃ i ∈ g.inputs, i.name = name) ∨ ∃ o ∈ g.outputs, o.name = name) ∨
        InscribedIn root net g.name g.outputValues name := by
  obtain ⟨hname, _, _, hdriven⟩ := graphEntity_spec hg h
  rw [hdriven.mem_names, graphEntity_names hg h, hname]

theorem mem_names_of_build {settings : Settings} {parameters : List Parameter} {c : Compiled}
    (h : (renderer net).build settings net mat parameters = .ok c) : name ∈ c.document.names ↔
      (∃ e, (renderer net).materialEntity net mat parameters = .ok e ∧ name ∈ e.names settings.root) ∨
        ∃ k ∈ mat.nodeGraphs, ∃ e, (renderer net).graphEntity net k = .ok e ∧ name ∈ e.names settings.root := by
  obtain ⟨material, hmaterial, graphs, hgraphs, rfl⟩ := build_eq_ok.mp h
  simp only [Document.names, List.flatMap_cons, List.mem_append, List.mem_flatMap,
    Outcome.mem_mapM hgraphs, hmaterial, Except.ok.injEq, exists_eq_left']
  refine or_congr_right ⟨?_, ?_⟩
  · rintro ⟨e, ⟨k, hk, he⟩, hname⟩
    exact ⟨k, hk, e, he, hname⟩
  · rintro ⟨k, hk, e, he, hname⟩
    exact ⟨e, ⟨k, hk, he⟩, hname⟩

theorem mem_document_names {settings : Settings} {c : Compiled}
    (hc : compile settings net mat = .ok c) : name ∈ c.document.names ↔
      Inscribed settings.root net mat name ∨ name ∈ outputNames := by
  obtain ⟨_, parameters, hcheck, hbuild⟩ := compile_eq_ok hc
  have hlisted := listed_of_build hbuild
  obtain ⟨hsurface, hmodifier⟩ := driven_of_check hcheck
  obtain ⟨collected, hcollected, rfl⟩ := parameters_of_check hcheck
  obtain ⟨material, hmaterial, _⟩ := build_eq_ok.mp hbuild
  rw [mem_names_of_build hbuild]
  constructor
  · rintro (⟨e, he, hname⟩ | ⟨k, hk, e, he, hname⟩)
    · rcases (mem_material_names hsurface hmodifier hcollected he).mp hname with
        (⟨place, p, hp, rfl⟩ | hname) | hin
      · exact Or.inl (.parameter hp)
      · exact Or.inr hname
      · exact Or.inl (.material hin)
    · obtain ⟨g, _, hg, _⟩ := hlisted k hk
      rcases (mem_graph_names hg he).mp hname with (⟨i, hi, rfl⟩ | ⟨o, ho, rfl⟩) | hin
      · exact Or.inl (.graphInput hk hg hi)
      · exact Or.inl (.graphOutput hk hg ho)
      · exact Or.inl (.graph hk hg hin)
  · intro h
    have hfirst : (_ ∨ _) ∨ _ → name ∈ material.names settings.root :=
      (mem_material_names hsurface hmodifier hcollected hmaterial).mpr
    have hgraph : ∀ {k g}, k ∈ mat.nodeGraphs → net.graph? k = some g →
        ((∃ i ∈ g.inputs, i.name = name) ∨ ∃ o ∈ g.outputs, o.name = name) ∨
          InscribedIn settings.root net g.name g.outputValues name →
        ∃ k ∈ mat.nodeGraphs, ∃ e, (renderer net).graphEntity net k = .ok e ∧ name ∈ e.names settings.root := by
      intro k g hk hg hin
      obtain ⟨_, e, _, he⟩ := hlisted k hk
      exact ⟨k, hk, e, he, (mem_graph_names hg he).mpr hin⟩
    rcases h with hin | hname
    · cases hin with
      | parameter hp =>
        exact Or.inl ⟨material, hmaterial, hfirst (Or.inl (Or.inl ⟨_, _, hp, rfl⟩))⟩
      | graphInput hk hg hi => exact Or.inr (hgraph hk hg (Or.inl (Or.inl ⟨_, hi, rfl⟩)))
      | graphOutput hk hg ho => exact Or.inr (hgraph hk hg (Or.inl (Or.inr ⟨_, ho, rfl⟩)))
      | material hin => exact Or.inl ⟨material, hmaterial, hfirst (Or.inr hin)⟩
      | graph hk hg hin => exact Or.inr (hgraph hk hg (Or.inr hin))
    · exact Or.inl ⟨material, hmaterial, hfirst (Or.inl (Or.inr hname))⟩

/-- A property that can be told from pieces holds of the lines of a material exactly if it holds of the
names of the network that stand in them as they are. -/
theorem lines_iff_of_compile {P : Text → Prop} (h : Seamed P) {settings : Settings} {c : Compiled}
    (hc : compile settings net mat = .ok c) :
    (∀ line ∈ c.lines, P line) ↔ ∀ name, Inscribed settings.root net mat name → P name := by
  have hfixed : ∀ name ∈ outputNames, P name := List.forall_mem_cons.mpr ⟨h.smooth (by decide),
    List.forall_mem_singleton.mpr (h.smooth (by decide))⟩
  rw [Compiled.lines, Document.lines_iff h (literalsHold_of_compile h hc)]
  simp only [mem_document_names hc]
  exact ⟨fun hall name hin => hall name (Or.inl hin),
    fun hall name hin => hin.elim (hall name) (hfixed name)⟩

end Names

end Stage
end ShaderGraph
