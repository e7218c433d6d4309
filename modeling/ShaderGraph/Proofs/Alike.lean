import ShaderGraph.Proofs.Charts
import ShaderGraph.Proofs.Spans

/-!
# Declarations that differ in their places

Declarations are alike if their expressions mean the same and they differ in nothing else but spans,
and blueprints if in addition the nodes of the top level and those of each graph are in another order.
A chart depends on neither: it is made of what declarations mean, and handles are given to nodes by name.
-/
namespace ShaderGraph.Blueprint

open Config (Expr Span)

/-! ## Expressions -/

abbrev Same (e? e'? : Option Expr) : Prop := Option.Rel Expr.Agrees e? e'?

theorem Same.symm {e? e'? : Option Expr} (h : Same e? e'?) : Same e'? e? := by
  cases h with
  | none => exact .none
  | some h => exact .some h.symm

theorem Same.isNone {e? e'? : Option Expr} (h : Same e? e'?) : e?.isNone = e'?.isNone := by
  cases h <;> rfl

theorem literal_congr {type : DataType} {e? e'? : Option Expr} (h : Same e? e'?) {space : Text}
    {subject : Span} (subject' : Span) {c : Constant} (hc : literal type e? space subject = .ok c) :
    literal type e'? space subject' = .ok c := by
  unfold literal at hc ⊢
  split at hc
  · cases hc
  · cases h with
    | none => exact hc
    | some h =>
      dsimp only at hc ⊢
      rw [← h.eval.problems, ← h.eval.value]
      split at hc
      · cases hc
      · rename_i hproblems
        rw [if_neg hproblems]
        split at hc
        · exact hc
        · cases hc

theorem typed_congr {α : Type} {read : Config.Datum → Except Config.ConversionError α} {e e' : Expr}
    (h : e.Agrees e') {a : α} (ha : Decode.typed read e = .ok a) :
    Decode.typed read e' = .ok a := by
  unfold Decode.typed at ha ⊢
  dsimp only at ha ⊢
  rw [← h.eval.value, ← h.eval.problems]
  split at ha
  · split at ha
    · rename_i hproblems
      rwa [if_pos hproblems]
    · cases ha
  · cases ha

theorem Refers.congr {e e' : Expr} (h : e.Agrees e') {t : Scope.Target} (ht : Refers e t) :
    Refers e' t := by
  obtain ⟨root, steps, href, htarget⟩ := ht
  exact ⟨root, steps, h.reference.symm.trans href, htarget⟩

variable {net : Network} {frame : Frame} {handle : Text → Option NodeId}

theorem Denotes.congr {e? e'? : Option Expr} (h : Same e? e'?) {type? : Option DataType}
    {space : Text} {v : Value} (hv : Denotes net frame handle e? type? space v) :
    Denotes net frame handle e'? type? space v := by
  cases h with
  | none => exact hv
  | some h =>
    cases hv with
    | constant href hc =>
      exact .constant (h.reference.symm.trans href) (literal_congr (.some h) _ hc)
    | parameter hrefers hgraph hlookup => exact .parameter (hrefers.congr h) hgraph hlookup
    | graphInput hrefers hgraph hfind => exact .graphInput (hrefers.congr h) hgraph hfind
    | node hrefers hid hpicks => exact .node (hrefers.congr h) hid hpicks

/-! ## Declarations -/

def Extra.Alike (x x' : Extra) : Prop := x.unsupported = [] ↔ x'.unsupported = []

structure Parameter.Alike (p p' : Parameter) : Prop where
  name : p.name = p'.name
  type : p.type = p'.type
  default : Same p.default p'.default
  colorSpace : p.colorSpace = p'.colorSpace
  texture : p.texture = p'.texture
  extra : p.extra.Alike p'.extra

structure GraphInput.Alike (i i' : GraphInput) : Prop where
  name : i.name = i'.name
  type : i.type = i'.type
  default : Same i.default i'.default
  colorSpace : i.colorSpace = i'.colorSpace
  extra : i.extra.Alike i'.extra

structure GraphOutput.Alike (o o' : GraphOutput) : Prop where
  name : o.name = o'.name
  value : Same o.value o'.value
  type : o.type = o'.type

structure Input.Alike (i i' : Input) : Prop where
  name : i.name = i'.name
  type : i.type = i'.type
  value : Same i.value i'.value
  colorSpace : i.colorSpace = i'.colorSpace
  extra : i.extra.Alike i'.extra

structure Node.Alike (n n' : Node) : Prop where
  name : n.name = n'.name
  type : n.type = n'.type
  graph : n.graph = n'.graph
  inputs : List.Forall₂ Input.Alike n.inputs n'.inputs
  outputs : n.outputs = n'.outputs
  extra : n.extra.Alike n'.extra

def Rearranged {α : Type} (R : α → α → Prop) (xs xs' : List α) : Prop :=
  ∃ mid, xs.Perm mid ∧ List.Forall₂ R mid xs'

structure Graph.Alike (g g' : Graph) : Prop where
  name : g.name = g'.name
  inputs : List.Forall₂ GraphInput.Alike g.inputs g'.inputs
  nodes : Rearranged Node.Alike g.nodes g'.nodes
  outputs : List.Forall₂ GraphOutput.Alike g.outputs g'.outputs
  extra : g.extra.Alike g'.extra

structure Material.Alike (m m' : Material) : Prop where
  name : m.name = m'.name
  surface : Same m.surface m'.surface
  geometryModifier : Same m.geometryModifier m'.geometryModifier
  nodeGraphs : Same m.nodeGraphs m'.nodeGraphs
  extra : m.extra.Alike m'.extra

/-! ## What they give -/

theorem Parameter.Gives.congr {base : Text} {p p' : Parameter} (h : p.Alike p')
    {entry : Text × Constant} (hp : p.Gives base entry) : p'.Gives base entry := by
  obtain ⟨hextra, hname, hconstant⟩ := hp
  refine ⟨h.extra.mp hextra, hname.trans h.name, ?_⟩
  unfold Parameter.constant at hconstant ⊢
  rw [← h.type, ← h.texture]
  dsimp only at hconstant ⊢
  split at hconstant
  · cases hconstant
  · have hnone := h.default.isNone
    cases hdefault : p.default with
    | none =>
      rw [hdefault] at hnone hconstant
      rwa [Option.isNone_iff_eq_none.mp hnone.symm]
    | some e =>
      rw [hdefault] at hconstant
      cases hconstant
  · split at hconstant
    · cases hconstant
    · rename_i htexture
      rw [if_neg htexture, ← h.colorSpace]
      exact literal_congr h.default _ hconstant

theorem GraphInput.Gives.congr {i i' : GraphInput} (h : i.Alike i') {slot : ShaderGraph.GraphInput}
    (hi : i.Gives slot) : i'.Gives slot := by
  obtain ⟨hextra, type, htype, hslot⟩ := hi
  refine ⟨h.extra.mp hextra, type, h.type ▸ htype, ?_⟩
  rw [← h.default.isNone, ← h.colorSpace, ← h.name]
  split at hslot
  · rename_i hplain
    rwa [if_pos hplain]
  · rename_i hplain
    obtain ⟨c, hc, rfl⟩ := hslot
    rw [if_neg hplain]
    exact ⟨c, literal_congr h.default _ hc, rfl⟩

theorem GraphOutput.Gives.congr {o o' : GraphOutput} (h : o.Alike o')
    {out : ShaderGraph.GraphOutput} (ho : o.Gives net frame handle out) :
    o'.Gives net frame handle out := by
  obtain ⟨hname, habsent, hvalue⟩ := ho
  refine ⟨hname.trans h.name, habsent, ?_⟩
  rw [← h.type]
  rcases hvalue with ⟨htype, hv⟩ | ⟨htype, type, hparse, heq, hv⟩
  · exact Or.inl ⟨htype, hv.congr h.value⟩
  · exact Or.inr ⟨htype, type, hparse, heq, hv.congr h.value⟩

theorem Drives.congr {e? e'? : Option Expr} (h : Same e? e'?) {v : Value}
    (hv : Drives net frame handle e? v) : Drives net frame handle e'? v :=
  ⟨hv.1.congr h, hv.2⟩

theorem Material.Gives.congr {m m' : Material} (h : m.Alike m') {mat : Stage.Material}
    (hm : m.Gives net frame handle mat) : m'.Gives net frame handle mat := by
  refine ⟨h.extra.mp hm.supported, h.name ▸ hm.named, hm.name.trans h.name,
    hm.surface.congr h.surface, hm.geometryModifier.congr h.geometryModifier, ?_⟩
  have hlists := hm.graphs
  have hsame := h.nodeGraphs
  unfold Material.Lists at hlists ⊢
  revert hlists hsame
  generalize m.nodeGraphs = e?
  generalize m'.nodeGraphs = e'?
  intro hlists hsame
  cases hsame with
  | none => exact hlists
  | some hsame =>
    obtain ⟨names, hnames, hall⟩ := hlists
    exact ⟨names, typed_congr hsame hnames, hall⟩

theorem forall₂_left_congr {α β : Type} {R : α → α → Prop} {S : α → β → Prop} {xs xs' : List α}
    {ys : List β} (h : List.Forall₂ R xs xs') (hall : List.Forall₂ S xs ys)
    (hS : ∀ {x x' y}, R x x' → S x y → S x' y) : List.Forall₂ S xs' ys := by
  induction hall generalizing xs' with
  | nil =>
    cases h
    exact .nil
  | cons hy _ ih =>
    cases h with
    | cons hx h => exact .cons (hS hx hy) (ih h)

theorem Slot.congr {nodeType : Text} {i i' : Input} (h : i.Alike i') {slot : ShaderGraph.Input}
    (hi : Slot net frame handle nodeType i slot) : Slot net frame handle nodeType i' slot := by
  obtain ⟨type, v, hparse, hv, rfl⟩ := hi
  exact ⟨type, v, h.type ▸ hparse, h.colorSpace ▸ hv.congr h.value, by rw [h.name]⟩

theorem CopySlot.congr {g : NodeGraph} {i i' : Input} (h : i.Alike i') {slot : ShaderGraph.Input}
    (hi : CopySlot net frame handle g i slot) : CopySlot net frame handle g i' slot := by
  obtain ⟨declared, v, hdeclared, hcheck, hv, rfl⟩ := hi
  exact ⟨declared, v, h.name ▸ hdeclared, h.type ▸ hcheck, h.colorSpace ▸ hv.congr h.value,
    by rw [h.name]⟩

theorem Describes.congr {n n' : Node} (h : n.Alike n') {node : ShaderGraph.Node}
    (hn : Describes net frame handle n node) : Describes net frame handle n' node := by
  cases hn with
  | shader hshader htype hreserved htype' hgraph hins hnodup houts hnodup' =>
    rw [h.graph] at hshader
    rw [h.type] at htype hreserved htype' hins
    rw [h.outputs] at houts
    exact .shader hshader htype hreserved htype' hgraph
      (forall₂_left_congr h.inputs hins fun h => Slot.congr h) hnodup houts hnodup'
  | copy hcopy htype houtputs htype' houtputs' hg hname hown hins hnodup =>
    rw [h.graph] at hcopy hname
    rw [h.type] at htype
    rw [h.outputs] at houtputs
    exact .copy hcopy htype houtputs htype' houtputs' hg hname hown
      (forall₂_left_congr h.inputs hins fun h => CopySlot.congr h) hnodup

theorem Scope.Supported.congr {n n' : Node} (h : n.Alike n') (hn : Scope.Supported n) :
    Scope.Supported n' := by
  refine ⟨h.extra.mp hn.1, fun i' hi' => ?_⟩
  obtain ⟨i, hi, halike⟩ := exists_of_forall₂ h.inputs.flip hi'
  exact halike.extra.mp (hn.2 i hi)

/-! ## Other orders -/

theorem Rearranged.exists_left {α : Type} {R : α → α → Prop} {xs xs' : List α}
    (h : Rearranged R xs xs') {x' : α} (hx' : x' ∈ xs') : ∃ x ∈ xs, R x x' := by
  obtain ⟨mid, hperm, hall⟩ := h
  obtain ⟨x, hx, hr⟩ := exists_of_forall₂ hall.flip hx'
  exact ⟨x, hperm.mem_iff.mpr hx, hr⟩

theorem Rearranged.exists_right {α : Type} {R : α → α → Prop} {xs xs' : List α}
    (h : Rearranged R xs xs') {x : α} (hx : x ∈ xs) : ∃ x' ∈ xs', R x x' := by
  obtain ⟨mid, hperm, hall⟩ := h
  exact exists_of_forall₂ hall (hperm.mem_iff.mp hx)

theorem Rearranged.map_perm {α β : Type} {R : α → α → Prop} {f : α → β}
    (hR : ∀ x x', R x x' → f x = f x') {xs xs' : List α} (h : Rearranged R xs xs') :
    (xs.map f).Perm (xs'.map f) := by
  obtain ⟨mid, hperm, hall⟩ := h
  rw [← map_eq_of_forall₂ (hall.imp hR)]
  exact hperm.map f

theorem Charted.congr {nodes nodes' : List Node} (h : Rearranged Node.Alike nodes nodes')
    {low high : Nat} (hc : Charted net frame nodes low high handle) :
    Charted net frame nodes' low high handle := by
  refine ⟨?_, fun n' hn' => ?_, fun name id hid => ?_, hc.onto, hc.injective⟩
  · exact (h.map_perm fun _ _ halike => halike.name).nodup_iff.mp hc.names
  · obtain ⟨n, hn, halike⟩ := h.exists_left hn'
    obtain ⟨id, node, hid, hlow, hhigh, hsupported, hnode, hdescribes⟩ := hc.described n hn
    exact ⟨id, node, halike.name ▸ hid, hlow, hhigh, hsupported.congr halike, hnode,
      hdescribes.congr halike⟩
  · obtain ⟨n, hn, rfl⟩ := hc.named name id hid
    obtain ⟨n', hn', halike⟩ := h.exists_right hn
    exact ⟨n', hn', halike.name.symm⟩

theorem Graph.Charted.congr {b b' : Graph} (h : b.Alike b') {g : NodeGraph} {low high : Nat}
    (hb : b.Charted net g low high handle) : b'.Charted net g low high handle where
  supported := h.extra.mp hb.supported
  name := hb.name.trans h.name
  inputs := forall₂_left_congr h.inputs hb.inputs fun h => GraphInput.Gives.congr h
  nodes := hb.nodes.congr h.nodes
  outputs := forall₂_left_congr h.outputs hb.outputs fun h => GraphOutput.Gives.congr h

theorem Graph.ChartedAll.congr {bs bs' : List Graph} (h : List.Forall₂ Graph.Alike bs bs')
    {gs : List NodeGraph} {low high : Nat} (hall : Graph.ChartedAll net bs gs low high) :
    Graph.ChartedAll net bs' gs low high := by
  induction hall generalizing bs' with
  | nil low =>
    cases h
    exact .nil low
  | cons hb hle _ ih =>
    cases h with
    | cons halike h => exact .cons (hb.congr halike) hle (ih h)

/-- The blueprints differ in spans and in the order of the nodes of each scope, and in their expressions
as far as these mean the same. -/
structure Alike (bp bp' : Blueprint) : Prop where
  parameters : List.Forall₂ Parameter.Alike bp.parameters bp'.parameters
  graphs : List.Forall₂ Graph.Alike bp.graphs bp'.graphs
  nodes : Rearranged Node.Alike bp.nodes bp'.nodes
  materials : List.Forall₂ Material.Alike bp.materials bp'.materials

theorem Extra.Alike.symm {x x' : Extra} (h : x.Alike x') : x'.Alike x := Iff.symm h

theorem Parameter.Alike.symm {p p' : Parameter} (h : p.Alike p') : p'.Alike p :=
  ⟨h.name.symm, h.type.symm, h.default.symm, h.colorSpace.symm, h.texture.symm, h.extra.symm⟩

theorem GraphInput.Alike.symm {i i' : GraphInput} (h : i.Alike i') : i'.Alike i :=
  ⟨h.name.symm, h.type.symm, h.default.symm, h.colorSpace.symm, h.extra.symm⟩

theorem GraphOutput.Alike.symm {o o' : GraphOutput} (h : o.Alike o') : o'.Alike o :=
  ⟨h.name.symm, h.value.symm, h.type.symm⟩

theorem Input.Alike.symm {i i' : Input} (h : i.Alike i') : i'.Alike i :=
  ⟨h.name.symm, h.type.symm, h.value.symm, h.colorSpace.symm, h.extra.symm⟩

theorem Node.Alike.symm {n n' : Node} (h : n.Alike n') : n'.Alike n :=
  ⟨h.name.symm, h.type.symm, h.graph.symm, h.inputs.flip.imp fun _ _ hi => hi.symm, h.outputs.symm,
    h.extra.symm⟩

theorem Rearranged.symm {α : Type} {R : α → α → Prop} (hR : ∀ {x x'}, R x x' → R x' x)
    {xs xs' : List α} (h : Rearranged R xs xs') : Rearranged R xs' xs := by
  obtain ⟨mid, hperm, hall⟩ := h
  obtain ⟨mid', hall', hperm'⟩ := List.perm_comp_forall₂ hperm hall
  exact ⟨mid', hperm'.symm, hall'.flip.imp fun _ _ hx => hR hx⟩

theorem Graph.Alike.symm {g g' : Graph} (h : g.Alike g') : g'.Alike g :=
  ⟨h.name.symm, h.inputs.flip.imp fun _ _ hi => hi.symm, h.nodes.symm fun hn => hn.symm,
    h.outputs.flip.imp fun _ _ ho => ho.symm, h.extra.symm⟩

theorem Material.Alike.symm {m m' : Material} (h : m.Alike m') : m'.Alike m :=
  ⟨h.name.symm, h.surface.symm, h.geometryModifier.symm, h.nodeGraphs.symm, h.extra.symm⟩

theorem Alike.symm {bp bp' : Blueprint} (h : bp.Alike bp') : bp'.Alike bp :=
  ⟨h.parameters.flip.imp fun _ _ hp => hp.symm, h.graphs.flip.imp fun _ _ hg => hg.symm,
    h.nodes.symm fun hn => hn.symm, h.materials.flip.imp fun _ _ hm => hm.symm⟩

theorem Chart.congr {bp bp' : Blueprint} (h : bp.Alike bp') {base : Text} {l : Loaded}
    {parameters : List (Text × Constant)} {high : Nat}
    (hc : Chart bp base l parameters high handle) : Chart bp' base l parameters high handle :=
  { hc with
    defaults := forall₂_left_congr h.parameters hc.defaults fun h => Parameter.Gives.congr h
    graphs := hc.graphs.congr h.graphs
    nodes := hc.nodes.congr h.nodes
    materials := forall₂_left_congr h.materials hc.materials fun h => Material.Gives.congr h }

end ShaderGraph.Blueprint
