import ShaderGraph.Proofs.Positions

/-!
# Color spaces of a file

A color space is written on a parameter, on an input of a graph or on an input of a node. It is checked
where something is read as a literal, and becomes the tag of that constant. Assets, references and
inputs that are left out are never read so. Their color spaces are overlooked: the file means the same
with any others in their place.
-/
namespace ShaderGraph

def Constant.colorSpace : Constant → Text
  | .color _ _ space => space
  | _ => []

theorem Constant.colorSpace_withColorSpace {c : Constant} (h : c.dataType.isColor = true)
    (space : Text) : (c.withColorSpace space).colorSpace = space := by
  cases c with
  | color => rfl
  | _ => cases h

namespace Blueprint

open Config (Expr Span)
open Load

/-! ## Literals -/

structure Tags (space : Text) (type : DataType) (c : Constant) : Prop where
  known : space ∈ colorSpaces
  color : type.isColor = true
  dataType : c.dataType = type
  tag : c.colorSpace = space

theorem checkColorSpace_eq_ok {type : DataType} {space : Text} (hspace : space ≠ []) :
    checkColorSpace type space = .ok () ↔ space ∈ colorSpaces ∧ type.isColor = true := by
  rw [checkColorSpace, if_neg (by simpa using hspace)]
  split
  · rename_i hunknown
    simp_all
  · split <;> simp_all

theorem tags_of_literal {type : DataType} {e? : Option Expr} {space : Text} {subject : Span}
    {c : Constant} (h : literal type e? space subject = .ok c) (hspace : space ≠ []) :
    Tags space type c := by
  have htype := dataType_literal h
  unfold literal at h
  split at h
  · cases h
  · rename_i hcheck
    obtain ⟨hknown, hcolor⟩ := (checkColorSpace_eq_ok hspace).mp hcheck
    refine ⟨hknown, hcolor, htype, ?_⟩
    rw [← htype] at hcolor
    split at h
    · obtain rfl := Except.ok.inj h
      rw [Constant.dataType_withColorSpace] at hcolor
      exact Constant.colorSpace_withColorSpace hcolor space
    · dsimp only at h
      split at h
      · cases h
      · split at h
        · obtain rfl := Except.ok.inj h
          rw [Constant.dataType_withColorSpace] at hcolor
          exact Constant.colorSpace_withColorSpace hcolor space
        · cases h

/-! ## Color spaces that are overlooked -/

def Parameter.isAsset (p : Parameter) : Bool := DataType.ofName? p.type = some .asset

theorem Parameter.isAsset_iff {p : Parameter} :
    p.isAsset = true ↔ DataType.parse p.type = .ok .asset := by
  rw [isAsset, decide_eq_true_eq, DataType.parse]
  cases DataType.ofName? p.type <;> simp

def Input.isLiteral (i : Input) : Bool := i.value.any (·.reference?.isNone)

def Parameter.pruned (p : Parameter) : Parameter :=
  if p.isAsset then { p with colorSpace := [] } else p

def Input.pruned (i : Input) : Input :=
  if i.isLiteral then i else { i with colorSpace := [] }

def Node.pruned (n : Node) : Node := { n with inputs := n.inputs.map Input.pruned }

def Graph.pruned (b : Graph) : Graph := { b with nodes := b.nodes.map Node.pruned }

/-- The declarations without the color spaces that are overlooked. -/
def pruned (bp : Blueprint) : Blueprint :=
  { bp with
    parameters := bp.parameters.map Parameter.pruned
    graphs := bp.graphs.map Graph.pruned
    nodes := bp.nodes.map Node.pruned }

namespace Input

variable (i : Input)

@[simp] theorem pruned_name : i.pruned.name = i.name := by rw [pruned]; split <;> rfl
@[simp] theorem pruned_type : i.pruned.type = i.type := by rw [pruned]; split <;> rfl
@[simp] theorem pruned_value : i.pruned.value = i.value := by rw [pruned]; split <;> rfl
@[simp] theorem pruned_extra : i.pruned.extra = i.extra := by rw [pruned]; split <;> rfl

end Input

@[simp] theorem Node.pruned_name (n : Node) : n.pruned.name = n.name := rfl

theorem find?_pruned (nodes : List Node) (name : Text) :
    (nodes.map Node.pruned).find? (·.name = name) =
      (nodes.find? (·.name = name)).map Node.pruned := by
  rw [List.find?_map]
  rfl

theorem any_pruned (nodes : List Node) (name : Text) :
    (nodes.map Node.pruned).any (·.name = name) = nodes.any (·.name = name) := by
  rw [List.any_map]
  rfl

namespace Parameter

variable (p : Parameter)

@[simp] theorem pruned_name : p.pruned.name = p.name := by rw [pruned]; split <;> rfl
@[simp] theorem pruned_extra : p.pruned.extra = p.extra := by rw [pruned]; split <;> rfl

theorem constant_pruned (base : Text) :
    p.pruned.constant base = p.constant base := by
  by_cases hasset : p.isAsset = true
  · rw [pruned, if_pos hasset, constant, constant, isAsset_iff.mp hasset]
  · rw [pruned, if_neg hasset]

end Parameter

theorem declareParameters_pruned (base : Text) (done : List (Text × Constant))
    (ps : List Parameter) :
    declareParameters base done (ps.map Parameter.pruned) = declareParameters base done ps := by
  induction ps generalizing done with
  | nil => rfl
  | cons p ps ih =>
    simp only [List.map_cons, declareParameters, Parameter.pruned_name, Parameter.pruned_extra,
      Parameter.constant_pruned, ih]

namespace Scope

def pruned (s : Scope) : Scope := { s with nodes := s.nodes.map Node.pruned }

variable (s : Scope) (build : Text → Load (Option NodeId))

theorem resolve_pruned : s.pruned.resolve build = s.resolve build := by
  funext root steps subject
  simp only [resolve, pruned, any_pruned, place]

theorem value_pruned : s.pruned.value build = s.value build := by
  funext e? type? space
  simp only [value, resolve_pruned]

/-- A color space matters only beside a literal. -/
theorem value_input_pruned (i : Input) (type? : Option DataType) :
    s.value build i.value type? i.pruned.colorSpace = s.value build i.value type? i.colorSpace := by
  rw [Input.pruned]
  split
  · rfl
  · rename_i hliteral
    cases hvalue : i.value with
    | none => rfl
    | some e =>
      cases href : e.reference? with
      | none =>
        rw [Input.isLiteral, hvalue] at hliteral
        simp [href] at hliteral
      | some target => simp only [value, href]

theorem inputs_pruned (node : Text) (done : List ShaderGraph.Input) (ok : Bool) (is : List Input) :
    s.pruned.inputs build node done ok (is.map Input.pruned) = s.inputs build node done ok is := by
  induction is generalizing done ok with
  | nil => rfl
  | cons i is ih =>
    simp only [List.map_cons, inputs, Input.pruned_name, Input.pruned_type, Input.pruned_value,
      Input.pruned_extra, value_pruned, value_input_pruned, ih]

theorem graphInputs_pruned (g : NodeGraph) (node : Text) (done : List ShaderGraph.Input)
    (ok : Bool) (is : List Input) :
    s.pruned.graphInputs build g node done ok (is.map Input.pruned) =
      s.graphInputs build g node done ok is := by
  induction is generalizing done ok with
  | nil => rfl
  | cons i is ih =>
    simp only [List.map_cons, graphInputs, Input.pruned_name, Input.pruned_type,
      Input.pruned_value, Input.pruned_extra, value_pruned, value_input_pruned, ih]

theorem construct_pruned (n : Node) : s.pruned.construct build n.pruned = s.construct build n := by
  simp only [construct, instantiate, shader, Node.pruned, List.forM_eq_forM, List.forM_map,
    Input.pruned_extra, inputs_pruned, graphInputs_pruned]
  rfl

theorem without_pruned (nodes : List Node) (name : Text) :
    without (nodes.map Node.pruned) name = (without nodes name).map Node.pruned := by
  rw [without, without, List.filter_map]
  rfl

theorem build_eq (idle : List Node) (name : Text) : s.build idle name = (do
    match (← get).settled.lookup name with
    | some outcome => return outcome
    | none =>
      match idle.find? (·.name = name) with
      | some n =>
        let outcome ← s.construct (s.build (without idle name)) n
        settle name outcome
        return outcome
      | none =>
        match s.nodes.find? (·.name = name) with
        | some n => report (.cycle name s.place) n.extra.span
        | none => pure ()
        settle name none
        return none) := by
  rw [build]
  congr 1
  funext st
  cases st.settled.lookup name with
  | some outcome => rfl
  | none =>
    cases idle.find? (·.name = name) with
    | some n => rfl
    | none => rfl

theorem build_pruned (idle : List Node) (name : Text) :
    s.pruned.build (idle.map Node.pruned) name = s.build idle name := by
  -- Building a node takes it from the idle ones.
  induction hk : idle.length using Nat.strongRecOn generalizing idle name with
  | ind k ih =>
    subst hk
    rw [build_eq, build_eq, find?_pruned]
    cases hfind : idle.find? (·.name = name) with
    | some n =>
      have hbuild : s.pruned.build ((without idle name).map Node.pruned) =
          s.build (without idle name) :=
        funext fun other => ih _ (length_without_lt hfind) _ other rfl
      simp only [Option.map_some, without_pruned, hbuild, construct_pruned]
    | none =>
      rw [show s.pruned.nodes = s.nodes.map Node.pruned from rfl, find?_pruned]
      cases s.nodes.find? (·.name = name) with
      | some n => rfl
      | none => rfl

theorem distinct_pruned (place : Place) (done nodes : List Node) :
    distinct place (done.map Node.pruned) (nodes.map Node.pruned) =
      List.map Node.pruned <$> distinct place done nodes := by
  induction nodes generalizing done with
  | nil => simp [distinct]
  | cons n nodes ih =>
    have hconcat := ih (done ++ [n])
    rw [List.map_append] at hconcat
    rw [List.map_cons, distinct, distinct, any_pruned, Node.pruned_name]
    split
    · rw [map_bind, ← ih]
      rfl
    · exact hconcat

theorem enter_pruned (graph : Option NodeGraph) (parameters : List (Text × Constant))
    (nodes : List Node) :
    enter graph parameters (nodes.map Node.pruned) = pruned <$> enter graph parameters nodes := by
  have hdistinct := distinct_pruned (Scope.mk graph parameters []).place [] nodes
  rw [List.map_nil] at hdistinct
  simp only [enter, hdistinct, map_bind, bind_map_left, map_pure]
  congr 1
  funext kept
  have hbuild := build_pruned ⟨graph, parameters, kept⟩ kept
  simp only [pruned] at hbuild
  simp only [List.forM_eq_forM, List.forM_map, hbuild, Node.pruned_name]
  rfl

theorem finalValue_pruned : s.pruned.finalValue = s.finalValue := by
  funext e? type?
  have hbuild : s.pruned.build s.pruned.nodes = s.build s.nodes := funext (s.build_pruned s.nodes)
  rw [finalValue, finalValue, hbuild, value_pruned]

end Scope

theorem GraphOutput.declare_pruned (s : Scope) :
    GraphOutput.declare s.pruned = GraphOutput.declare s := by
  funext graph graphName o
  simp only [GraphOutput.declare, Scope.finalValue_pruned]

theorem Graph.declare_pruned (b : Graph) : b.pruned.declare = b.declare := by
  simp only [declare, pruned, Scope.enter_pruned, bind_map_left, GraphOutput.declare_pruned]

theorem materialOutput_pruned (s : Scope) : materialOutput s.pruned = materialOutput s := by
  funext argument e?
  simp only [materialOutput, Scope.finalValue_pruned]

theorem declareMaterials_pruned (s : Scope) (done : List Stage.Material) (ms : List Material) :
    declareMaterials s.pruned done ms = declareMaterials s done ms := by
  induction ms generalizing done with
  | nil => rfl
  | cons m ms ih => simp only [declareMaterials, materialOutput_pruned, ih]

/-- Color spaces that are overlooked change neither what is built nor what is reported. -/
theorem load_pruned (bp : Blueprint) (base : Text) : load bp.pruned base = load bp base := by
  have hdeclare : declare bp.pruned base = declare bp base := by
    simp only [declare, pruned, declareParameters_pruned, List.forM_eq_forM, List.forM_map,
      Graph.declare_pruned, Scope.enter_pruned, bind_map_left, declareMaterials_pruned]
  rw [load, load, hdeclare]

/-! ## Files -/

inductive Bearer (bp : Blueprint)
  | parameter (k : Fin bp.parameters.length)
  | graphInput (graph : Fin bp.graphs.length) (k : Fin (bp.graphs.get graph).inputs.length)
  | input (site : bp.Site) (k : Fin site.node.inputs.length)

namespace Bearer

variable {bp : Blueprint}

def colorSpace : bp.Bearer → Text
  | .parameter k => (bp.parameters.get k).colorSpace
  | .graphInput graph k => ((bp.graphs.get graph).inputs.get k).colorSpace
  | .input site k => (site.node.inputs.get k).colorSpace

/-- The declaration stands for a literal. Defaults of other types than assets always do: one that is
left out is the canonical constant of its type. -/
def isRead : bp.Bearer → Bool
  | .parameter k => !(bp.parameters.get k).isAsset
  | .graphInput _ _ => true
  | .input site k => (site.node.inputs.get k).isLiteral

section

variable (net : Network) (parameters : List (Text × Constant))
  (place : bp.Site ≃ Fin net.nodes.length)

def Builds (type : DataType) (c : Constant) : bp.Bearer → Prop
  | .parameter k => DataType.parse (bp.parameters.get k).type = .ok type ∧
      ∃ name, parameters[k.val]? = some (name, c)
  | .graphInput graph k =>
      DataType.parse ((bp.graphs.get graph).inputs.get k).type = .ok type ∧
      ∃ g slot, net.graphs[graph.val]? = some g ∧ g.inputs[k.val]? = some slot ∧
        slot.default = some c
  | .input site k => ∃ slot, (net.nodes.get (place site)).inputs[k.val]? = some slot ∧
      slot.type = type ∧ slot.value = .ofConstant c

/-- The color space is checked, and tags what is built from its declaration. -/
def Honoured (b : bp.Bearer) : Prop :=
  ∃ type c, b.Builds net parameters place type c ∧ Tags b.colorSpace type c

end

end Bearer

section

variable {bp : Blueprint} {net : Network} {parameters : List (Text × Constant)}
  {place : bp.Site ≃ Fin net.nodes.length} {base : Text}

theorem Parameter.literal_of_constant {p : Parameter} {c : Constant} (hp : p.isAsset = false)
    (h : p.constant base = .ok c) : ∃ type, DataType.parse p.type = .ok type ∧
      literal type p.default p.colorSpace p.extra.span = .ok c := by
  unfold constant at h
  split at h
  · cases h
  · rename_i hasset
    rw [Parameter.isAsset_iff.mpr hasset] at hp
    cases hp
  · rename_i type _ hparse
    split at h
    · cases h
    · exact ⟨type, hparse, h⟩

theorem Means.ne_ofConstant {scope : Option (Fin bp.graphs.length)} {t : Scope.Target} {v : Value}
    (h : Means bp net parameters place scope t v) (c : Constant) : v ≠ .ofConstant c := by
  intro hv
  have hsource : v.source = .constant (some c) := congrArg Value.source hv
  cases h with
  | node _ _ hpicks =>
    obtain ⟨_, _, houtput⟩ := hpicks
    obtain ⟨_, _, hpure⟩ := Outcome.bind_eq_ok.mp houtput
    rw [← Outcome.pure_eq_ok.mp hpure] at hsource
    cases hsource
  | parameter => cases hsource
  | graphInput => cases hsource

theorem Carries.isLiteral {scope : Option (Fin bp.graphs.length)} {i : Input} {type : DataType}
    {slot : ShaderGraph.Input} (h : Carries bp net parameters place scope i type slot)
    {c : Constant} (hc : slot.value = .ofConstant c) : i.isLiteral = true := by
  cases hvalue : i.value with
  | none => cases congrArg Value.source ((h.omitted hvalue).symm.trans hc)
  | some e =>
    by_contra hliteral
    have href : e.reference? ≠ none := by
      intro hnone
      exact hliteral (by simp [Input.isLiteral, hvalue, hnone])
    obtain ⟨t, v, hmentions, hmeans⟩ := h.denotes e hvalue href
    obtain ⟨hsame, hother⟩ := h.reference e t v hvalue hmentions hmeans
    by_cases htype : v.type = slot.type
    · exact hmeans.ne_ofConstant c ((hsame htype).symm.trans hc)
    · obtain ⟨message, hfault⟩ := hother htype
      cases congrArg Value.source (hfault.symm.trans hc)

theorem Carries.exists_tags {scope : Option (Fin bp.graphs.length)} {i : Input} {type : DataType}
    {slot : ShaderGraph.Input} (h : Carries bp net parameters place scope i type slot)
    (hliteral : i.isLiteral = true) (hspace : i.colorSpace ≠ []) :
    ∃ c, slot.value = .ofConstant c ∧ Tags i.colorSpace type c := by
  obtain ⟨e, hvalue, href⟩ := (Option.any_eq_true _ _).mp hliteral
  obtain ⟨c, hc, _, hslot⟩ := h.constant e hvalue (by simpa using href)
  exact ⟨c, hslot, tags_of_literal hc hspace⟩

theorem GraphInput.Gives.exists_tags {i : GraphInput} {slot : ShaderGraph.GraphInput}
    (h : i.Gives slot) (hspace : i.colorSpace ≠ []) :
    ∃ type c, DataType.parse i.type = .ok type ∧ slot.default = some c ∧
      Tags i.colorSpace type c := by
  obtain ⟨_, type, hparse, hslot⟩ := h
  rw [if_neg (by simp [hspace])] at hslot
  obtain ⟨c, hc, rfl⟩ := hslot
  exact ⟨type, c, hparse, rfl, tags_of_literal hc hspace⟩

theorem exists_getElem?_of_forall₂ {α β : Type} {R : α → β → Prop} {as : List α} {bs : List β}
    (h : List.Forall₂ R as bs) (k : Fin as.length) :
    ∃ b, bs[k.val]? = some b ∧ R (as.get k) b :=
  have hk : k.val < bs.length := h.length_eq ▸ k.isLt
  ⟨bs[k.val], List.getElem?_eq_getElem hk, h.get k.isLt hk⟩

theorem Faithful.exists_carries (h : Faithful bp net parameters place base) (site : bp.Site)
    (k : Fin site.node.inputs.length) : ∃ slot type,
      (net.nodes.get (place site)).inputs[k.val]? = some slot ∧ slot.type = TypeTag.ofDataType type ∧
      Carries bp net parameters place site.scope (site.node.inputs.get k) type slot := by
  obtain ⟨_, hrenders⟩ := h.nodes site
  cases hrenders with
  | shader _ _ _ _ hinputs _ =>
    obtain ⟨slot, hslot, type, _, hcarries⟩ := exists_getElem?_of_forall₂ hinputs k
    exact ⟨slot, type, hslot, hcarries.typed, hcarries⟩
  | copy _ _ _ _ _ hinputs _ _ =>
    obtain ⟨slot, hslot, _, type, _, _, hcarries⟩ := exists_getElem?_of_forall₂ hinputs k
    exact ⟨slot, type, hslot, hcarries.typed, hcarries⟩

theorem Faithful.honoured_iff (h : Faithful bp net parameters place base) (b : bp.Bearer)
    (hspace : b.colorSpace ≠ []) : b.Honoured net parameters place ↔ b.isRead = true := by
  cases b with
  | parameter k =>
    obtain ⟨⟨name, c⟩, hentry, _, hconstant⟩ := exists_getElem?_of_forall₂ h.defaults k
    cases hasset : (bp.parameters.get k).isAsset with
    | false =>
      refine iff_of_true ?_ (by simp only [Bearer.isRead, hasset, Bool.not_false])
      obtain ⟨type, hparse, hliteral⟩ := Parameter.literal_of_constant hasset hconstant
      exact ⟨type, c, ⟨hparse, name, hentry⟩, tags_of_literal hliteral hspace⟩
    | true =>
      refine iff_of_false ?_ (by simp only [Bearer.isRead, hasset]; decide)
      rintro ⟨type, _, ⟨hparse, _⟩, htags⟩
      obtain rfl := Except.ok.inj ((Parameter.isAsset_iff.mp hasset).symm.trans hparse)
      cases htags.color
  | graphInput graph k =>
    obtain ⟨g, hg, _, hinputs⟩ := exists_getElem?_of_forall₂ h.graphs graph
    obtain ⟨slot, hslot, hgives⟩ := exists_getElem?_of_forall₂ hinputs k
    obtain ⟨type, c, hparse, hc, htags⟩ := hgives.exists_tags hspace
    exact iff_of_true ⟨type, c, ⟨hparse, g, slot, hg, hslot, hc⟩, htags⟩ rfl
  | input site k =>
    obtain ⟨slot, type, hslot, htype, hcarries⟩ := h.exists_carries site k
    constructor
    · rintro ⟨_, c, ⟨slot', hslot', _, hc⟩, _⟩
      obtain rfl := Option.some.inj (hslot.symm.trans hslot')
      exact hcarries.isLiteral hc
    · intro hliteral
      obtain ⟨c, hc, htags⟩ := hcarries.exists_tags hliteral hspace
      exact ⟨type, c, ⟨slot, hslot, htype, hc⟩, htags⟩

end

theorem load_of_pruned_eq {bp other : Blueprint} (h : other.pruned = bp.pruned) (base : Text) :
    load other base = load bp base := by
  rw [← load_pruned other, h, load_pruned]

/-- In a blueprint that is loaded, the color spaces of literals are checked and become tags. All others
are overlooked, and the blueprint means the same with anything in their place. -/
theorem color_spaces_of_literals {bp : Blueprint} {base : Text} {l : Loaded}
    (h : load bp base = .ok l) :
    (∃ parameters place, Faithful bp l.network parameters place base) ∧
    (∀ parameters place, Faithful bp l.network parameters place base →
      ∀ b : bp.Bearer, b.colorSpace ≠ [] →
        (b.Honoured l.network parameters place ↔ b.isRead = true)) ∧
    ∀ other : Blueprint, other.pruned = bp.pruned → load other base = .ok l := by
  obtain ⟨parameters, high, top, hchart⟩ := chart_of_load h
  exact ⟨⟨parameters, hchart.exists_faithful⟩,
    fun parameters place hfaithful b hspace => hfaithful.honoured_iff b hspace,
    fun other hother => (load_of_pruned_eq hother base).trans h⟩

theorem honoured_of_read {source filename : Text} {l : Loaded} (h : read source filename = .ok l) :
    ∃ body bp parameters place, Config.parseFile source = some body ∧ decode body = .ok bp ∧
      Faithful bp l.network parameters place (Path.directory filename) ∧
      ∀ b : bp.Bearer, b.colorSpace ≠ [] →
        (b.Honoured l.network parameters place ↔ b.isRead = true) := by
  obtain ⟨body, bp, parameters, place, hbody, hdecode, hfaithful⟩ := faithful_of_read h
  exact ⟨body, bp, parameters, place, hbody, hdecode, hfaithful, hfaithful.honoured_iff⟩

theorem Bearer.exists_parameter {bp : Blueprint} {p : Parameter} (hp : p ∈ bp.parameters) :
    ∃ b : bp.Bearer, b.colorSpace = p.colorSpace ∧ b.isRead = !p.isAsset := by
  obtain ⟨k, rfl⟩ := List.mem_iff_get.mp hp
  exact ⟨.parameter k, rfl, rfl⟩

theorem Bearer.exists_input {bp : Blueprint} {n : Node} {i : Input} (hn : n ∈ bp.nodes)
    (hi : i ∈ n.inputs) : ∃ b : bp.Bearer, b.colorSpace = i.colorSpace ∧ b.isRead = i.isLiteral := by
  obtain ⟨index, rfl⟩ := List.mem_iff_get.mp hn
  obtain ⟨k, rfl⟩ := List.mem_iff_get.mp hi
  exact ⟨.input ⟨none, index⟩ k, rfl, rfl⟩

def smudgedSource : Text :=
"parameter \"p\" \x7b
type = \"color3f\"
color_space = \"lin_srgb\"
\x7d
node \"A\" \x7b
type = \"N\"
input \"x\" \x7b
type = \"color3f\"
value = param.p
color_space = \"bogus\"
\x7d
\x7d
"

theorem smudged_overlooked : ∃ l body bp parameters place,
    read smudgedSource "a.hcl" = .ok l ∧ Config.parseFile smudgedSource = some body ∧
      decode body = .ok bp ∧ Faithful bp l.network parameters place (Path.directory "a.hcl") ∧
      (∃ b : bp.Bearer, b.colorSpace = "lin_srgb" ∧ b.Honoured l.network parameters place) ∧
      ∃ b : bp.Bearer, b.colorSpace = "bogus" ∧ ¬ b.Honoured l.network parameters place := by
  have hread : (read smudgedSource "a.hcl").toOption.any fun _ => true := by decide +kernel
  obtain ⟨l, hl, _⟩ := Outcome.exists_of_any hread
  obtain ⟨body, bp, hbody, hdecode, hload⟩ := read_eq_ok.mp hl
  obtain ⟨⟨parameters, place, hfaithful⟩, hhonoured, _⟩ := color_spaces_of_literals hload
  have hbp : (Config.parseFile smudgedSource).any fun body => (decode body).toOption.any fun bp =>
      (bp.parameters.any fun p => p.colorSpace = "lin_srgb" ∧ p.isAsset = false) &&
        bp.nodes.any fun n => n.inputs.any fun i => i.colorSpace = "bogus" ∧ i.isLiteral = false := by
    decide +kernel
  rw [hbody, Option.any_some, hdecode, Except.toOption, Option.any_some, Bool.and_eq_true] at hbp
  obtain ⟨hparameter, hnode⟩ := hbp
  obtain ⟨p, hp, hspaceP⟩ := List.any_eq_true.mp hparameter
  obtain ⟨n, hn, hinput⟩ := List.any_eq_true.mp hnode
  obtain ⟨i, hi, hspaceI⟩ := List.any_eq_true.mp hinput
  obtain ⟨hp', hasset⟩ := of_decide_eq_true hspaceP
  obtain ⟨hi', hliteral⟩ := of_decide_eq_true hspaceI
  obtain ⟨b, hb, hbRead⟩ := Bearer.exists_parameter hp
  obtain ⟨b', hb', hbRead'⟩ := Bearer.exists_input hn hi
  rw [hp'] at hb
  rw [hi'] at hb'
  rw [hasset] at hbRead
  rw [hliteral] at hbRead'
  refine ⟨l, body, bp, parameters, place, hl, hbody, hdecode, hfaithful,
    ⟨b, hb, (hhonoured _ _ hfaithful b (by rw [hb]; decide)).mpr hbRead⟩, b', hb', fun hbogus => ?_⟩
  have hread' := (hhonoured _ _ hfaithful b' (by rw [hb']; decide)).mp hbogus
  rw [hbRead'] at hread'
  cases hread'

end Blueprint
end ShaderGraph
