import ShaderGraph.Proofs.Faithful
import ShaderGraph.Proofs.Spans

/-!
# Literals in their positions

A literal stands as the default of a parameter or of an input of a graph, or as the value of an
input of a node. The defaults are read straight away, and the values only after they turn out to be
no references. The keywords `true` and `false` have the form of a reference, so they are defaults of
three types and never values; every other expression means the same in all positions.
-/
namespace ShaderGraph

/-! ## Keywords among the references -/

namespace Config

namespace Expr

def keyword? : Expr → Option Bool
  | .literal (.bool b) _ => some b
  | .relative source [] _ => source.keyword?
  | _ => none

theorem reference?_of_keyword {e : Expr} {b : Bool} (h : e.keyword? = some b) :
    ∃ root, e.reference? = some (root, []) := by
  fun_induction keyword? e with
  | case1 b _ => exact ⟨_, rfl⟩
  | case2 source _ ih =>
    obtain ⟨root, href⟩ := ih h
    exact ⟨root, by simp [reference?, href]⟩
  | case3 => cases h

end Expr

/-- Nothing can be read from the result: there are problems, or it is null or not known at all. -/
def Evaluation.Void (ev : Evaluation) : Prop :=
  ev.problems ≠ [] ∨ ev.value = .null ∨ ev.value = .unknown .dynamic

theorem Evaluation.Void.after {ev : Evaluation} (h : ev.Void) (problems : List Problem) :
    Evaluation.Void ⟨ev.value, problems ++ ev.problems⟩ :=
  h.imp_left fun hne hnil => hne (List.append_eq_nil_iff.mp hnil).2

theorem void_follow_unknown (steps : List (Step × Span)) :
    (follow (.unknown .dynamic) steps).Void := by
  induction steps with
  | nil => exact .inr (.inr rfl)
  | cons step steps ih =>
    obtain ⟨_ | key, span⟩ := step
    · exact ih
    · cases key with
      | null => exact .inl (List.cons_ne_nil _ _)
      | _ => exact ih

theorem void_follow_null (steps : List (Step × Span)) : (follow .null steps).Void := by
  cases steps with
  | nil => exact .inr (.inl rfl)
  | cons step steps =>
    obtain ⟨_ | _, span⟩ := step <;> exact .inl (List.cons_ne_nil _ _)

theorem void_follow_bool (b : Bool) (step : Step × Span) (steps : List (Step × Span)) :
    (follow (.bool b) (step :: steps)).Void := by
  obtain ⟨_ | key, span⟩ := step
  · exact .inl (List.cons_ne_nil _ _)
  · cases key with
    | unknown kind =>
      cases kind with
      | dynamic => exact void_follow_unknown steps
      | _ => exact .inl (List.cons_ne_nil _ _)
    | _ => exact .inl (List.cons_ne_nil _ _)

namespace Expr

/-- Without anything to refer to, no reference but a keyword has a value. -/
theorem evalAt_of_reference {e : Expr} {root : Text} {steps : List Step}
    (h : e.reference? = some (root, steps)) (item : Datum) :
    (∃ b, e.keyword? = some b ∧ e.evalAt item = ⟨.bool b, []⟩) ∨
      e.keyword? = none ∧ (e.evalAt item).Void := by
  fun_induction reference? e generalizing root steps with
  | case1 => exact .inr ⟨rfl, .inl (List.cons_ne_nil _ _)⟩
  | case2 => exact .inr ⟨rfl, .inr (.inl rfl)⟩
  | case3 b => exact .inl ⟨b, rfl, rfl⟩
  | case4 source after _ ih =>
    -- What is void stays void along the steps, and a keyword becomes so at the first one.
    obtain ⟨⟨root', first⟩, hsource, _⟩ := Option.map_eq_some_iff.mp h
    rcases ih hsource with ⟨b, hkeyword, heval⟩ | ⟨hkeyword, hvoid⟩
    · cases after with
      | nil => exact .inl ⟨b, hkeyword, by simp [evalAt, heval, follow]⟩
      | cons step after =>
        refine .inr ⟨rfl, ?_⟩
        rw [evalAt, heval]
        exact (void_follow_bool b step after).after _
    · refine .inr ⟨by cases after; exacts [hkeyword, rfl], ?_⟩
      rcases hvoid with hproblems | hnull | hunknown
      · exact .inl fun hnil => hproblems (List.append_eq_nil_iff.mp hnil).1
      · rw [evalAt, hnull]
        exact (void_follow_null after).after _
      · rw [evalAt, hunknown]
        exact (void_follow_unknown after).after _
  | case5 => cases h

end Expr

end Config

namespace Blueprint

open Config (Datum Expr Span Step)
open Load

variable {type : DataType} {e : Expr} {space : Text} {c : Constant}

/-! ## What a literal means -/

def ReadAs (type : DataType) (e : Expr) (space : Text) (c : Constant) : Prop :=
  checkColorSpace type space = .ok () ∧ e.eval.problems = [] ∧
    ∃ plain, constantOf type e.eval.value = .ok plain ∧ c = plain.withColorSpace space

theorem literal_eq_ok {subject : Span} :
    literal type (some e) space subject = .ok c ↔ ReadAs type e space c := by
  rw [literal, ReadAs]
  split
  · rename_i fault hfault
    simp [hfault]
  · rename_i hspace
    rw [hspace]
    dsimp only
    split
    · rename_i hproblems
      have hne : e.eval.problems ≠ [] := by simpa using hproblems
      simp [hne]
    · rename_i hproblems
      have hnil : e.eval.problems = [] := by simpa using hproblems
      split
      · rename_i plain hplain
        simp [hnil, hplain, eq_comm]
      · rename_i cause hcause
        simp [hcause]

theorem ReadAs.dataType (h : ReadAs type e space c) : c.dataType = type := by
  have hliteral : literal type (some e) space e.span = .ok c := literal_eq_ok.mpr h
  exact dataType_literal hliteral

theorem not_readAs_of_void (hvoid : e.eval.Void) : ¬ ReadAs type e space c := by
  rintro ⟨_, hproblems, plain, hplain, _⟩
  rcases hvoid with hne | hnull | hunknown
  · exact hne hproblems
  · rw [hnull] at hplain
    cases hplain
  · rw [hunknown] at hplain
    cases hplain

theorem ReadAs.reference?_eq_none (h : ReadAs type e space c) :
    e.reference? = none ↔ e.keyword? = none := by
  constructor
  · intro href
    by_contra hkeyword
    obtain ⟨b, hb⟩ := Option.ne_none_iff_exists'.mp hkeyword
    obtain ⟨root, href'⟩ := Expr.reference?_of_keyword hb
    rw [href] at href'
    cases href'
  · intro hkeyword
    by_contra href
    obtain ⟨⟨root, steps⟩, hr⟩ := Option.ne_none_iff_exists'.mp href
    rcases Expr.evalAt_of_reference hr (.unknown .dynamic) with ⟨b, hb, _⟩ | ⟨_, hvoid⟩
    · rw [hkeyword] at hb
      cases hb
    · exact not_readAs_of_void hvoid h

def truthValue? (type : DataType) (b : Bool) : Option Constant :=
  match type with
  | .bool => some (.bool b)
  | .string => some (.string (if b then "true" else "false"))
  | .token => some (.token (if b then "true" else "false"))
  | _ => none

theorem toOption_constantOf_bool (type : DataType) (b : Bool) :
    (constantOf type (.bool b)).toOption = truthValue? type b := by
  cases type with
  | int lanes | half lanes | float lanes => cases lanes <;> rfl
  | color channels => cases channels <;> rfl
  | matrix order => cases order <;> rfl
  | bool | string | token | asset => rfl

theorem constantOf_bool {b : Bool} :
    constantOf type (.bool b) = .ok c ↔ truthValue? type b = some c := by
  rw [← toOption_constantOf_bool]
  cases constantOf type (.bool b) <;> simp [Except.toOption]

theorem checkColorSpace_plain (h : type.isColor = false) :
    checkColorSpace type space = .ok () ↔ space = [] := by
  cases space with
  | nil => simp [checkColorSpace]
  | cons byte space =>
    rw [checkColorSpace, if_neg (by simp)]
    split <;> simp [h]

theorem readAs_keyword {b : Bool} (hb : e.keyword? = some b) :
    ReadAs type e space c ↔ space = [] ∧ truthValue? type b = some c := by
  obtain ⟨root, href⟩ := Expr.reference?_of_keyword hb
  have heval : e.eval = ⟨.bool b, []⟩ := by
    rcases Expr.evalAt_of_reference href (.unknown .dynamic) with ⟨b', hb', heval⟩ | ⟨hnone, _⟩
    · obtain rfl := Option.some.inj (hb.symm.trans hb')
      exact heval
    · rw [hb] at hnone
      cases hnone
  have hplain : ∀ d, truthValue? type b = some d →
      type.isColor = false ∧ d.withColorSpace space = d := by
    intro d hd
    unfold truthValue? at hd
    split at hd <;> cases hd <;> exact ⟨rfl, rfl⟩
  rw [ReadAs, heval]
  simp only [constantOf_bool, true_and]
  constructor
  · rintro ⟨hspace, d, hd, rfl⟩
    obtain ⟨hcolor, hsame⟩ := hplain d hd
    rw [hsame]
    exact ⟨(checkColorSpace_plain hcolor).mp hspace, hd⟩
  · rintro ⟨hspace, hc⟩
    obtain ⟨hcolor, hsame⟩ := hplain c hc
    exact ⟨(checkColorSpace_plain hcolor).mpr hspace, c, hc, hsame.symm⟩

/-! ## Defaults -/

structure ParameterPlace (type : DataType) (e : Expr) (space : Text) where
  base : Text
  done : List (Text × Constant)
  state : Loading
  parameter : Parameter
  clean : state.diagnostics = []
  distinct : (done.map (·.1)).Nodup
  fresh : parameter.name ∉ done.map (·.1)
  supported : parameter.extra.unsupported = []
  typed : DataType.parse parameter.type = .ok type
  default : parameter.default = some e
  colorSpace : parameter.colorSpace = space
  texture : parameter.texture = []

structure GraphInputPlace (type : DataType) (e : Expr) (space : Text) where
  id : GraphId
  graph : NodeGraph
  state : Loading
  input : GraphInput
  clean : state.diagnostics = []
  found : state.network.graph? id = some graph
  fresh : input.name ∉ graph.inputs.map (·.name)
  supported : input.extra.unsupported = []
  typed : DataType.parse input.type = .ok type
  default : input.default = some e
  colorSpace : input.colorSpace = space

def ParameterPlace.Accepts (p : ParameterPlace type e space) (c : Constant) : Prop :=
  ∃ st, Runs (declareParameters p.base p.done [p.parameter]) p.state
    (p.done ++ [(p.parameter.name, c)]) st

def GraphInputPlace.Accepts (p : GraphInputPlace type e space) (c : Constant) : Prop :=
  ∃ st g, Runs (p.input.declare p.id p.graph.name) p.state () st ∧
    st.network.graph? p.id = some g ∧
    g.input? p.input.name = some ⟨p.input.name, c.dataType, some c⟩

theorem not_readAs_asset : ¬ ReadAs .asset e space c := by
  rintro ⟨_, _, plain, hplain, _⟩
  unfold constantOf at hplain
  split at hplain
  · cases hplain
  · split at hplain <;> cases hplain

theorem ParameterPlace.constant_eq_ok (p : ParameterPlace type e space) :
    p.parameter.constant p.base = .ok c ↔ ReadAs type e space c := by
  rw [Parameter.constant, p.typed, p.default, p.texture, p.colorSpace]
  -- Defaults of assets are refused before they are read, and nothing is read as an asset.
  cases type with
  | asset =>
    refine iff_of_false ?_ not_readAs_asset
    intro h
    cases h
  | _ => exact literal_eq_ok

theorem ParameterPlace.accepts_iff (p : ParameterPlace type e space) :
    p.Accepts c ↔ ReadAs type e space c := by
  have hnodup : ((p.done ++ [(p.parameter.name, c)]).map (·.1)).Nodup :=
    Network.nodup_names_concat p.distinct p.fresh
  simp only [ParameterPlace.Accepts, runs_declareParameters p.distinct]
  rw [← p.constant_eq_ok]
  constructor
  · rintro ⟨st, _, _, new, hnew, hgives, _⟩
    obtain rfl := List.append_cancel_left hnew
    obtain ⟨⟨_, _, hc⟩, _⟩ := List.forall₂_cons.mp hgives
    exact hc
  · intro hc
    exact ⟨p.state, rfl, p.clean, _, rfl, .cons ⟨p.supported, rfl, hc⟩ .nil, hnodup⟩

theorem input?_concat (g : NodeGraph) {slot : ShaderGraph.GraphInput}
    (h : slot.name ∉ g.inputs.map (·.name)) :
    ({ g with inputs := g.inputs ++ [slot] } : NodeGraph).input? slot.name = some slot := by
  have hnone : g.inputs.find? (·.name = slot.name) = none := by
    rw [← Option.not_isSome_iff_eq_none]
    exact (g.isSome_input? slot.name).not.mpr h
  simp [NodeGraph.input?, List.find?_append, hnone]

theorem GraphInputPlace.gives_iff (p : GraphInputPlace type e space)
    {slot : ShaderGraph.GraphInput} :
    p.input.Gives slot ↔ ∃ c, ReadAs type e space c ∧ slot = ⟨p.input.name, c.dataType, some c⟩ := by
  rw [GraphInput.Gives, p.typed, p.default, p.colorSpace]
  simp [p.supported, literal_eq_ok]

theorem GraphInputPlace.accepts_iff (p : GraphInputPlace type e space) :
    p.Accepts c ↔ ReadAs type e space c := by
  simp only [GraphInputPlace.Accepts, GraphInput.runs_declare p.found, p.gives_iff]
  constructor
  · rintro ⟨_, g, ⟨_, _, ⟨c', hc', rfl⟩, hfresh, rfl⟩, hg, hinput⟩
    obtain rfl := Option.some.inj ((Network.graph?_setGraph_self _ p.found).symm.trans hg)
    have hslot := Option.some.inj ((input?_concat p.graph hfresh).symm.trans hinput)
    obtain rfl : c' = c := by simpa using congrArg ShaderGraph.GraphInput.default hslot
    exact hc'
  · intro hc
    exact ⟨_, _, ⟨p.clean, _, ⟨c, hc, rfl⟩, p.fresh, rfl⟩,
      Network.graph?_setGraph_self _ p.found, input?_concat p.graph p.fresh⟩

/-! ## Values -/

structure Wiring (e : Expr) (space : Text) where
  scope : Scope
  idle : List Node
  node : Text
  done : List ShaderGraph.Input
  state : Loading
  input : Input
  clear : state.Clear
  distinct : (done.map (·.name)).Nodup
  fresh : input.name ∉ done.map (·.name)
  value : input.value = some e
  colorSpace : input.colorSpace = space

namespace Wiring

/-- Reading the input gives a slot that holds the constant once it is connected. -/
def Holds (w : Wiring e space) (read : Load (List ShaderGraph.Input × Bool)) (c : Constant) : Prop :=
  ∃ slot st, Runs read w.state (w.done ++ [slot], true) st ∧ slot.name = w.input.name ∧
    ∀ node, Network.connect node slot = .ofConstant c

def Reads (w : Wiring e space) (type : DataType)
    (read : Load (List ShaderGraph.Input × Bool)) : Prop :=
  ∀ r st, Runs read w.state r st ↔ ∃ v, r = (w.done ++ [⟨w.input.name, type, v⟩], true) ∧
    w.scope.Reads (w.scope.build w.idle) w.state (some e) (some type) space v st

end Wiring

theorem connect_eq_ofConstant {node : Text} {slot : ShaderGraph.Input} :
    Network.connect node slot = .ofConstant c ↔
      slot.value = .ofConstant c ∧ slot.type = c.dataType := by
  rw [Network.connect]
  split
  · rename_i hkept
    refine ⟨fun hvalue => ⟨hvalue, ?_⟩, fun h => h.1⟩
    have hpresent : (Value.ofConstant c).isAbsent = false := rfl
    rw [hvalue, hpresent, Bool.false_or, decide_eq_true_eq] at hkept
    exact hkept.symm
  · rename_i hfault
    refine iff_of_false (fun h => ?_) ?_
    · cases congrArg Value.source h
    · rintro ⟨hvalue, htype⟩
      apply hfault
      rw [hvalue, htype]
      simp [Value.ofConstant]

namespace Scope

variable {s : Scope} {build : Text → Load (Option NodeId)} {st st' : Loading}

theorem reads_ofConstant :
    s.Reads build st (some e) (some type) space (.ofConstant c) st' ↔
      e.reference? = none ∧ ReadAs type e space c ∧ st' = st := by
  constructor
  · intro h
    generalize hv : Value.ofConstant c = v at h
    have hsource : Source.constant (some c) = v.source := congrArg Value.source hv
    cases h with
    | constant href hc =>
      obtain rfl := Option.some.inj (Source.constant.inj hsource)
      exact ⟨href, literal_eq_ok.mp hc, rfl⟩
    | parameter => cases hsource
    | graphInput => cases hsource
    | node _ _ _ hpicks =>
      obtain ⟨output, _, houtput⟩ := hpicks
      obtain ⟨t, _, hpure⟩ := Outcome.bind_eq_ok.mp houtput
      rw [← Outcome.pure_eq_ok.mp hpure] at hsource
      cases hsource
  · rintro ⟨href, hc, rfl⟩
    exact .constant href (literal_eq_ok.mpr hc)

theorem not_reads_keyword {b : Bool} (hb : e.keyword? = some b) {type? : Option DataType}
    {v : Value} : ¬ s.Reads build st (some e) type? space v st' := by
  obtain ⟨root, href⟩ := Expr.reference?_of_keyword hb
  have hnot : ∀ t, ¬ Refers e t := by
    rintro t ⟨root', steps, href', htarget⟩
    obtain ⟨rfl, rfl⟩ := Prod.mk.inj (Option.some.inj (href.symm.trans href'))
    cases htarget
  intro h
  cases h with
  | constant hnone _ =>
    rw [href] at hnone
    cases hnone
  | parameter hrefers _ _ => exact hnot _ hrefers
  | graphInput hrefers _ _ => exact hnot _ hrefers
  | node hrefers _ _ _ => exact hnot _ hrefers

end Scope

theorem Wiring.holds_iff (w : Wiring e space) {read : Load (List ShaderGraph.Input × Bool)}
    (hread : w.Reads type read) :
    w.Holds read c ↔ ReadAs type e space c ∧ e.keyword? = none := by
  constructor
  · rintro ⟨slot, st, hrun, hname, hslot⟩
    obtain ⟨v, hr, hreads⟩ := (hread _ st).mp hrun
    obtain rfl : slot = ⟨w.input.name, type, v⟩ := by simpa using hr
    obtain ⟨rfl, _⟩ := connect_eq_ofConstant.mp (hslot w.node)
    obtain ⟨href, hc, _⟩ := Scope.reads_ofConstant.mp hreads
    exact ⟨hc, hc.reference?_eq_none.mp href⟩
  · rintro ⟨hc, hkeyword⟩
    have href := hc.reference?_eq_none.mpr hkeyword
    refine ⟨⟨w.input.name, type, .ofConstant c⟩, w.state, (hread _ _).mpr ⟨.ofConstant c, rfl, ?_⟩,
      rfl, fun node => ?_⟩
    · exact Scope.reads_ofConstant.mpr ⟨href, hc, rfl⟩
    · exact connect_eq_ofConstant.mpr ⟨rfl, by rw [hc.dataType]⟩

theorem Wiring.not_runs_keyword (w : Wiring e space) {read : Load (List ShaderGraph.Input × Bool)}
    (hread : w.Reads type read) {b : Bool} (hb : e.keyword? = some b)
    (r : List ShaderGraph.Input × Bool) (st : Loading) : ¬ Runs read w.state r st := by
  rw [hread]
  rintro ⟨v, _, hreads⟩
  exact Scope.not_reads_keyword hb hreads

theorem chain_singleton {σ α β : Type} {R : σ → α → β → σ → Prop} {s s' : σ} {a : α}
    {bs : List β} : Chain R s [a] bs s' ↔ ∃ b, bs = [b] ∧ R s a b s' := by
  constructor
  · intro h
    cases h with
    | cons hab hrest =>
      cases hrest
      exact ⟨_, rfl, hab⟩
  · rintro ⟨b, rfl, hab⟩
    exact .cons hab (.nil s')

structure InputPlace (type : DataType) (e : Expr) (space : Text) extends Wiring e space where
  typed : DataType.parse input.type = .ok type

structure InstancePlace (type : DataType) (e : Expr) (space : Text) extends Wiring e space where
  graph : NodeGraph
  declared : ShaderGraph.GraphInput
  found : graph.input? input.name = some declared
  declares : declared.type = type
  typed : input.type = [] ∨ DataType.ofName? input.type = some type

def InputPlace.read (p : InputPlace type e space) : Load (List ShaderGraph.Input × Bool) :=
  p.scope.inputs (p.scope.build p.idle) p.node p.done true [p.input]

def InstancePlace.read (p : InstancePlace type e space) : Load (List ShaderGraph.Input × Bool) :=
  p.scope.graphInputs (p.scope.build p.idle) p.graph p.node p.done true [p.input]

def InputPlace.Accepts (p : InputPlace type e space) (c : Constant) : Prop := p.Holds p.read c

def InstancePlace.Accepts (p : InstancePlace type e space) (c : Constant) : Prop := p.Holds p.read c

theorem InputPlace.reads (p : InputPlace type e space) : p.Reads type p.read := by
  intro r st
  rw [InputPlace.read, Scope.runs_inputs (Scope.builder_build _ _) p.clear p.distinct]
  simp only [chain_singleton, Scope.Wires, p.typed, p.value, p.colorSpace]
  constructor
  · rintro ⟨_, rfl, ⟨_, rfl, type', v, htype, hreads, rfl⟩, _⟩
    obtain rfl := Except.ok.inj htype
    exact ⟨v, rfl, hreads⟩
  · rintro ⟨v, rfl, hreads⟩
    exact ⟨_, rfl, ⟨_, rfl, type, v, rfl, hreads, rfl⟩,
      Network.nodup_names_concat p.distinct p.fresh⟩

theorem InstancePlace.reads (p : InstancePlace type e space) : p.Reads type p.read := by
  intro r st
  have htyped : p.input.type = [] ∨
      (DataType.ofName? p.input.type).map TypeTag.ofDataType = some p.declared.type :=
    p.typed.imp_right fun h => by rw [h, p.declares]; rfl
  rw [InstancePlace.read, Scope.runs_graphInputs (Scope.builder_build _ _) p.clear p.distinct]
  simp only [chain_singleton, Scope.WiresInstance, p.found, p.value, p.colorSpace]
  constructor
  · rintro ⟨_, rfl, ⟨_, rfl, declared, v, hdeclared, _, hreads, rfl⟩, _⟩
    obtain rfl := Option.some.inj hdeclared
    rw [p.declares, TypeTag.dataType?_ofDataType] at hreads
    exact ⟨v, by rw [p.declares], hreads⟩
  · rintro ⟨v, rfl, hreads⟩
    refine ⟨_, by rw [← p.declares], ⟨_, rfl, p.declared, v, rfl, htyped, ?_, rfl⟩,
      Network.nodup_names_concat p.distinct p.fresh⟩
    rw [p.declares, TypeTag.dataType?_ofDataType]
    exact hreads

/-! ## All positions together -/

theorem ofName?_name (type : DataType) : DataType.ofName? type.name = some type := by
  cases type with
  | int lanes | half lanes | float lanes => cases lanes <;> rfl
  | color channels => cases channels <;> rfl
  | matrix order => cases order <;> rfl
  | bool | string | token | asset => rfl

theorem parse_name (type : DataType) : DataType.parse type.name = .ok type := by
  rw [DataType.parse, ofName?_name]

def ParameterPlace.alone (type : DataType) (e : Expr) (space : Text) :
    ParameterPlace type e space where
  base := []
  done := []
  state := ⟨.empty, [], []⟩
  parameter := ⟨"p", type.name, some e, space, [], ⟨.nowhere, []⟩⟩
  clean := rfl
  distinct := .nil
  fresh := List.not_mem_nil
  supported := rfl
  typed := parse_name type
  default := rfl
  colorSpace := rfl
  texture := rfl

def GraphInputPlace.alone (type : DataType) (e : Expr) (space : Text) :
    GraphInputPlace type e space where
  id := 1
  graph := ⟨1, "G", [], []⟩
  state := ⟨⟨[], [⟨1, "G", [], []⟩]⟩, [], []⟩
  input := ⟨"x", type.name, some e, space, ⟨.nowhere, []⟩⟩
  clean := rfl
  found := rfl
  fresh := List.not_mem_nil
  supported := rfl
  typed := parse_name type
  default := rfl
  colorSpace := rfl

def Wiring.alone (type : DataType) (e : Expr) (space : Text) : Wiring e space where
  scope := ⟨none, [], []⟩
  idle := []
  node := "A"
  done := []
  state := ⟨.empty, [], []⟩
  input := ⟨"x", type.name, some e, space, ⟨.nowhere, []⟩⟩
  clear := ⟨rfl, by simp⟩
  distinct := .nil
  fresh := List.not_mem_nil
  value := rfl
  colorSpace := rfl

def InputPlace.alone (type : DataType) (e : Expr) (space : Text) : InputPlace type e space :=
  { Wiring.alone type e space with typed := parse_name type }

def InstancePlace.alone (type : DataType) (e : Expr) (space : Text) : InstancePlace type e space :=
  { Wiring.alone type e space with
    graph := ⟨1, "G", [⟨"x", type, none⟩], []⟩
    declared := ⟨"x", type, none⟩
    found := rfl
    declares := rfl
    typed := .inr (ofName?_name type) }

/-- Parameters and inputs of graphs have the same defaults, and inputs of nodes have those for their
values that are no keywords. A keyword is a default of three types and is refused as a value. -/
theorem literal_alike_but_keywords (p : ParameterPlace type e space)
    (g : GraphInputPlace type e space) (i : InputPlace type e space)
    (j : InstancePlace type e space) (c : Constant) :
    (g.Accepts c ↔ p.Accepts c) ∧
      (i.Accepts c ↔ p.Accepts c ∧ e.keyword? = none) ∧
      (j.Accepts c ↔ p.Accepts c ∧ e.keyword? = none) ∧
      ∀ b, e.keyword? = some b →
        (p.Accepts c ↔ space = [] ∧ truthValue? type b = some c) ∧
          (∀ r st, ¬ Runs i.read i.state r st) ∧ ∀ r st, ¬ Runs j.read j.state r st := by
  rw [g.accepts_iff, p.accepts_iff, InputPlace.Accepts, i.holds_iff i.reads,
    InstancePlace.Accepts, j.holds_iff j.reads]
  refine ⟨Iff.rfl, Iff.rfl, Iff.rfl, fun b hb => ⟨readAs_keyword hb, ?_, ?_⟩⟩
  · exact i.not_runs_keyword i.reads hb
  · exact j.not_runs_keyword j.reads hb

theorem true_only_as_default :
    ((ParameterPlace.alone .bool (.literal (.bool true) .nowhere) []).Accepts (.bool true) ∧
      (GraphInputPlace.alone .bool (.literal (.bool true) .nowhere) []).Accepts (.bool true) ∧
      ¬ (InputPlace.alone .bool (.literal (.bool true) .nowhere) []).Accepts (.bool true) ∧
      ¬ (InstancePlace.alone .bool (.literal (.bool true) .nowhere) []).Accepts (.bool true)) ∧
    (ParameterPlace.alone .bool (.parens (.literal (.bool true) .nowhere) .nowhere) []).Accepts
        (.bool true) ∧
      (InputPlace.alone .bool (.parens (.literal (.bool true) .nowhere) .nowhere) []).Accepts
        (.bool true) := by
  have hbare := literal_alike_but_keywords
    (.alone .bool (.literal (.bool true) .nowhere) []) (.alone _ _ _) (.alone _ _ _) (.alone _ _ _)
    (.bool true)
  have hparens := literal_alike_but_keywords
    (.alone .bool (.parens (.literal (.bool true) .nowhere) .nowhere) []) (.alone _ _ _)
    (.alone _ _ _) (.alone _ _ _) (.bool true)
  have hdefault := (hbare.2.2.2 true rfl).1.mpr ⟨rfl, rfl⟩
  have hboth := (ParameterPlace.alone .bool (.parens (.literal (.bool true) .nowhere) .nowhere)
    []).accepts_iff.mpr ⟨rfl, rfl, .bool true, rfl, rfl⟩
  refine ⟨⟨hdefault, hbare.1.mpr hdefault, fun h => ?_, fun h => ?_⟩, hboth,
    hparens.2.1.mpr ⟨hboth, rfl⟩⟩
  · cases (hbare.2.1.mp h).2
  · cases (hbare.2.2.1.mp h).2

end Blueprint
end ShaderGraph
