import ShaderGraph.Blueprint.Load
import ShaderGraph.Proofs.Denotes

/-!
# Runs of a load

What the declarations around the nodes do when nothing is reported: parameters get their defaults,
graphs their inputs and outputs, and materials the values that they denote. Each step runs without
a report exactly if its part of the blueprint is well formed.
-/
namespace ShaderGraph

namespace Network

variable {net : Network} {id : GraphId} {g : NodeGraph}

theorem setGraph_self (h : net.graph? id = some g) : net.setGraph id g = net := by
  cases id with
  | zero => simp [graph?] at h
  | succ k =>
    obtain ⟨hk, rfl⟩ := List.getElem?_eq_some_iff.mp h
    simp [setGraph]

theorem setGraph_setGraph (g g' : NodeGraph) :
    (net.setGraph id g).setGraph id g' = net.setGraph id g' := by
  simp [setGraph]

theorem graph?_last (net : Network) (g : NodeGraph) :
    ({ net with graphs := net.graphs ++ [g] } : Network).graph? (net.graphs.length + 1) = some g :=
  List.getElem?_concat_length

theorem setGraph_last (net : Network) (g g' : NodeGraph) :
    ({ net with graphs := net.graphs ++ [g] } : Network).setGraph (net.graphs.length + 1) g' =
      { net with graphs := net.graphs ++ [g'] } := by
  simp [setGraph]

theorem continues_setGraph (hg : net.graph? id = some g) (h : ∀ n ∈ net.nodes, n.graph ≠ id)
    (g' : NodeGraph) :
    net.Continues (net.setGraph id g') ∧ (net.setGraph id g').Continues net := by
  have hgraph : ∀ n ∈ net.nodes, (net.setGraph id g').graph? n.graph = net.graph? n.graph :=
    fun n hn => graph?_setGraph_of_ne g' hg (h n hn)
  exact ⟨⟨List.prefix_rfl, hgraph⟩, ⟨List.prefix_rfl, fun n hn => (hgraph n hn).symm⟩⟩

end Network

namespace Blueprint

open Config (Expr Span)
open Load

variable {st st' : Loading}

/-! ## Parameters -/

def Parameter.Gives (base : Text) (p : Parameter) (entry : Text × Constant) : Prop :=
  p.extra.unsupported = [] ∧ entry.1 = p.name ∧ p.constant base = .ok entry.2

theorem Parameter.constant_error {base : Text} {p : Parameter} {ds : List Diagnostic}
    (h : p.constant base = .error ds) : ds ≠ [] := by
  unfold Parameter.constant at h
  split at h
  · obtain rfl := Except.error.inj h
    simp
  · split at h
    · obtain rfl := Except.error.inj h
      simp
    · split at h
      · cases h
      · split at h <;> cases h
  · split at h
    · obtain rfl := Except.error.inj h
      simp
    · exact Scope.literal_error h

theorem keeps_declareParameters (base : Text) (done : List (Text × Constant))
    (ps : List Parameter) : Keeps (declareParameters base done ps) := by
  induction ps generalizing done with
  | nil => exact .pure _
  | cons p ps ih =>
    refine .bind (.reportUnsupported _) fun _ => ?_
    split
    · exact .bind (.report _ _) fun _ => ih _
    · refine .bind (.reported _) fun o => ?_
      split
      · exact ih _
      · exact ih _

theorem keeps_addParameter (base : Text) (done : List (Text × Constant)) (p : Parameter)
    (ps : List Parameter) : Keeps (if (done.lookup p.name).isSome then do
        report (.parameterTaken p.name) p.extra.span
        declareParameters base done ps
      else do
        match ← reported (p.constant base) with
        | none => declareParameters base done ps
        | some c => declareParameters base (done ++ [(p.name, c)]) ps : Load _) := by
  split
  · exact .bind (.report _ _) fun _ => keeps_declareParameters _ _ _
  · refine .bind (.reported _) fun o => ?_
    split
    · exact keeps_declareParameters _ _ _
    · exact keeps_declareParameters _ _ _

theorem isSome_lookup_iff {α : Type} {name : Text} {entries : List (Text × α)} :
    (entries.lookup name).isSome = true ↔ name ∈ entries.map (·.1) := by
  induction entries with
  | nil => simp
  | cons entry entries ih =>
    rw [List.lookup_cons, List.map_cons, List.mem_cons, ← ih]
    split
    · rename_i h
      simp [eq_of_beq h]
    · rename_i h
      have hne : name ≠ entry.1 := beq_eq_false_iff_ne.mp h
      simp [hne]

theorem runs_declareParameters {base : Text} {done r : List (Text × Constant)}
    {ps : List Parameter} (hdone : (done.map (·.1)).Nodup) :
    Runs (declareParameters base done ps) st r st' ↔
      st = st' ∧ st.diagnostics = [] ∧ ∃ new, r = done ++ new ∧
        List.Forall₂ (Parameter.Gives base) ps new ∧ ((done ++ new).map (·.1)).Nodup := by
  induction ps generalizing done with
  | nil =>
    rw [declareParameters, runs_pure]
    constructor
    · rintro ⟨rfl, rfl, hst⟩
      exact ⟨rfl, hst, [], by simp, .nil, by simpa using hdone⟩
    · rintro ⟨rfl, hst, new, rfl, hnew, _⟩
      cases hnew
      exact ⟨by simp, rfl, hst⟩
  | cons p ps ih =>
    constructor
    · intro h
      obtain ⟨_, _, hfirst, h⟩ := (runs_bind fun _ => keeps_addParameter base done p ps).mp h
      obtain ⟨hextra, rfl, _⟩ := runs_reportUnsupported.mp hfirst
      split at h
      · exact absurd h (not_runs_report_bind fun _ => keeps_declareParameters _ _ _)
      · rename_i hnew
        rw [isSome_lookup_iff] at hnew
        obtain ⟨_, _, hconstant, h⟩ := (runs_bind fun o => by
          split <;> exact keeps_declareParameters _ _ _).mp h
        obtain ⟨c, hc, rfl, rfl, _⟩ := (runs_reported fun _ => Parameter.constant_error).mp hconstant
        obtain ⟨rfl, hst, new, rfl, hall, hnodup⟩ :=
          (ih (Network.nodup_names_concat hdone hnew)).mp h
        exact ⟨rfl, hst, (p.name, c) :: new, by simp, .cons ⟨hextra, rfl, hc⟩ hall,
          by simpa using hnodup⟩
    · rintro ⟨rfl, hst, new, rfl, hall, hnodup⟩
      cases hall with
      | @cons _ entry _ new hentry hall =>
        obtain ⟨name, c⟩ := entry
        obtain ⟨hextra, hname, hc⟩ := hentry
        obtain rfl : name = p.name := hname
        obtain ⟨hnew, hnodup⟩ := Scope.names_append_cons.mp hnodup
        refine Runs.bind (a := ()) (runs_reportUnsupported.mpr ⟨hextra, rfl, hst⟩) ?_
        rw [if_neg (isSome_lookup_iff.not.mpr hnew)]
        refine Runs.bind ((runs_reported fun _ => Parameter.constant_error).mpr
          ⟨c, hc, rfl, rfl, hst⟩) ?_
        exact (ih (Network.nodup_names_concat hdone hnew)).mpr
          ⟨rfl, hst, new, by simp, hall, hnodup⟩

/-! ## Inputs of graphs -/

/-- The declared input of a graph. It has a default of its own if one is given, or a color space. -/
def GraphInput.Gives (i : GraphInput) (slot : ShaderGraph.GraphInput) : Prop :=
  i.extra.unsupported = [] ∧ ∃ type, DataType.parse i.type = .ok type ∧
    if i.default.isNone && i.colorSpace.isEmpty then slot = ⟨i.name, type, none⟩
    else ∃ c, literal type i.default i.colorSpace i.extra.span = .ok c ∧
      slot = ⟨i.name, c.dataType, some c⟩

theorem GraphInput.Gives.name {i : GraphInput} {slot : ShaderGraph.GraphInput} (h : i.Gives slot) :
    slot.name = i.name := by
  obtain ⟨_, type, _, hslot⟩ := h
  split at hslot
  · rw [hslot]
  · obtain ⟨c, _, rfl⟩ := hslot
    rfl

theorem GraphInput.Gives.isValid {i : GraphInput} {slot : ShaderGraph.GraphInput}
    (h : i.Gives slot) : slot.type.isValid = true := by
  obtain ⟨_, type, _, hslot⟩ := h
  split at hslot
  · rw [hslot]
    exact TypeTag.isValid_ofDataType _
  · obtain ⟨c, _, rfl⟩ := hslot
    exact TypeTag.isValid_ofDataType _

theorem GraphInput.keeps_add (graph : GraphId) (graphName : Text) (i : GraphInput)
    (g : NodeGraph) :
    Keeps (if (g.input? i.name).isSome then report (.graphInputTaken graphName i.name) i.extra.span
      else match DataType.parse i.type with
      | .error cause => report (.graphInputType graphName i.name cause) i.extra.span
      | .ok type => do
        if i.default.isNone && i.colorSpace.isEmpty then
          let _ ← perform (.graphInput graph i.name type)
        else match ← reported (literal type i.default i.colorSpace i.extra.span) with
          | none => return ()
          | some c =>
            let _ ← perform (.graphInputDefault graph i.name c)) := by
  split
  · exact .report _ _
  · split
    · exact .report _ _
    · split
      · exact .bind (.perform _) fun _ => .pure _
      · refine .bind (.reported _) fun o => ?_
        split
        · exact .pure _
        · exact .bind (.perform _) fun _ => .pure _

theorem GraphInput.keeps_declare (graph : GraphId) (graphName : Text) (i : GraphInput) :
    Keeps (GraphInput.declare graph graphName i) :=
  .bind (.reportUnsupported _) fun _ => .bind (.perform _) (GraphInput.keeps_add graph graphName i)

theorem runs_addGraphInput {graph : GraphId} {slot : ShaderGraph.GraphInput} {g : NodeGraph}
    (hg : st.network.graph? graph = some g) (htype : slot.type.isValid = true) {u : Unit} :
    Runs (do let _ ← perform (.extend (·.addGraphInput graph slot))) st u st' ↔
      slot.name ∉ g.inputs.map (·.name) ∧ st.diagnostics = [] ∧
        { st with network := st.network.setGraph graph { g with inputs := g.inputs ++ [slot] } } =
          st' := by
  rw [runs_bind fun _ => .pure _]
  simp only [runs_extend, runs_pure, Network.addGraphInput_eq_ok]
  constructor
  · rintro ⟨v, mid, ⟨net, ⟨g', hg', _, hnew, he⟩, rfl, hst⟩, _, rfl, _⟩
    obtain rfl := Option.some.inj (hg.symm.trans hg')
    obtain ⟨rfl, rfl⟩ := Prod.mk.inj he
    exact ⟨hnew, hst, rfl⟩
  · rintro ⟨hnew, hst, rfl⟩
    exact ⟨_, _, ⟨_, ⟨g, hg, htype, hnew, rfl⟩, rfl, hst⟩, trivial, rfl, hst⟩

theorem GraphInput.runs_declare {graph : GraphId} {graphName : Text} {i : GraphInput}
    {g : NodeGraph} (hg : st.network.graph? graph = some g) {u : Unit} :
    Runs (GraphInput.declare graph graphName i) st u st' ↔
      st.diagnostics = [] ∧ ∃ slot, i.Gives slot ∧ slot.name ∉ g.inputs.map (·.name) ∧
        { st with network := st.network.setGraph graph { g with inputs := g.inputs ++ [slot] } } =
          st' := by
  constructor
  · intro h
    obtain ⟨_, _, hfirst, h⟩ := (runs_bind fun _ =>
      .bind (.perform _) (GraphInput.keeps_add graph graphName i)).mp h
    obtain ⟨hextra, rfl, hst⟩ := runs_reportUnsupported.mp hfirst
    obtain ⟨g', _, hgraph, h⟩ := (runs_bind (GraphInput.keeps_add graph graphName i)).mp h
    obtain ⟨hg', rfl, _⟩ := runs_inspect.mp hgraph
    obtain rfl := Option.some.inj (hg.symm.trans (Network.graph_eq_ok.mp hg'))
    refine ⟨hst, ?_⟩
    split at h
    · exact absurd h not_runs_report
    · split at h
      · exact absurd h not_runs_report
      · rename_i type htype
        split at h
        · rename_i hplain
          obtain ⟨hnew, _, rfl⟩ := (runs_addGraphInput hg (TypeTag.isValid_ofDataType type)).mp h
          exact ⟨⟨i.name, type, none⟩, ⟨hextra, type, htype, by rw [if_pos hplain]⟩, hnew, rfl⟩
        · rename_i hplain
          obtain ⟨_, _, hliteral, h⟩ := (runs_bind fun o => by
            split
            · exact .pure _
            · exact .bind (.perform _) fun _ => .pure _).mp h
          obtain ⟨c, hc, rfl, rfl, _⟩ := (runs_reported fun _ => Scope.literal_error).mp hliteral
          obtain ⟨hnew, _, rfl⟩ := (runs_addGraphInput hg (TypeTag.isValid_ofDataType _)).mp h
          exact ⟨⟨i.name, c.dataType, some c⟩,
            ⟨hextra, type, htype, by rw [if_neg hplain]; exact ⟨c, hc, rfl⟩⟩, hnew, rfl⟩
  · rintro ⟨hst, slot, hgives, hnew, rfl⟩
    have hadd := (runs_addGraphInput (u := ()) hg hgives.isValid).mpr ⟨hnew, hst, rfl⟩
    have hname : ¬ (g.input? i.name).isSome = true := by
      rw [NodeGraph.isSome_input?, ← hgives.name]
      exact hnew
    obtain ⟨hextra, type, htype, hslot⟩ := hgives
    refine Runs.bind (a := ()) (runs_reportUnsupported.mpr ⟨hextra, rfl, hst⟩) ?_
    refine Runs.bind (runs_inspect.mpr ⟨Network.graph_eq_ok.mpr hg, rfl, hst⟩) ?_
    rw [if_neg hname, htype]
    by_cases hplain : (i.default.isNone && i.colorSpace.isEmpty) = true
    · rw [if_pos hplain] at hslot
      subst hslot
      simp only [if_pos hplain]
      exact hadd
    · rw [if_neg hplain] at hslot
      obtain ⟨c, hc, rfl⟩ := hslot
      simp only [if_neg hplain]
      refine Runs.bind ((runs_reported fun _ => Scope.literal_error).mpr ⟨c, hc, rfl, rfl, hst⟩) ?_
      exact hadd

theorem GraphInput.runs_forM {graph : GraphId} {graphName : Text} {is : List GraphInput}
    {g : NodeGraph} (hg : st.network.graph? graph = some g)
    (hnames : (g.inputs.map (·.name)).Nodup) {u : Unit} :
    Runs (is.forM (GraphInput.declare graph graphName)) st u st' ↔
      st.diagnostics = [] ∧ ∃ slots, List.Forall₂ GraphInput.Gives is slots ∧
        ((g.inputs ++ slots).map (·.name)).Nodup ∧
        { st with network := st.network.setGraph graph { g with inputs := g.inputs ++ slots } } =
          st' := by
  induction is generalizing st g with
  | nil =>
    rw [runs_forM_nil]
    constructor
    · rintro ⟨rfl, hst⟩
      refine ⟨hst, [], .nil, by simpa using hnames, ?_⟩
      rw [List.append_nil, Network.setGraph_self hg]
    · rintro ⟨hst, slots, hslots, _, rfl⟩
      cases hslots
      rw [List.append_nil, Network.setGraph_self hg]
      exact ⟨rfl, hst⟩
  | cons i is ih =>
    rw [runs_forM_cons (GraphInput.keeps_declare graph graphName)]
    constructor
    · rintro ⟨mid, hfirst, hrest⟩
      obtain ⟨hst, slot, hslot, hnew, rfl⟩ := (GraphInput.runs_declare hg).mp hfirst
      have hg' := Network.graph?_setGraph_self { g with inputs := g.inputs ++ [slot] } hg
      obtain ⟨_, slots, hslots, hnodup, rfl⟩ :=
        (ih hg' (Network.nodup_names_concat hnames hnew)).mp hrest
      refine ⟨hst, slot :: slots, .cons hslot hslots, by simpa using hnodup, ?_⟩
      rw [Network.setGraph_setGraph]
      simp
    · rintro ⟨hst, _, hslots, hnodup, rfl⟩
      cases hslots with
      | @cons _ slot _ slots hslot hslots =>
        obtain ⟨hnew, hnodup⟩ := Scope.names_append_cons.mp hnodup
        have hg' := Network.graph?_setGraph_self { g with inputs := g.inputs ++ [slot] } hg
        refine ⟨_, (GraphInput.runs_declare hg).mpr ⟨hst, slot, hslot, hnew, rfl⟩, ?_⟩
        refine (ih hg' (Network.nodup_names_concat hnames hnew)).mpr
          ⟨hst, slots, hslots, hnodup, ?_⟩
        rw [Network.setGraph_setGraph]
        simp

/-! ## Outputs of graphs -/

def GraphOutput.Gives (net : Network) (frame : Frame) (handle : Text → Option NodeId)
    (o : GraphOutput) (out : ShaderGraph.GraphOutput) : Prop :=
  out.name = o.name ∧ out.value.isAbsent = false ∧
    ((o.type = [] ∧ Denotes net frame handle o.value none [] out.value) ∨
      o.type ≠ [] ∧ ∃ type : DataType, DataType.parse o.type = .ok type ∧ out.value.type = type ∧
        Denotes net frame handle o.value (some type) [] out.value)

theorem GraphOutput.Gives.continues {net net' : Network} {frame : Frame}
    {handle : Text → Option NodeId} {o : GraphOutput} {out : ShaderGraph.GraphOutput}
    (h : o.Gives net frame handle out) (hnet : net.Continues net') :
    o.Gives net' frame handle out := by
  obtain ⟨hname, habsent, hvalue⟩ := h
  refine ⟨hname, habsent, hvalue.imp (fun ⟨htype, hv⟩ => ⟨htype, hv.mono hnet fun _ _ h => h⟩) ?_⟩
  rintro ⟨htype, type, hparse, heq, hv⟩
  exact ⟨htype, type, hparse, heq, hv.mono hnet fun _ _ h => h⟩

theorem keeps_addGraphOutput (graph : GraphId) (name : Text) (o : Option Value) :
    Keeps (match o with
      | none => return ()
      | some v => perform (.graphOutput graph name v) : Load Unit) := by
  split
  · exact .pure _
  · exact .perform _

theorem keeps_addTypedOutput (graph : GraphId) (graphName name : Text) (type : DataType)
    (subject : Span) (o : Option Value) :
    Keeps (match o with
      | none => return ()
      | some v =>
        if v.type ≠ type then report (.graphOutputMismatch graphName name type v.type) subject
        else perform (.graphOutput graph name v) : Load Unit) := by
  split
  · exact .pure _
  · split
    · exact .report _ _
    · exact .perform _

theorem GraphOutput.keeps_add (s : Scope) (graph : GraphId) (graphName : Text) (o : GraphOutput)
    (g : NodeGraph) :
    Keeps (let subject := (o.value.map (·.span)).getD o.span
      if (g.output? o.name).isSome then report (.graphOutputTaken graphName o.name) subject
      else if o.type.isEmpty then do
        match ← s.finalValue o.value none with
        | none => return ()
        | some v => perform (.graphOutput graph o.name v)
      else match DataType.parse o.type with
        | .error cause => report (.graphOutputType graphName o.name cause) subject
        | .ok type => do
          match ← s.finalValue o.value type with
          | none => return ()
          | some v =>
            if v.type ≠ type then report (.graphOutputMismatch graphName o.name type v.type) subject
            else perform (.graphOutput graph o.name v)) := by
  dsimp only
  split
  · exact .report _ _
  · split
    · exact .bind (Scope.keeps_finalValue s _ _) (keeps_addGraphOutput graph o.name)
    · split
      · exact .report _ _
      · exact .bind (Scope.keeps_finalValue s _ _) (keeps_addTypedOutput graph graphName o.name _ _)

theorem GraphOutput.keeps_declare (s : Scope) (graph : GraphId) (graphName : Text)
    (o : GraphOutput) : Keeps (GraphOutput.declare s graph graphName o) :=
  .bind (.perform _) (GraphOutput.keeps_add s graph graphName o)

theorem runs_addGraphOutput {graph : GraphId} {name : Text} {v : Value} {g : NodeGraph}
    (hg : st.network.graph? graph = some g) {u : Unit} :
    Runs (perform (.graphOutput graph name v)) st u st' ↔
      v.isAbsent = false ∧ name ∉ g.outputs.map (·.name) ∧ st.diagnostics = [] ∧
        { st with
          network := st.network.setGraph graph { g with outputs := g.outputs ++ [⟨name, v⟩] } } =
          st' := by
  rw [Build.graphOutput, runs_extend]
  simp only [Network.addGraphOutput_eq_ok]
  constructor
  · rintro ⟨net, ⟨g', hg', habsent, hnew, he⟩, rfl, hst⟩
    obtain rfl := Option.some.inj (hg.symm.trans hg')
    obtain ⟨_, rfl⟩ := Prod.mk.inj he
    exact ⟨habsent, hnew, hst, rfl⟩
  · rintro ⟨habsent, hnew, hst, rfl⟩
    exact ⟨_, ⟨g, hg, habsent, hnew, rfl⟩, rfl, hst⟩

theorem GraphOutput.runs_declare {s : Scope} {graph : GraphId} {graphName : Text}
    {o : GraphOutput} {g : NodeGraph} (hs : Complete s st) (hg : st.network.graph? graph = some g)
    {u : Unit} :
    Runs (GraphOutput.declare s graph graphName o) st u st' ↔
      ∃ out, o.Gives st.network s.frame st.handle out ∧ out.name ∉ g.outputs.map (·.name) ∧
        { st with network := st.network.setGraph graph { g with outputs := g.outputs ++ [out] } } =
          st' := by
  have hst := hs.clear.diagnostics
  constructor
  · intro h
    obtain ⟨g', _, hgraph, h⟩ := (runs_bind (GraphOutput.keeps_add s graph graphName o)).mp h
    obtain ⟨hg', rfl, _⟩ := runs_inspect.mp hgraph
    obtain rfl := Option.some.inj (hg.symm.trans (Network.graph_eq_ok.mp hg'))
    dsimp only at h
    split at h
    · exact absurd h not_runs_report
    · split at h
      · rename_i htype
        obtain ⟨_, _, hvalue, h⟩ := (runs_bind (keeps_addGraphOutput graph o.name)).mp h
        obtain ⟨v, rfl, rfl, hv⟩ := hs.runs_finalValue.mp hvalue
        obtain ⟨habsent, hnew, _, rfl⟩ := (runs_addGraphOutput hg).mp h
        exact ⟨⟨o.name, v⟩, ⟨rfl, habsent, .inl ⟨List.isEmpty_iff.mp htype, hv⟩⟩, hnew, rfl⟩
      · rename_i htype
        split at h
        · exact absurd h not_runs_report
        · rename_i type hparse
          obtain ⟨_, _, hvalue, h⟩ :=
            (runs_bind (keeps_addTypedOutput graph graphName o.name type _)).mp h
          obtain ⟨v, rfl, rfl, hv⟩ := hs.runs_finalValue.mp hvalue
          dsimp only at h
          split at h
          · exact absurd h not_runs_report
          · rename_i hsame
            obtain ⟨habsent, hnew, _, rfl⟩ := (runs_addGraphOutput hg).mp h
            exact ⟨⟨o.name, v⟩, ⟨rfl, habsent, .inr ⟨fun h => htype (List.isEmpty_iff.mpr h), type,
              hparse, not_not.mp hsame, hv⟩⟩, hnew, rfl⟩
  · rintro ⟨⟨name, v⟩, ⟨rfl, habsent, hvalue⟩, hnew, rfl⟩
    have hadd := (runs_addGraphOutput (u := ()) hg).mpr ⟨habsent, hnew, hst, rfl⟩
    have hfree : ¬ (g.output? o.name).isSome = true := by
      rw [NodeGraph.isSome_output?]
      exact hnew
    refine Runs.bind (runs_inspect.mpr ⟨Network.graph_eq_ok.mpr hg, rfl, hst⟩) ?_
    rw [if_neg hfree]
    rcases hvalue with ⟨htype, hv⟩ | ⟨htype, type, hparse, hsame, hv⟩
    · rw [if_pos (List.isEmpty_iff.mpr htype)]
      exact Runs.bind (hs.runs_finalValue.mpr ⟨v, rfl, rfl, hv⟩) hadd
    · rw [if_neg (fun h => htype (List.isEmpty_iff.mp h)), hparse]
      refine Runs.bind (hs.runs_finalValue.mpr ⟨v, rfl, rfl, hv⟩) ?_
      dsimp only
      rw [if_neg (not_not.mpr hsame)]
      exact hadd

theorem Complete.withNetwork {s : Scope} (h : Complete s st) (net : Network) :
    Complete s { st with network := net } :=
  ⟨⟨h.clear.diagnostics, h.clear.settled⟩, h.built, h.named⟩

/-- The outputs of a graph that nothing instantiates. Declaring one leaves the meanings of the
others as they are. -/
theorem GraphOutput.runs_forM {s : Scope} {graph : GraphId} {graphName : Text}
    {os : List GraphOutput} {g : NodeGraph} (hs : Complete s st)
    (hg : st.network.graph? graph = some g) (hfree : ∀ n ∈ st.network.nodes, n.graph ≠ graph)
    (hnames : (g.outputs.map (·.name)).Nodup) {u : Unit} :
    Runs (os.forM (GraphOutput.declare s graph graphName)) st u st' ↔
      ∃ outs, List.Forall₂ (GraphOutput.Gives st.network s.frame st.handle) os outs ∧
        ((g.outputs ++ outs).map (·.name)).Nodup ∧
        { st with network := st.network.setGraph graph { g with outputs := g.outputs ++ outs } } =
          st' := by
  induction os generalizing st g with
  | nil =>
    rw [runs_forM_nil]
    constructor
    · rintro ⟨rfl, _⟩
      refine ⟨[], .nil, by simpa using hnames, ?_⟩
      rw [List.append_nil, Network.setGraph_self hg]
    · rintro ⟨outs, houts, _, rfl⟩
      cases houts
      rw [List.append_nil, Network.setGraph_self hg]
      exact ⟨rfl, hs.clear.diagnostics⟩
  | cons o os ih =>
    rw [runs_forM_cons (GraphOutput.keeps_declare s graph graphName)]
    have hstep : ∀ out : ShaderGraph.GraphOutput, out.name ∉ g.outputs.map (·.name) →
        let first := st.network.setGraph graph { g with outputs := g.outputs ++ [out] }
        (Runs (os.forM (GraphOutput.declare s graph graphName)) { st with network := first } () st' ↔
        ∃ outs, List.Forall₂ (GraphOutput.Gives st.network s.frame st.handle) os outs ∧
          ((g.outputs ++ out :: outs).map (·.name)).Nodup ∧
          let all := st.network.setGraph graph { g with outputs := g.outputs ++ out :: outs }
          { st with network := all } = st') := by
      intro out hnew first
      have hg' := Network.graph?_setGraph_self { g with outputs := g.outputs ++ [out] } hg
      obtain ⟨hto, hfrom⟩ :=
        Network.continues_setGraph hg hfree { g with outputs := g.outputs ++ [out] }
      refine (@ih { st with network := first } _ (hs.withNetwork _) hg' hfree
        (Network.nodup_names_concat hnames hnew)).trans ?_
      refine exists_congr fun outs => and_congr ?_ ?_
      · exact ⟨fun h => h.imp fun _ _ ho => ho.continues hfrom,
          fun h => h.imp fun _ _ ho => ho.continues hto⟩
      · simp only [first, Network.setGraph_setGraph, List.append_assoc, List.singleton_append]
    constructor
    · rintro ⟨mid, hfirst, hrest⟩
      obtain ⟨out, hout, hnew, rfl⟩ := (GraphOutput.runs_declare hs hg).mp hfirst
      obtain ⟨outs, houts, hnodup, rfl⟩ := (hstep out hnew).mp hrest
      exact ⟨out :: outs, .cons hout houts, hnodup, rfl⟩
    · rintro ⟨_, houts, hnodup, rfl⟩
      cases houts with
      | @cons _ out _ outs hout houts =>
        have hnew := (Scope.names_append_cons.mp hnodup).1
        exact ⟨_, (GraphOutput.runs_declare hs hg).mpr ⟨out, hout, hnew, rfl⟩,
          (hstep out hnew).mpr ⟨outs, houts, hnodup, rfl⟩⟩

/-! ## Graphs -/

structure Graph.Opens (b : Graph) (net : Network) (slots : List ShaderGraph.GraphInput) : Prop where
  supported : b.extra.unsupported = []
  named : b.name ≠ []
  new : net.findGraph? b.name = none
  inputs : List.Forall₂ GraphInput.Gives b.inputs slots
  inputNames : (slots.map (·.name)).Nodup

def Graph.opened (b : Graph) (net : Network) (slots : List ShaderGraph.GraphInput)
    (outs : List ShaderGraph.GraphOutput) : Network :=
  { net with graphs := net.graphs ++ [⟨net.graphs.length + 1, b.name, slots, outs⟩] }

theorem Graph.graph?_opened (b : Graph) (net : Network) (slots : List ShaderGraph.GraphInput)
    (outs : List ShaderGraph.GraphOutput) :
    (b.opened net slots outs).graph? (net.graphs.length + 1) =
      some ⟨net.graphs.length + 1, b.name, slots, outs⟩ := Network.graph?_last net _

theorem Graph.keeps_nodes (b : Graph) (id : GraphId) : ∀ _ : Unit, Keeps (do
    let g ← perform (.inspect (·.graph id))
    let s ← Scope.enter (some g) [] b.nodes
    b.outputs.forM (GraphOutput.declare s id b.name) : Load Unit) := fun _ =>
  .bind (.perform _) fun _ => .bind (Scope.keeps_enter _ _ _) fun s =>
    .forM (GraphOutput.keeps_declare s id b.name) _

theorem Graph.keeps_fill (b : Graph) (id : GraphId) : Keeps (do
    b.inputs.forM (GraphInput.declare id b.name)
    let g ← perform (.inspect (·.graph id))
    let s ← Scope.enter (some g) [] b.nodes
    b.outputs.forM (GraphOutput.declare s id b.name) : Load Unit) :=
  .bind (.forM (GraphInput.keeps_declare id b.name) _) (b.keeps_nodes id)

theorem Graph.keeps_open (b : Graph) (st₀ : Loading) : Keeps (
    if (st₀.network.findGraph? b.name).isSome then report (.graphTaken b.name) b.extra.span
    else do
      let id ← perform (.newGraph b.name)
      b.inputs.forM (GraphInput.declare id b.name)
      let g ← perform (.inspect (·.graph id))
      let s ← Scope.enter (some g) [] b.nodes
      b.outputs.forM (GraphOutput.declare s id b.name)) := by
  split
  · exact .report _ _
  · exact .bind (.perform _) b.keeps_fill

theorem Graph.keeps_named (b : Graph) : ∀ _ : Unit, Keeps (
    if b.name.isEmpty then report .graphName b.extra.span
    else do
      if ((← get).network.findGraph? b.name).isSome then report (.graphTaken b.name) b.extra.span
      else do
        let id ← perform (.newGraph b.name)
        b.inputs.forM (GraphInput.declare id b.name)
        let g ← perform (.inspect (·.graph id))
        let s ← Scope.enter (some g) [] b.nodes
        b.outputs.forM (GraphOutput.declare s id b.name) : Load Unit) := by
  intro _
  split
  · exact .report _ _
  · exact .bind .get b.keeps_open

theorem Graph.keeps_declare (b : Graph) : Keeps b.declare :=
  .bind (.reportUnsupported _) b.keeps_named

theorem Graph.runs_declare {b : Graph} {u : Unit} :
    Runs b.declare st u st' ↔ st.diagnostics = [] ∧ ∃ slots, b.Opens st.network slots ∧ ∃ s mid,
      Runs (Scope.enter (some ⟨st.network.graphs.length + 1, b.name, slots, []⟩) [] b.nodes)
        { st with network := b.opened st.network slots [] } s mid ∧
      Runs (b.outputs.forM (GraphOutput.declare s (st.network.graphs.length + 1) b.name)) mid ()
        st' := by
  have hinputs : ∀ {mid : Loading}, st.diagnostics = [] →
      (Runs (b.inputs.forM (GraphInput.declare (st.network.graphs.length + 1) b.name))
        { st with network := b.opened st.network [] [] } () mid ↔
      ∃ slots, List.Forall₂ GraphInput.Gives b.inputs slots ∧ (slots.map (·.name)).Nodup ∧
        { st with network := b.opened st.network slots [] } = mid) := by
    intro mid hst
    rw [GraphInput.runs_forM (b.graph?_opened st.network [] []) (by simp)]
    simp [Graph.opened, Network.setGraph_last, hst]
  constructor
  · intro h
    obtain ⟨_, _, hfirst, h⟩ := (runs_bind b.keeps_named).mp h
    obtain ⟨hextra, rfl, hst⟩ := runs_reportUnsupported.mp hfirst
    split at h
    · exact absurd h not_runs_report
    · rename_i hname
      obtain ⟨_, _, hget, h⟩ := (runs_bind b.keeps_open).mp h
      obtain ⟨rfl, rfl, _⟩ := runs_get.mp hget
      split at h
      · exact absurd h not_runs_report
      · rename_i hnew
        obtain ⟨id, _, hgraph, h⟩ := (runs_bind b.keeps_fill).mp h
        obtain ⟨net, hadd, rfl, _⟩ := runs_extend.mp hgraph
        obtain ⟨hname', hnew', he⟩ := Network.addGraph_eq_ok.mp hadd
        obtain ⟨rfl, rfl⟩ := Prod.mk.inj he
        obtain ⟨_, _, hslots, h⟩ := (runs_bind (b.keeps_nodes _)).mp h
        obtain ⟨slots, hgives, hnames, rfl⟩ := (hinputs hst).mp hslots
        obtain ⟨g, _, hg, h⟩ := (runs_bind fun _ => .bind (Scope.keeps_enter _ _ _) fun s =>
          .forM (GraphOutput.keeps_declare s _ b.name) _).mp h
        obtain ⟨hg', rfl, _⟩ := runs_inspect.mp hg
        obtain rfl := Option.some.inj
          ((b.graph?_opened _ slots []).symm.trans (Network.graph_eq_ok.mp hg'))
        obtain ⟨s, mid, henter, houts⟩ := (runs_bind fun s =>
          .forM (GraphOutput.keeps_declare s _ b.name) _).mp h
        exact ⟨hst, slots, ⟨hextra, hname', hnew', hgives, hnames⟩, s, mid, henter, houts⟩
  · rintro ⟨hst, slots, hopens, s, mid, henter, houts⟩
    refine Runs.bind (a := ()) (runs_reportUnsupported.mpr ⟨hopens.supported, rfl, hst⟩) ?_
    rw [if_neg (by simpa using hopens.named)]
    refine Runs.bind (runs_get.mpr ⟨rfl, rfl, hst⟩) ?_
    rw [if_neg (by simp [hopens.new])]
    have hadd := Network.addGraph_eq_ok.mpr ⟨hopens.named, hopens.new, rfl⟩
    refine Runs.bind (runs_extend.mpr ⟨_, hadd, rfl, hst⟩) ?_
    refine Runs.bind (a := ()) ((hinputs hst).mpr ⟨slots, hopens.inputs, hopens.inputNames, rfl⟩) ?_
    refine Runs.bind (runs_inspect.mpr
      ⟨Network.graph_eq_ok.mpr (b.graph?_opened st.network slots []), rfl, hst⟩) ?_
    exact Runs.bind henter houts

/-! ## Materials -/

def Drives (net : Network) (frame : Frame) (handle : Text → Option NodeId) (e? : Option Expr)
    (v : Value) : Prop :=
  Denotes net frame handle e? none [] v ∧ (v.node?.isSome = true ∨ v.isAbsent = true)

theorem keeps_checkOutput (argument : Text) (e : Expr) (o : Option Value) : Keeps (match o with
    | none => return .absent
    | some v =>
      if v.node?.isNone && !v.isAbsent then do
        report (.materialOutput argument) e.span
        return .absent
      else return v : Load Value) := by
  split
  · exact .pure _
  · split
    · exact .bind (.report _ _) fun _ => .pure _
    · exact .pure _

theorem keeps_materialOutput (s : Scope) (argument : Text) (e? : Option Expr) :
    Keeps (materialOutput s argument e?) := by
  unfold materialOutput
  split
  · exact .pure _
  · split
    · exact .bind (.report _ _) fun _ => .pure _
    · exact .bind (Scope.keeps_finalValue s _ _) (keeps_checkOutput argument _)

theorem Denotes.reference {net : Network} {frame : Frame} {handle : Text → Option NodeId}
    {e : Expr} {space : Text} {v : Value} (h : Denotes net frame handle (some e) none space v) :
    e.reference? ≠ none := by
  cases h with
  | parameter hrefers _ _ => exact hrefers.reference
  | graphInput hrefers _ _ => exact hrefers.reference
  | node hrefers _ _ => exact hrefers.reference

theorem runs_materialOutput {s : Scope} {argument : Text} {e? : Option Expr} {v : Value}
    (hs : Complete s st) :
    Runs (materialOutput s argument e?) st v st' ↔
      st = st' ∧ Drives st.network s.frame st.handle e? v := by
  have hst := hs.clear.diagnostics
  unfold materialOutput
  cases e? with
  | none =>
    rw [runs_pure]
    constructor
    · rintro ⟨rfl, rfl, _⟩
      exact ⟨rfl, .absent, .inr rfl⟩
    · rintro ⟨rfl, hv, _⟩
      cases hv
      exact ⟨rfl, rfl, hst⟩
  | some e =>
    constructor
    · intro h
      dsimp only at h
      split at h
      · exact absurd h (not_runs_report_bind fun _ => .pure _)
      · obtain ⟨_, _, hvalue, h⟩ := (runs_bind (keeps_checkOutput argument e)).mp h
        obtain ⟨w, rfl, rfl, hv⟩ := hs.runs_finalValue.mp hvalue
        dsimp only at h
        split at h
        · exact absurd h (not_runs_report_bind fun _ => .pure _)
        · rename_i hnode
          obtain ⟨rfl, rfl, _⟩ := runs_pure.mp h
          refine ⟨rfl, hv, ?_⟩
          cases hn : w.node? <;> simp_all
    · rintro ⟨rfl, hv, hnode⟩
      dsimp only
      rw [if_neg (by simp [hv.reference])]
      refine Runs.bind (hs.runs_finalValue.mpr ⟨v, rfl, rfl, hv⟩) ?_
      dsimp only
      rw [if_neg (by cases hn : v.node? <;> simp_all)]
      exact runs_pure.mpr ⟨rfl, rfl, hst⟩

def Names (net : Network) (name : Text) (id : GraphId) : Prop :=
  ∃ g, net.findGraph? name = some g ∧ g.id = id

theorem keeps_listedGraphs (material : Text) (subject : Span) (names : List Text) :
    Keeps (listedGraphs material subject names) := by
  induction names with
  | nil => exact .pure _
  | cons name names ih =>
    refine .bind .get fun st₀ => ?_
    split
    · exact .bind (.report _ _) fun _ => ih
    · exact .bind ih fun _ => .pure _

theorem keeps_listGraph (material : Text) (subject : Span) (name : Text) (names : List Text)
    (st₀ : Loading) : Keeps (match st₀.network.findGraph? name with
      | none => do
        report (.graphUnlisted material name) subject
        listedGraphs material subject names
      | some g => return g.id :: (← listedGraphs material subject names) : Load _) := by
  split
  · exact .bind (.report _ _) fun _ => keeps_listedGraphs _ _ _
  · exact .bind (keeps_listedGraphs _ _ _) fun _ => .pure _

theorem runs_listedGraphs {material : Text} {subject : Span} {names : List Text}
    {ids : List GraphId} :
    Runs (listedGraphs material subject names) st ids st' ↔
      st = st' ∧ st.diagnostics = [] ∧ List.Forall₂ (Names st.network) names ids := by
  induction names generalizing ids with
  | nil =>
    rw [listedGraphs, runs_pure]
    constructor
    · rintro ⟨rfl, rfl, hst⟩
      exact ⟨rfl, hst, .nil⟩
    · rintro ⟨rfl, hst, hnames⟩
      cases hnames
      exact ⟨rfl, rfl, hst⟩
  | cons name names ih =>
    constructor
    · intro h
      obtain ⟨_, _, hget, h⟩ :=
        (runs_bind (keeps_listGraph material subject name names)).mp h
      obtain ⟨rfl, rfl, hst⟩ := runs_get.mp hget
      split at h
      · exact absurd h (not_runs_report_bind fun _ => keeps_listedGraphs _ _ _)
      · rename_i g hg
        obtain ⟨rest, _, hids, h⟩ := (runs_bind fun _ => .pure _).mp h
        obtain ⟨rfl, rfl, _⟩ := runs_pure.mp h
        obtain ⟨rfl, _, hall⟩ := ih.mp hids
        exact ⟨rfl, hst, .cons ⟨g, hg, rfl⟩ hall⟩
    · rintro ⟨rfl, hst, hall⟩
      cases hall with
      | cons hname hall =>
        obtain ⟨g, hg, rfl⟩ := hname
        refine Runs.bind (runs_get.mpr ⟨rfl, rfl, hst⟩) ?_
        rw [hg]
        exact Runs.bind (ih.mpr ⟨rfl, hst, hall⟩) (runs_pure.mpr ⟨rfl, rfl, hst⟩)

/-- The graphs that a material lists, all of them if it does not say. -/
def Material.Lists (m : Material) (net : Network) (ids : List GraphId) : Prop :=
  match m.nodeGraphs with
  | none => ids = net.graphIds
  | some e => ∃ names, Decode.typed Config.Datum.toTexts e = .ok names ∧
      List.Forall₂ (Names net) names ids

theorem Decode.typed_error {α : Type} {read : Config.Datum → Except Config.ConversionError α}
    {e : Expr} {problems : List Config.Problem} (h : Decode.typed read e = .error problems) :
    problems ≠ [] := by
  unfold Decode.typed at h
  dsimp only at h
  split at h
  · split at h
    · cases h
    · rename_i hproblems
      obtain rfl := Except.error.inj h
      simpa using hproblems
  · obtain rfl := Except.error.inj h
    simp

theorem Material.keeps_graphs (m : Material) : Keeps m.graphs := by
  unfold Material.graphs
  split
  · exact .bind .get fun _ => .pure _
  · split
    · exact .bind (.reportAll _) fun _ => .pure _
    · exact keeps_listedGraphs _ _ _

theorem Material.runs_graphs {m : Material} {ids : List GraphId} :
    Runs m.graphs st ids st' ↔ st = st' ∧ st.diagnostics = [] ∧ m.Lists st.network ids := by
  unfold Material.graphs Material.Lists
  cases m.nodeGraphs with
  | none =>
    constructor
    · intro h
      obtain ⟨_, _, hget, h⟩ := (runs_bind fun _ => .pure _).mp h
      obtain ⟨rfl, rfl, hst⟩ := runs_get.mp hget
      obtain ⟨rfl, rfl, _⟩ := runs_pure.mp h
      exact ⟨rfl, hst, rfl⟩
    · rintro ⟨rfl, hst, rfl⟩
      exact Runs.bind (runs_get.mpr ⟨rfl, rfl, hst⟩) (runs_pure.mpr ⟨rfl, rfl, hst⟩)
  | some e =>
    dsimp only
    cases htyped : Decode.typed Config.Datum.toTexts e with
    | error problems =>
      constructor
      · intro h
        obtain ⟨_, _, hreport, _⟩ := (runs_bind fun _ => .pure _).mp h
        have hnil := (runs_reportAll.mp hreport).1
        exact absurd (List.map_eq_nil_iff.mp hnil) (Decode.typed_error htyped)
      · rintro ⟨_, _, names, hnames, _⟩
        cases hnames
    | ok names =>
      dsimp only
      rw [runs_listedGraphs]
      simp

structure Material.Gives (net : Network) (frame : Frame) (handle : Text → Option NodeId)
    (m : Material) (mat : Stage.Material) : Prop where
  supported : m.extra.unsupported = []
  named : m.name ≠ []
  name : mat.name = m.name
  surface : Drives net frame handle m.surface mat.surface
  geometryModifier : Drives net frame handle m.geometryModifier mat.geometryModifier
  graphs : m.Lists net mat.nodeGraphs

theorem keeps_addMaterial {s : Scope} {ms : List Material}
    (hms : ∀ done, Keeps (declareMaterials s done ms)) (done : List Stage.Material)
    (m : Material) : Keeps (do
      let surface ← materialOutput s "surface" m.surface
      let geometryModifier ← materialOutput s "geometry_modifier" m.geometryModifier
      let graphs ← m.graphs
      declareMaterials s (done ++ [⟨m.name, surface, geometryModifier, graphs⟩]) ms) :=
  .bind (keeps_materialOutput _ _ _) fun _ => .bind (keeps_materialOutput _ _ _) fun _ =>
    .bind m.keeps_graphs fun _ => hms _

theorem keeps_material {s : Scope} {ms : List Material}
    (hms : ∀ done, Keeps (declareMaterials s done ms)) (done : List Stage.Material)
    (m : Material) : ∀ _ : Unit, Keeps (
      if m.name.isEmpty then do
        report .materialName m.extra.span
        declareMaterials s done ms
      else if done.any (·.name = m.name) then do
        report (.materialTaken m.name) m.extra.span
        declareMaterials s done ms
      else do
        let surface ← materialOutput s "surface" m.surface
        let geometryModifier ← materialOutput s "geometry_modifier" m.geometryModifier
        let graphs ← m.graphs
        declareMaterials s (done ++ [⟨m.name, surface, geometryModifier, graphs⟩]) ms) := by
  intro _
  split
  · exact .bind (.report _ _) fun _ => hms _
  · split
    · exact .bind (.report _ _) fun _ => hms _
    · exact keeps_addMaterial hms done m

theorem keeps_declareMaterials (s : Scope) (done : List Stage.Material) (ms : List Material) :
    Keeps (declareMaterials s done ms) := by
  induction ms generalizing done with
  | nil => exact .pure _
  | cons m ms ih => exact .bind (.reportUnsupported _) (keeps_material ih done m)

theorem runs_declareMaterials {s : Scope} {done r : List Stage.Material} {ms : List Material}
    (hs : Complete s st) (hdone : (done.map (·.name)).Nodup) :
    Runs (declareMaterials s done ms) st r st' ↔
      st = st' ∧ ∃ new, r = done ++ new ∧
        List.Forall₂ (Material.Gives st.network s.frame st.handle) ms new ∧
        ((done ++ new).map (·.name)).Nodup := by
  have hst := hs.clear.diagnostics
  induction ms generalizing done with
  | nil =>
    rw [declareMaterials, runs_pure]
    constructor
    · rintro ⟨rfl, rfl, hst⟩
      exact ⟨rfl, [], by simp, .nil, by simpa using hdone⟩
    · rintro ⟨rfl, new, rfl, hnew, _⟩
      cases hnew
      exact ⟨by simp, rfl, hst⟩
  | cons m ms ih =>
    have hms : ∀ done, Keeps (declareMaterials s done ms) :=
      fun done => keeps_declareMaterials s done ms
    constructor
    · intro h
      obtain ⟨_, _, hfirst, h⟩ := (runs_bind (keeps_material hms done m)).mp h
      obtain ⟨hextra, rfl, _⟩ := runs_reportUnsupported.mp hfirst
      split at h
      · exact absurd h (not_runs_report_bind fun _ => hms _)
      · rename_i hnamed
        split at h
        · exact absurd h (not_runs_report_bind fun _ => hms _)
        · rename_i hnew
          rw [Scope.any_name_iff] at hnew
          obtain ⟨surface, _, hrun, h⟩ := (runs_bind fun _ =>
            .bind (keeps_materialOutput _ _ _) fun _ => .bind m.keeps_graphs fun _ => hms _).mp h
          obtain ⟨rfl, hsurface⟩ := (runs_materialOutput hs).mp hrun
          obtain ⟨modifier, _, hrun', h⟩ := (runs_bind fun _ =>
            .bind m.keeps_graphs fun _ => hms _).mp h
          obtain ⟨rfl, hmodifier⟩ := (runs_materialOutput hs).mp hrun'
          obtain ⟨ids, _, hgraphs, h⟩ := (runs_bind fun _ => hms _).mp h
          obtain ⟨rfl, _, hids⟩ := Material.runs_graphs.mp hgraphs
          obtain ⟨rfl, new, rfl, hall, hnodup⟩ :=
            (ih (@Network.nodup_names_concat _ Stage.Material.name _ _ hdone hnew)).mp h
          refine ⟨rfl, ⟨m.name, surface, modifier, ids⟩ :: new, by simp, .cons ?_ hall,
            by simpa using hnodup⟩
          exact ⟨hextra, by simpa using hnamed, rfl, hsurface, hmodifier, hids⟩
    · rintro ⟨rfl, _, rfl, hall, hnodup⟩
      cases hall with
      | @cons _ mat _ new hm hall =>
        obtain ⟨hnew, hnodup⟩ := Scope.names_append_cons.mp hnodup
        refine Runs.bind (a := ()) (runs_reportUnsupported.mpr ⟨hm.supported, rfl, hst⟩) ?_
        rw [if_neg (by simpa using hm.named), if_neg (by rwa [Scope.any_name_iff, ← hm.name])]
        refine Runs.bind ((runs_materialOutput hs).mpr ⟨rfl, hm.surface⟩) ?_
        refine Runs.bind ((runs_materialOutput hs).mpr ⟨rfl, hm.geometryModifier⟩) ?_
        refine Runs.bind (Material.runs_graphs.mpr ⟨rfl, hst, hm.graphs⟩) ?_
        rw [← hm.name]
        refine (ih (@Network.nodup_names_concat _ Stage.Material.name _ _ hdone hnew)).mpr
          ⟨rfl, new, by simp, hall, hnodup⟩

/-! ## Files -/

theorem keeps_top (bp : Blueprint) (parameters : List (Text × Constant)) : ∀ _ : Unit, Keeps (do
    let top ← Scope.enter none parameters bp.nodes
    declareMaterials top [] bp.materials) := fun _ =>
  .bind (Scope.keeps_enter _ _ _) fun top => keeps_declareMaterials top _ _

theorem runs_declare {bp : Blueprint} {base : Text} {r : List Stage.Material} :
    Runs (declare bp base) st r st' ↔ st.diagnostics = [] ∧
      ∃ parameters, List.Forall₂ (Parameter.Gives base) bp.parameters parameters ∧
        (parameters.map (·.1)).Nodup ∧ ∃ mid, Runs (bp.graphs.forM Graph.declare) st () mid ∧
        ∃ top last, Runs (Scope.enter none parameters bp.nodes) mid top last ∧
          Runs (declareMaterials top [] bp.materials) last r st' := by
  have hgraphs : ∀ parameters, Keeps (do
      bp.graphs.forM Graph.declare
      let top ← Scope.enter none parameters bp.nodes
      declareMaterials top [] bp.materials) :=
    fun parameters => .bind (.forM Graph.keeps_declare _) (keeps_top bp parameters)
  constructor
  · intro h
    obtain ⟨parameters, _, hparameters, h⟩ := (runs_bind hgraphs).mp h
    obtain ⟨rfl, hst, new, rfl, hgives, hnames⟩ :=
      (runs_declareParameters (by simp)).mp hparameters
    obtain ⟨_, mid, hmid, h⟩ := (runs_bind (keeps_top bp _)).mp h
    obtain ⟨top, last, htop, h⟩ := (runs_bind fun top => keeps_declareMaterials top _ _).mp h
    exact ⟨hst, _, hgives, hnames, mid, hmid, top, last, htop, h⟩
  · rintro ⟨hst, parameters, hgives, hnames, mid, hmid, top, last, htop, h⟩
    refine Runs.bind ((runs_declareParameters (by simp)).mpr
      ⟨rfl, hst, parameters, rfl, hgives, hnames⟩) ?_
    exact Runs.bind (a := ()) hmid (Runs.bind htop h)

theorem load_eq_ok {bp : Blueprint} {base : Text} {l : Loaded} :
    load bp base = .ok l ↔
      ∃ st', Runs (declare bp base) ⟨.empty, [], []⟩ l.materials st' ∧ st'.network = l.network := by
  unfold load
  rcases hrun : declare bp base ⟨.empty, [], []⟩ with ⟨_ | materials, st'⟩
  · constructor
    · intro h
      cases h
    · rintro ⟨st'', ⟨hrun', _⟩, _⟩
      cases (Prod.mk.inj (hrun.symm.trans hrun')).1
  · dsimp only
    split
    · rename_i hclean
      rw [List.isEmpty_iff] at hclean
      constructor
      · intro h
        obtain rfl := Except.ok.inj h
        exact ⟨st', ⟨hrun, hclean⟩, rfl⟩
      · rintro ⟨st'', ⟨hrun', _⟩, hnet⟩
        obtain ⟨hm, rfl⟩ := Prod.mk.inj (hrun.symm.trans hrun')
        rw [Except.ok.inj hm, hnet]
    · rename_i hclean
      rw [List.isEmpty_iff] at hclean
      constructor
      · intro h
        cases h
      · rintro ⟨st'', ⟨hrun', hclean'⟩, _⟩
        obtain ⟨_, rfl⟩ := Prod.mk.inj (hrun.symm.trans hrun')
        exact absurd hclean' hclean

theorem read_eq_ok {source filename : Text} {l : Loaded} :
    read source filename = .ok l ↔ ∃ body bp, Config.parseFile source = some body ∧
      decode body = .ok bp ∧ load bp (Path.directory filename) = .ok l := by
  unfold read
  cases Config.parseFile source with
  | none => simp
  | some body =>
    cases hdecode : decode body with
    | error problems => simp [hdecode]
    | ok bp => simp [hdecode]

end Blueprint
end ShaderGraph
