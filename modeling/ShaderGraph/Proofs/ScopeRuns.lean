import ShaderGraph.Blueprint.Scope
import ShaderGraph.Proofs.Runs
import ShaderGraph.Proofs.Soundness

/-!
# Runs of a scope

What the steps of a scope do when nothing is reported, as relations between the states before and
after: reading an expression, wiring the inputs of a node one after the other, and constructing a
node. Each step runs without a report exactly as its relation says. The relations leave open how the
nodes that are referred to get built, so they also cover a node in the middle of building another.
-/
namespace ShaderGraph.Blueprint

open Config (Expr Span Step)
open Load

structure Loading.Clear (st : Loading) : Prop where
  diagnostics : st.diagnostics = []
  settled : ∀ entry ∈ st.settled, entry.2 ≠ none

inductive Chain {σ α β : Type} (R : σ → α → β → σ → Prop) : σ → List α → List β → σ → Prop
  | nil (s : σ) : Chain R s [] [] s
  | cons {s s' s'' : σ} {a : α} {b : β} {as : List α} {bs : List β} :
      R s a b s' → Chain R s' as bs s'' → Chain R s (a :: as) (b :: bs) s''

theorem Chain.preserves {σ α β : Type} {R : σ → α → β → σ → Prop} {P : σ → Prop}
    (hR : ∀ s a b s', R s a b s' → P s → P s') {s s' : σ} {as : List α} {bs : List β}
    (h : Chain R s as bs s') (hs : P s) : P s' := by
  induction h with
  | nil s => exact hs
  | cons hab _ ih => exact ih (hR _ _ _ _ hab hs)

def Refers (e : Expr) (t : Scope.Target) : Prop :=
  ∃ root steps, e.reference? = some (root, steps) ∧ Scope.target root steps = .ok t

theorem Refers.reference {e : Expr} {t : Scope.Target} (h : Refers e t) : e.reference? ≠ none := by
  obtain ⟨root, steps, href, _⟩ := h
  simp [href]

theorem Refers.unique {e : Expr} {t t' : Scope.Target} (h : Refers e t) (h' : Refers e t') :
    t = t' := by
  obtain ⟨root, steps, href, htarget⟩ := h
  obtain ⟨root', steps', href', htarget'⟩ := h'
  obtain ⟨rfl, rfl⟩ := Prod.mk.inj (Option.some.inj (href.symm.trans href'))
  exact Except.ok.inj (htarget.symm.trans htarget')

def Shows (net : Network) (id : NodeId) (names : List Text) : Prop :=
  ∃ n, net.node? id = some n ∧
    if n.isReference then ∃ g, net.graph? n.graph = some g ∧ names = g.outputs.map (·.name)
    else names = n.outputs.map (·.name)

def Picks (net : Network) (id : NodeId) (output? : Option Text) (v : Value) : Prop :=
  ∃ output, (output? = some output ∨ output? = none ∧ Shows net id [output]) ∧
    net.output id output = .ok v

namespace Scope

def Declares (s : Scope) (name : Text) : Prop := ∃ n ∈ s.nodes, n.name = name

/-- The expression has the value after a run that builds the node it refers to, if any. -/
inductive Reads (s : Scope) (build : Text → Load (Option NodeId)) :
    Loading → Option Expr → Option DataType → Text → Value → Loading → Prop
  | absent {st : Loading} {type? : Option DataType} {space : Text} :
      Reads s build st none type? space .absent st
  | constant {st : Loading} {e : Expr} {type : DataType} {space : Text} {c : Constant} :
      e.reference? = none → literal type (some e) space e.span = .ok c →
      Reads s build st (some e) (some type) space (.ofConstant c) st
  | parameter {st : Loading} {e : Expr} {type? : Option DataType} {space name : Text} {c : Constant} :
      Refers e (.parameter name) → s.graph = none → s.parameters.lookup name = some c →
      Reads s build st (some e) type? space (.ofParameter name c) st
  | graphInput {st : Loading} {e : Expr} {type? : Option DataType} {space name : Text}
      {g : NodeGraph} {i : ShaderGraph.GraphInput} :
      Refers e (.graphInput name) → s.graph = some g → g.input? name = some i →
      Reads s build st (some e) type? space ⟨i.type, .graphInput g.id name⟩ st
  | node {st st' : Loading} {e : Expr} {type? : Option DataType} {space name : Text}
      {output? : Option Text} {id : NodeId} {v : Value} :
      Refers e (.node name output?) → s.Declares name → Runs (build name) st (some id) st' →
      Picks st'.network id output? v → Reads s build st (some e) type? space v st'

/-- How the nodes of a scope get built: a declared node that can be built without a report is. -/
structure Builder (s : Scope) (build : Text → Load (Option NodeId)) : Prop where
  keeps : ∀ name, Keeps (build name)
  builds : ∀ {name : Text} {st st' : Loading} {o : Option NodeId}, s.Declares name → st.Clear →
    Runs (build name) st o st' → (∃ id, o = some id) ∧ st'.Clear

variable {s : Scope} {build : Text → Load (Option NodeId)} {st st' : Loading}

theorem outputNames_eq_ok {net : Network} {id : NodeId} {names : List Text} :
    (outputNames id net).1 = .ok names ↔ Shows net id names := by
  have happly : (outputNames id net).1 = (net.node id >>= fun n =>
      if n.isReference = true then net.graph n.graph >>= fun g => pure (g.outputs.map (·.name))
      else pure (n.outputs.map (·.name))) := rfl
  rw [happly, Outcome.bind_eq_ok, Shows]
  refine exists_congr fun n => ?_
  rw [Network.node_eq_ok]
  refine and_congr_right fun _ => ?_
  split
  · rw [Outcome.bind_eq_ok]
    refine exists_congr fun g => ?_
    rw [Network.graph_eq_ok, Outcome.pure_eq_ok, eq_comm (b := names)]
  · rw [Outcome.pure_eq_ok, eq_comm]

theorem exists_shows_of_output {net : Network} {id : NodeId} {output : Text} {v : Value}
    (h : net.output id output = .ok v) : ∃ names, Shows net id names ∧ output ∈ names := by
  obtain ⟨t, ht, _⟩ := Outcome.bind_eq_ok.mp h
  obtain ⟨n, hn, hslot⟩ := Network.outputType_ok_iff.mp ⟨t, ht⟩
  by_cases href : n.isReference = true
  · rw [if_pos href] at hslot
    obtain ⟨g, hg, hmem⟩ := hslot
    exact ⟨_, ⟨n, hn, by rw [if_pos href]; exact ⟨g, hg, rfl⟩⟩, hmem⟩
  · rw [if_neg href] at hslot
    exact ⟨_, ⟨n, hn, by rw [if_neg href]⟩, hslot⟩

theorem runs_output {id : NodeId} {output : Text} {o : Option Value} :
    Runs (do return some (← perform (.output id output))) st o st' ↔
      ∃ v, o = some v ∧ st.network.output id output = .ok v ∧ st = st' ∧ st.diagnostics = [] := by
  rw [runs_bind fun _ => .pure _]
  constructor
  · rintro ⟨v, mid, hout, hpure⟩
    obtain ⟨hv, rfl, hclean⟩ := runs_inspect.mp hout
    obtain ⟨rfl, rfl, _⟩ := runs_pure.mp hpure
    exact ⟨v, rfl, hv, rfl, hclean⟩
  · rintro ⟨v, rfl, hv, rfl, hclean⟩
    exact ⟨v, st, runs_inspect.mpr ⟨hv, rfl, hclean⟩, runs_pure.mpr ⟨rfl, rfl, hclean⟩⟩

theorem keeps_choice (name : Text) (id : NodeId) (output? : Option Text) (subject : Span)
    (names : List Text) :
    Keeps (match output?, names with
      | none, [output] => do return some (← perform (.output id output))
      | none, _ => refuse (.nodeOutputAmbiguous name names.length) subject
      | some output, _ =>
        if names.contains output then do return some (← perform (.output id output))
        else refuse (.nodeOutputUnknown name output) subject : Load (Option Value)) := by
  split
  · exact .bind (.perform _) fun _ => .pure _
  · exact .refuse _ _
  · split
    · exact .bind (.perform _) fun _ => .pure _
    · exact .refuse _ _

theorem keeps_nodeOutput (name : Text) (id : NodeId) (output? : Option Text) (subject : Span) :
    Keeps (nodeOutput name id output? subject) :=
  .bind (.perform _) (keeps_choice name id output? subject)

theorem runs_nodeOutput {name : Text} {id : NodeId} {output? : Option Text} {subject : Span}
    {o : Option Value} :
    Runs (nodeOutput name id output? subject) st o st' ↔
      ∃ v, o = some v ∧ Picks st.network id output? v ∧ st = st' ∧ st.diagnostics = [] := by
  refine Iff.trans (runs_bind (keeps_choice name id output? subject)) ?_
  constructor
  · rintro ⟨names, mid, hnames, hchoice⟩
    obtain ⟨hok, rfl, _⟩ := runs_inspect.mp hnames
    have hshows := outputNames_eq_ok.mp hok
    split at hchoice
    · obtain ⟨v, rfl, hv, rfl, hclean⟩ := runs_output.mp hchoice
      exact ⟨v, rfl, ⟨_, Or.inr ⟨rfl, hshows⟩, hv⟩, rfl, hclean⟩
    · exact absurd hchoice not_runs_refuse
    · split at hchoice
      · obtain ⟨v, rfl, hv, rfl, hclean⟩ := runs_output.mp hchoice
        exact ⟨v, rfl, ⟨_, Or.inl rfl, hv⟩, rfl, hclean⟩
      · exact absurd hchoice not_runs_refuse
  · rintro ⟨v, rfl, ⟨output, hpick, hv⟩, rfl, hclean⟩
    have hrun := runs_output.mpr ⟨v, rfl, hv, rfl, hclean⟩
    rcases hpick with rfl | ⟨rfl, hshows⟩
    · obtain ⟨names, hshows, hmem⟩ := exists_shows_of_output hv
      refine ⟨names, st, runs_inspect.mpr ⟨outputNames_eq_ok.mpr hshows, rfl, hclean⟩, ?_⟩
      have hcontains : names.contains output = true := by simpa using hmem
      simp only [hcontains, if_true]
      exact hrun
    · exact ⟨[output], st, runs_inspect.mpr ⟨outputNames_eq_ok.mpr hshows, rfl, hclean⟩, hrun⟩

theorem declares_iff {name : Text} : s.nodes.any (·.name = name) = true ↔ s.Declares name := by
  simp [Declares]

theorem keeps_resolve (hb : ∀ name, Keeps (build name)) (root : Text) (steps : List Step)
    (subject : Span) : Keeps (s.resolve build root steps subject) := by
  unfold resolve
  split
  · exact .refuse _ _
  · split
    · exact .refuse _ _
    · split
      · exact .refuse _ _
      · exact .pure _
  · split
    · exact .refuse _ _
    · split
      · exact .refuse _ _
      · exact .pure _
  · split
    · exact .refuse _ _
    · refine .bind (hb _) fun o => ?_
      split
      · exact .pure _
      · exact keeps_nodeOutput _ _ _ _

theorem keeps_value (hb : ∀ name, Keeps (build name)) (e? : Option Expr) (type? : Option DataType)
    (space : Text) : Keeps (s.value build e? type? space) := by
  unfold value
  split
  · exact .pure _
  · split
    · exact keeps_resolve hb _ _ _
    · split
      · exact .refuse _ _
      · exact .bind (.reported _) fun _ => .pure _

theorem literal_error {type : DataType} {e? : Option Expr} {space : Text} {subject : Span}
    {ds : List Diagnostic} (h : literal type e? space subject = .error ds) : ds ≠ [] := by
  unfold literal at h
  split at h
  · obtain rfl := Except.error.inj h
    simp
  · split at h
    · cases h
    · simp only at h
      split at h
      · rename_i hproblems
        obtain rfl := Except.error.inj h
        simpa using hproblems
      · split at h
        · cases h
        · obtain rfl := Except.error.inj h
          simp

def Preserves (s : Scope) (build : Text → Load (Option NodeId)) (P : Loading → Prop) : Prop :=
  ∀ ⦃name : Text⦄ ⦃id : NodeId⦄ ⦃st st' : Loading⦄, s.Declares name →
    Runs (build name) st (some id) st' → P st → P st'

theorem Builder.clear (hb : s.Builder build) : s.Preserves build Loading.Clear :=
  fun _ _ _ _ hname hrun hst => (hb.builds hname hst hrun).2

theorem Reads.preserves {P : Loading → Prop} (hb : s.Preserves build P) {e? : Option Expr}
    {type? : Option DataType} {space : Text} {v : Value}
    (h : s.Reads build st e? type? space v st') (hst : P st) : P st' := by
  cases h with
  | node _ hname hrun _ => exact hb hname hrun hst
  | _ => exact hst

theorem runs_resolve (hb : s.Builder build) (hst : st.Clear) {e : Expr} {root : Text}
    {steps : List Step} (href : e.reference? = some (root, steps)) {type? : Option DataType}
    {space : Text} {o : Option Value} :
    Runs (s.resolve build root steps e.span) st o st' ↔
      ∃ v, o = some v ∧ s.Reads build st (some e) type? space v st' := by
  constructor
  · intro h
    unfold resolve at h
    split at h
    · exact absurd h not_runs_refuse
    · rename_i name htarget
      split at h
      · exact absurd h not_runs_refuse
      · rename_i hgraph
        split at h
        · exact absurd h not_runs_refuse
        · rename_i c hlookup
          obtain ⟨rfl, rfl, _⟩ := runs_pure.mp h
          exact ⟨_, rfl, .parameter ⟨root, steps, href, htarget⟩ hgraph hlookup⟩
    · rename_i name htarget
      split at h
      · exact absurd h not_runs_refuse
      · rename_i g hgraph
        split at h
        · exact absurd h not_runs_refuse
        · rename_i i hinput
          obtain ⟨rfl, rfl, _⟩ := runs_pure.mp h
          exact ⟨_, rfl, .graphInput ⟨root, steps, href, htarget⟩ hgraph hinput⟩
    · rename_i name output? htarget
      split at h
      · exact absurd h not_runs_refuse
      · rename_i hany
        have hname : s.Declares name := declares_iff.mp (by simpa using hany)
        rw [runs_bind] at h
        · obtain ⟨o', mid, hbuild, hrest⟩ := h
          obtain ⟨⟨id, rfl⟩, hmid⟩ := hb.builds hname hst hbuild
          obtain ⟨v, rfl, hpicks, rfl, _⟩ := runs_nodeOutput.mp hrest
          exact ⟨v, rfl, .node ⟨root, steps, href, htarget⟩ hname hbuild hpicks⟩
        · intro o'
          split
          · exact .pure _
          · exact keeps_nodeOutput _ _ _ _
  · rintro ⟨v, rfl, hreads⟩
    cases hreads with
    | constant hnone _ => rw [hnone] at href; cases href
    | parameter hrefers hgraph hlookup =>
      obtain ⟨_, _, href', htarget⟩ := hrefers
      obtain ⟨rfl, rfl⟩ := Prod.mk.inj (Option.some.inj (href.symm.trans href'))
      rw [resolve, htarget]
      simp only [hgraph, hlookup]
      exact runs_pure.mpr ⟨rfl, rfl, hst.diagnostics⟩
    | graphInput hrefers hgraph hinput =>
      obtain ⟨_, _, href', htarget⟩ := hrefers
      obtain ⟨rfl, rfl⟩ := Prod.mk.inj (Option.some.inj (href.symm.trans href'))
      rw [resolve, htarget]
      simp only [hgraph, hinput]
      exact runs_pure.mpr ⟨rfl, rfl, hst.diagnostics⟩
    | node hrefers hname hbuild hpicks =>
      obtain ⟨_, _, href', htarget⟩ := hrefers
      obtain ⟨rfl, rfl⟩ := Prod.mk.inj (Option.some.inj (href.symm.trans href'))
      rw [resolve, htarget]
      simp only [declares_iff.mpr hname, Bool.not_true, Bool.false_eq_true, if_false]
      exact hbuild.bind (runs_nodeOutput.mpr ⟨v, rfl, hpicks, rfl, hbuild.2⟩)

theorem runs_value (hb : s.Builder build) (hst : st.Clear) {e? : Option Expr}
    {type? : Option DataType} {space : Text} {o : Option Value} :
    Runs (s.value build e? type? space) st o st' ↔
      ∃ v, o = some v ∧ s.Reads build st e? type? space v st' := by
  cases e? with
  | none =>
    rw [value, runs_pure]
    constructor
    · rintro ⟨rfl, rfl, _⟩
      exact ⟨_, rfl, .absent⟩
    · rintro ⟨v, rfl, hreads⟩
      cases hreads
      exact ⟨rfl, rfl, hst.diagnostics⟩
  | some e =>
    cases href : e.reference? with
    | some r =>
      obtain ⟨root, steps⟩ := r
      simp only [value, href]
      exact runs_resolve hb hst href
    | none =>
      have hnot : ∀ t, ¬ Refers e t := fun t h => h.reference href
      cases type? with
      | none =>
        simp only [value, href]
        constructor
        · intro h
          exact absurd h not_runs_refuse
        · rintro ⟨v, rfl, hreads⟩
          cases hreads with
          | parameter hrefers _ _ => exact absurd hrefers (hnot _)
          | graphInput hrefers _ _ => exact absurd hrefers (hnot _)
          | node hrefers _ _ _ => exact absurd hrefers (hnot _)
      | some type =>
        simp only [value, href]
        rw [runs_bind fun _ => .pure _]
        simp only [runs_reported fun ds => literal_error, runs_pure]
        constructor
        · rintro ⟨_, mid, ⟨c, hc, rfl, rfl, _⟩, rfl, rfl, _⟩
          exact ⟨_, rfl, .constant href hc⟩
        · rintro ⟨v, rfl, hreads⟩
          cases hreads with
          | constant _ hc =>
            exact ⟨_, st, ⟨_, hc, rfl, rfl, hst.diagnostics⟩, rfl, rfl, hst.diagnostics⟩
          | parameter hrefers _ _ => exact absurd hrefers (hnot _)
          | graphInput hrefers _ _ => exact absurd hrefers (hnot _)
          | node hrefers _ _ _ => exact absurd hrefers (hnot _)

/-! ## Nodes -/

def Wires (s : Scope) (build : Text → Load (Option NodeId)) (st : Loading) (i : Input)
    (slot : ShaderGraph.Input) (st' : Loading) : Prop :=
  ∃ type v, DataType.parse i.type = .ok type ∧
    s.Reads build st i.value (some type) i.colorSpace v st' ∧ slot = ⟨i.name, type, v⟩

def WiresInstance (s : Scope) (build : Text → Load (Option NodeId)) (g : NodeGraph) (st : Loading)
    (i : Input) (slot : ShaderGraph.Input) (st' : Loading) : Prop :=
  ∃ declared v, g.input? i.name = some declared ∧
    (i.type = [] ∨ (DataType.ofName? i.type).map TypeTag.ofDataType = some declared.type) ∧
    s.Reads build st i.value declared.type.dataType? i.colorSpace v st' ∧
    slot = ⟨i.name, declared.type, v⟩

def Offers (o : Output) (slot : ShaderGraph.Output) : Prop :=
  ∃ type, DataType.parse o.type = .ok type ∧ slot = ⟨o.name, type⟩

theorem keeps_inputs (hb : ∀ name, Keeps (build name)) (node : Text)
    (done : List ShaderGraph.Input) (ok : Bool) (is : List Input) :
    Keeps (s.inputs build node done ok is) := by
  induction is generalizing done ok with
  | nil => exact .pure _
  | cons i is ih =>
    unfold inputs
    split
    · exact .bind (.report _ _) fun _ => ih _ _
    · split
      · exact .bind (.report _ _) fun _ => ih _ _
      · exact .bind (keeps_value hb _ _ _) fun _ => ih _ _

theorem keeps_graphInputs (hb : ∀ name, Keeps (build name)) (g : NodeGraph) (node : Text)
    (done : List ShaderGraph.Input) (ok : Bool) (is : List Input) :
    Keeps (s.graphInputs build g node done ok is) := by
  induction is generalizing done ok with
  | nil => exact .pure _
  | cons i is ih =>
    unfold graphInputs
    split
    · exact .bind (.report _ _) fun _ => ih _ _
    · split
      · exact .bind (.report _ _) fun _ => ih _ _
      · split
        · exact .bind (.report _ _) fun _ => ih _ _
        · exact .bind (keeps_value hb _ _ _) fun _ => ih _ _

theorem keeps_outputs (node : Text) (subject : Span) (done : List ShaderGraph.Output) (ok : Bool)
    (os : List Output) : Keeps (outputs node subject done ok os) := by
  induction os generalizing done ok with
  | nil => exact .pure _
  | cons o os ih =>
    unfold outputs
    split
    · exact .bind (.report _ _) fun _ => ih _ _
    · split
      · exact .bind (.report _ _) fun _ => ih _ _
      · exact ih _ _

theorem Wires.preserves {P : Loading → Prop} (hb : s.Preserves build P) {i : Input}
    {slot : ShaderGraph.Input} (h : s.Wires build st i slot st') (hst : P st) : P st' := by
  obtain ⟨_, _, _, hreads, _⟩ := h
  exact hreads.preserves hb hst

theorem WiresInstance.preserves {P : Loading → Prop} (hb : s.Preserves build P) {g : NodeGraph}
    {i : Input} {slot : ShaderGraph.Input} (h : s.WiresInstance build g st i slot st')
    (hst : P st) : P st' := by
  obtain ⟨_, _, _, _, hreads, _⟩ := h
  exact hreads.preserves hb hst

theorem names_append_cons {α : Type} {name : α → Text} {done new : List α} {x : α} :
    ((done ++ x :: new).map name).Nodup ↔
      name x ∉ done.map name ∧ (((done ++ [x]) ++ new).map name).Nodup := by
  rw [List.append_assoc, List.singleton_append]
  constructor
  · intro h
    refine ⟨fun hmem => ?_, h⟩
    rw [List.map_append, List.map_cons, List.nodup_append] at h
    exact h.2.2 _ hmem _ List.mem_cons_self rfl
  · exact fun h => h.2

theorem any_name_iff {α : Type} (name : α → Text) {done : List α} {x : Text} :
    (done.any fun a => decide (name a = x)) = true ↔ x ∈ done.map name := by
  simp

theorem runs_inputs (hb : s.Builder build) (hst : st.Clear) {node : Text}
    {done : List ShaderGraph.Input} {is : List Input} {r : List ShaderGraph.Input × Bool}
    (hdone : (done.map (·.name)).Nodup) :
    Runs (s.inputs build node done true is) st r st' ↔
      ∃ new, r = (done ++ new, true) ∧ Chain (s.Wires build) st is new st' ∧
        ((done ++ new).map (·.name)).Nodup := by
  induction is generalizing st done with
  | nil =>
    rw [inputs, runs_pure]
    constructor
    · rintro ⟨rfl, rfl, _⟩
      exact ⟨[], by simp, .nil st, by simpa using hdone⟩
    · rintro ⟨new, rfl, hchain, _⟩
      cases hchain
      exact ⟨by simp, rfl, hst.diagnostics⟩
  | cons i is ih =>
    unfold inputs
    constructor
    · intro h
      split at h
      · exact absurd h (not_runs_report_bind fun _ => keeps_inputs hb.keeps _ _ _ _)
      · rename_i hnew
        rw [any_name_iff ShaderGraph.Input.name] at hnew
        split at h
        · exact absurd h (not_runs_report_bind fun _ => keeps_inputs hb.keeps _ _ _ _)
        · rename_i type htype
          obtain ⟨o, mid, hvalue, hrest⟩ := (runs_bind fun _ => keeps_inputs hb.keeps _ _ _ _).mp h
          obtain ⟨v, rfl, hreads⟩ := (runs_value hb hst).mp hvalue
          have hwires : s.Wires build st i ⟨i.name, type, v⟩ mid := ⟨type, v, htype, hreads, rfl⟩
          obtain ⟨new, rfl, hchain, hnodup⟩ := (ih (hwires.preserves hb.clear hst)
            (Network.nodup_names_concat hdone hnew)).mp hrest
          exact ⟨_, by simp, .cons hwires hchain, by simpa using hnodup⟩
    · rintro ⟨new, rfl, hchain, hnodup⟩
      cases hchain with
      | @cons _ mid _ _ slot _ new hwires hchain =>
        have hmid := hwires.preserves hb.clear hst
        obtain ⟨type, v, htype, hreads, rfl⟩ := hwires
        obtain ⟨hnew, hnodup⟩ := names_append_cons.mp hnodup
        rw [if_neg ((any_name_iff ShaderGraph.Input.name).not.mpr hnew), htype]
        refine Runs.bind ((runs_value hb hst).mpr ⟨v, rfl, hreads⟩) ?_
        exact (ih hmid (Network.nodup_names_concat hdone hnew)).mpr ⟨new, by simp, hchain, hnodup⟩

theorem runs_graphInputs (hb : s.Builder build) (hst : st.Clear) {g : NodeGraph} {node : Text}
    {done : List ShaderGraph.Input} {is : List Input} {r : List ShaderGraph.Input × Bool}
    (hdone : (done.map (·.name)).Nodup) :
    Runs (s.graphInputs build g node done true is) st r st' ↔
      ∃ new, r = (done ++ new, true) ∧ Chain (s.WiresInstance build g) st is new st' ∧
        ((done ++ new).map (·.name)).Nodup := by
  induction is generalizing st done with
  | nil =>
    rw [graphInputs, runs_pure]
    constructor
    · rintro ⟨rfl, rfl, _⟩
      exact ⟨[], by simp, .nil st, by simpa using hdone⟩
    · rintro ⟨new, rfl, hchain, _⟩
      cases hchain
      exact ⟨by simp, rfl, hst.diagnostics⟩
  | cons i is ih =>
    unfold graphInputs
    constructor
    · intro h
      split at h
      · exact absurd h (not_runs_report_bind fun _ => keeps_graphInputs hb.keeps _ _ _ _ _)
      · rename_i declared hdeclared
        split at h
        · exact absurd h (not_runs_report_bind fun _ => keeps_graphInputs hb.keeps _ _ _ _ _)
        · rename_i hnew
          rw [any_name_iff ShaderGraph.Input.name] at hnew
          split at h
          · exact absurd h (not_runs_report_bind fun _ => keeps_graphInputs hb.keeps _ _ _ _ _)
          · rename_i htype
            have htype' : i.type = [] ∨
                (DataType.ofName? i.type).map TypeTag.ofDataType = some declared.type := by
              by_cases hempty : i.type = []
              · exact Or.inl hempty
              · exact Or.inr (by simpa [hempty] using htype)
            obtain ⟨o, mid, hvalue, hrest⟩ :=
              (runs_bind fun _ => keeps_graphInputs hb.keeps _ _ _ _ _).mp h
            obtain ⟨v, rfl, hreads⟩ := (runs_value hb hst).mp hvalue
            have hwires : s.WiresInstance build g st i ⟨i.name, declared.type, v⟩ mid :=
              ⟨declared, v, hdeclared, htype', hreads, rfl⟩
            obtain ⟨new, rfl, hchain, hnodup⟩ := (ih (hwires.preserves hb.clear hst)
              (Network.nodup_names_concat hdone hnew)).mp hrest
            exact ⟨_, by simp, .cons hwires hchain, by simpa using hnodup⟩
    · rintro ⟨new, rfl, hchain, hnodup⟩
      cases hchain with
      | @cons _ mid _ _ slot _ new hwires hchain =>
        have hmid := hwires.preserves hb.clear hst
        obtain ⟨declared, v, hdeclared, htype, hreads, rfl⟩ := hwires
        obtain ⟨hnew, hnodup⟩ := names_append_cons.mp hnodup
        have htype' : ¬ ((!i.type.isEmpty &&
            decide ((DataType.ofName? i.type).map TypeTag.ofDataType ≠ some declared.type)) = true) := by
          rcases htype with hempty | hmatch
          · simp [hempty]
          · simp [hmatch]
        rw [hdeclared]
        simp only [if_neg ((any_name_iff ShaderGraph.Input.name).not.mpr hnew), if_neg htype']
        refine Runs.bind ((runs_value hb hst).mpr ⟨v, rfl, hreads⟩) ?_
        exact (ih hmid (Network.nodup_names_concat hdone hnew)).mpr ⟨new, by simp, hchain, hnodup⟩

theorem runs_outputs {node : Text} {subject : Span} {done : List ShaderGraph.Output}
    {os : List Output} {r : List ShaderGraph.Output × Bool}
    (hdone : (done.map (·.name)).Nodup) :
    Runs (outputs node subject done true os) st r st' ↔
      ∃ new, r = (done ++ new, true) ∧ List.Forall₂ Offers os new ∧
        ((done ++ new).map (·.name)).Nodup ∧ st = st' ∧ st.diagnostics = [] := by
  induction os generalizing done with
  | nil =>
    rw [outputs, runs_pure]
    constructor
    · rintro ⟨rfl, hst⟩
      exact ⟨[], by simp, .nil, by simpa using hdone, hst⟩
    · rintro ⟨new, rfl, hnew, _, hst⟩
      cases hnew
      exact ⟨by simp, hst⟩
  | cons o os ih =>
    unfold outputs
    constructor
    · intro h
      split at h
      · exact absurd h (not_runs_report_bind fun _ => keeps_outputs _ _ _ _ _)
      · rename_i hnew
        rw [any_name_iff ShaderGraph.Output.name] at hnew
        split at h
        · exact absurd h (not_runs_report_bind fun _ => keeps_outputs _ _ _ _ _)
        · rename_i type htype
          obtain ⟨new, rfl, hall, hnodup, hst⟩ :=
            (ih (Network.nodup_names_concat hdone hnew)).mp h
          exact ⟨_, by simp, .cons ⟨type, htype, rfl⟩ hall, by simpa using hnodup, hst⟩
    · rintro ⟨new, rfl, hall, hnodup, hst⟩
      cases hall with
      | @cons _ slot _ new hslot hall =>
        obtain ⟨type, htype, rfl⟩ := hslot
        obtain ⟨hnew, hnodup⟩ := names_append_cons.mp hnodup
        rw [if_neg ((any_name_iff ShaderGraph.Output.name).not.mpr hnew), htype]
        exact (ih (Network.nodup_names_concat hdone hnew)).mpr ⟨new, by simp, hall, hnodup, hst⟩

def Supported (n : Node) : Prop :=
  n.extra.unsupported = [] ∧ ∀ i ∈ n.inputs, i.extra.unsupported = []

inductive Constructs (s : Scope) (build : Text → Load (Option NodeId)) :
    Loading → Node → NodeId → Loading → Prop
  | shader {st mid : Loading} {n : Node} {ins : List ShaderGraph.Input}
      {outs : List ShaderGraph.Output} {id : NodeId} {net : Network} :
      n.graph = [] → n.type ≠ [] → n.type ≠ Network.referenceType →
      Chain (s.Wires build) st n.inputs ins mid → (ins.map (·.name)).Nodup →
      List.Forall₂ Offers n.outputs outs → (outs.map (·.name)).Nodup →
      mid.network.addNode n.type ins outs 0 = .ok (id, net) →
      Constructs s build st n id { mid with network := net }
  | copy {st mid : Loading} {n : Node} {g : NodeGraph} {ins : List ShaderGraph.Input} {id : NodeId}
      {net : Network} :
      n.graph ≠ [] → n.type = [] → n.outputs = [] → st.network.findGraph? n.graph = some g →
      (∀ own ∈ s.graph, own.id ≠ g.id) → Chain (s.WiresInstance build g) st n.inputs ins mid →
      (ins.map (·.name)).Nodup → mid.network.addReference g.id ins = .ok (id, net) →
      Constructs s build st n id { mid with network := net }

theorem keeps_added (ok : Bool) (act : Build NodeId) :
    Keeps (if ok then do return some (← perform act) else return none : Load (Option NodeId)) := by
  split
  · exact .bind (.perform _) fun _ => .pure _
  · exact .pure _

theorem runs_added {f : Network → Except Misuse (NodeId × Network)} {o : Option NodeId} :
    Runs (do return some (← perform (.extend f))) st o st' ↔
      ∃ id net, o = some id ∧ f st.network = .ok (id, net) ∧ { st with network := net } = st' ∧
        st.diagnostics = [] := by
  rw [runs_bind fun _ => .pure _]
  simp only [runs_extend, runs_pure]
  constructor
  · rintro ⟨id, _, ⟨net, hf, rfl, hst⟩, rfl, rfl, _⟩
    exact ⟨id, net, rfl, hf, rfl, hst⟩
  · rintro ⟨id, net, rfl, hf, rfl, hst⟩
    exact ⟨id, _, ⟨net, hf, rfl, hst⟩, rfl, rfl, hst⟩

theorem keeps_instantiate (hb : ∀ name, Keeps (build name)) (n : Node) :
    Keeps (s.instantiate build n) := by
  refine .bind .get fun st => ?_
  split
  · exact .refuse _ _
  · split
    · exact .refuse _ _
    · split
      · exact .refuse _ _
      · exact .bind (keeps_graphInputs hb _ _ _ _ _) fun r => keeps_added r.2 _

theorem keeps_shader (hb : ∀ name, Keeps (build name)) (n : Node) : Keeps (s.shader build n) :=
  .bind (keeps_inputs hb _ _ _ _) fun _ =>
    .bind (keeps_outputs _ _ _ _ _) fun r => keeps_added r.2 _

theorem keeps_construct (hb : ∀ name, Keeps (build name)) (n : Node) :
    Keeps (s.construct build n) := by
  refine .bind (.reportUnsupported _) fun _ => ?_
  refine .bind (.forM (fun i : Input => .reportUnsupported i.extra) _) fun _ => ?_
  split
  · split
    · exact .refuse _ _
    · exact keeps_instantiate hb n
  · split
    · exact .refuse _ _
    · split
      · exact .refuse _ _
      · exact keeps_shader hb n

theorem runs_shader (hb : s.Builder build) (hst : st.Clear) {n : Node} {o : Option NodeId} :
    Runs (s.shader build n) st o st' ↔ ∃ id ins outs mid net, o = some id ∧
      Chain (s.Wires build) st n.inputs ins mid ∧ (ins.map (·.name)).Nodup ∧
      List.Forall₂ Offers n.outputs outs ∧ (outs.map (·.name)).Nodup ∧
      mid.network.addNode n.type ins outs 0 = .ok (id, net) ∧ { mid with network := net } = st' := by
  constructor
  · intro h
    obtain ⟨⟨ins, ok⟩, mid, hins, hrest⟩ := (runs_bind fun _ =>
      .bind (keeps_outputs _ _ _ _ _) fun r => keeps_added r.2 _).mp h
    obtain ⟨_, hr, hchain, hnodup⟩ := (runs_inputs hb hst (by simp)).mp hins
    obtain ⟨rfl, rfl⟩ := Prod.mk.inj hr
    obtain ⟨⟨outs, ok⟩, mid', houts, hadd⟩ := (runs_bind fun r : _ × Bool => keeps_added r.2 _).mp hrest
    obtain ⟨_, hr, hoffers, hnodup', rfl, _⟩ := (runs_outputs (by simp)).mp houts
    obtain ⟨rfl, rfl⟩ := Prod.mk.inj hr
    obtain ⟨id, net, rfl, hnode, rfl, _⟩ := runs_added.mp hadd
    exact ⟨id, _, _, mid, net, rfl, hchain, hnodup, hoffers, hnodup', hnode, rfl⟩
  · rintro ⟨id, ins, outs, mid, net, rfl, hchain, hnodup, hoffers, hnodup', hnode, rfl⟩
    have hmid : mid.Clear :=
      hchain.preserves (fun _ _ _ _ hw hst => hw.preserves hb.clear hst) hst
    refine Runs.bind ((runs_inputs hb hst (by simp)).mpr ⟨ins, rfl, hchain, hnodup⟩) ?_
    refine Runs.bind ((runs_outputs (by simp)).mpr
      ⟨outs, rfl, hoffers, hnodup', rfl, hmid.diagnostics⟩) ?_
    exact runs_added.mpr ⟨id, net, rfl, hnode, rfl, hmid.diagnostics⟩

theorem runs_instantiate (hb : s.Builder build) (hst : st.Clear) {n : Node} {o : Option NodeId} :
    Runs (s.instantiate build n) st o st' ↔ ∃ id g ins mid net, o = some id ∧ n.outputs = [] ∧
      st.network.findGraph? n.graph = some g ∧ (∀ own ∈ s.graph, own.id ≠ g.id) ∧
      Chain (s.WiresInstance build g) st n.inputs ins mid ∧ (ins.map (·.name)).Nodup ∧
      mid.network.addReference g.id ins = .ok (id, net) ∧ { mid with network := net } = st' := by
  have hany : ∀ g : NodeGraph, (s.graph.any fun own => decide (own.id = g.id)) = true ↔
      ¬ ∀ own ∈ s.graph, own.id ≠ g.id := by
    intro g
    cases s.graph <;> simp
  constructor
  · intro h
    rw [instantiate, runs_bind] at h
    · obtain ⟨_, _, hget, h⟩ := h
      obtain ⟨rfl, rfl, _⟩ := runs_get.mp hget
      split at h
      · exact absurd h not_runs_refuse
      · rename_i g hg
        split at h
        · exact absurd h not_runs_refuse
        · rename_i hown
          rw [hany g, not_not] at hown
          split at h
          · exact absurd h not_runs_refuse
          · rename_i houtputs
            obtain ⟨⟨ins, ok⟩, mid, hins, hadd⟩ := (runs_bind fun r : _ × Bool => keeps_added r.2 _).mp h
            obtain ⟨_, hr, hchain, hnodup⟩ := (runs_graphInputs hb hst (by simp)).mp hins
            obtain ⟨rfl, rfl⟩ := Prod.mk.inj hr
            obtain ⟨id, net, rfl, hnode, rfl, _⟩ := runs_added.mp hadd
            exact ⟨id, g, _, mid, net, rfl, by simpa using houtputs, hg, hown, hchain, hnodup, hnode, rfl⟩
    · intro st
      split
      · exact .refuse _ _
      · split
        · exact .refuse _ _
        · split
          · exact .refuse _ _
          · exact .bind (keeps_graphInputs hb.keeps _ _ _ _ _) fun r => keeps_added r.2 _
  · rintro ⟨id, g, ins, mid, net, rfl, houtputs, hg, hown, hchain, hnodup, hnode, rfl⟩
    have hmid : mid.Clear :=
      hchain.preserves (fun _ _ _ _ hw hst => hw.preserves hb.clear hst) hst
    refine Runs.bind (runs_get.mpr ⟨rfl, rfl, hst.diagnostics⟩) ?_
    rw [hg]
    simp only [if_neg ((hany g).not.mpr (not_not.mpr hown)), houtputs, List.isEmpty_nil, Bool.not_true,
      Bool.false_eq_true, if_false]
    refine Runs.bind ((runs_graphInputs hb hst (by simp)).mpr ⟨ins, rfl, hchain, hnodup⟩) ?_
    exact runs_added.mpr ⟨id, net, rfl, hnode, rfl, hmid.diagnostics⟩

theorem runs_forM_reportUnsupported {is : List Input} {u : Unit} :
    Runs (is.forM fun i => reportUnsupported i.extra) st u st' ↔
      (∀ i ∈ is, i.extra.unsupported = []) ∧ st = st' ∧ st.diagnostics = [] := by
  induction is with
  | nil =>
    rw [runs_forM_nil]
    simp
  | cons i is ih =>
    rw [runs_forM_cons fun i : Input => .reportUnsupported i.extra, List.forall_mem_cons]
    constructor
    · rintro ⟨_, hfirst, hrest⟩
      obtain ⟨hi, rfl, _⟩ := runs_reportUnsupported.mp hfirst
      obtain ⟨his, hst⟩ := ih.mp hrest
      exact ⟨⟨hi, his⟩, hst⟩
    · rintro ⟨⟨hi, his⟩, hst⟩
      exact ⟨st, runs_reportUnsupported.mpr ⟨hi, rfl, hst.2⟩, ih.mpr ⟨his, hst⟩⟩

theorem runs_construct (hb : s.Builder build) (hst : st.Clear) {n : Node} {o : Option NodeId} :
    Runs (s.construct build n) st o st' ↔
      Supported n ∧ ∃ id, o = some id ∧ s.Constructs build st n id st' := by
  have hkeeps : ∀ _ : Unit, Keeps (if (!n.graph.isEmpty) = true then
        if (!n.type.isEmpty) = true then refuse (.nodeAmbiguous n.name) n.extra.span
        else s.instantiate build n
      else if n.type.isEmpty = true then refuse (.nodeUntyped n.name) n.extra.span
      else if n.type = Network.referenceType then refuse (.nodeReserved n.name) n.extra.span
      else s.shader build n) := by
    intro _
    split
    · split
      · exact .refuse _ _
      · exact keeps_instantiate hb.keeps n
    · split
      · exact .refuse _ _
      · split
        · exact .refuse _ _
        · exact keeps_shader hb.keeps n
  constructor
  · intro h
    obtain ⟨_, _, hfirst, h⟩ := (runs_bind fun _ => .bind
      (.forM (fun i : Input => .reportUnsupported i.extra) _) hkeeps).mp h
    obtain ⟨hextra, rfl, _⟩ := runs_reportUnsupported.mp hfirst
    obtain ⟨_, _, hsecond, h⟩ := (runs_bind hkeeps).mp h
    obtain ⟨hinputs, rfl, _⟩ := runs_forM_reportUnsupported.mp hsecond
    refine ⟨⟨hextra, hinputs⟩, ?_⟩
    split at h
    · rename_i hgraph
      split at h
      · exact absurd h not_runs_refuse
      · rename_i htype
        obtain ⟨id, g, ins, mid, net, rfl, houtputs, hg, hown, hchain, hnodup, hnode, rfl⟩ :=
          (runs_instantiate hb hst).mp h
        exact ⟨id, rfl, .copy (by simpa using hgraph) (by simpa using htype) houtputs hg hown hchain
          hnodup hnode⟩
    · rename_i hgraph
      split at h
      · exact absurd h not_runs_refuse
      · rename_i htype
        split at h
        · exact absurd h not_runs_refuse
        · rename_i hreserved
          obtain ⟨id, ins, outs, mid, net, rfl, hchain, hnodup, hoffers, hnodup', hnode, rfl⟩ :=
            (runs_shader hb hst).mp h
          exact ⟨id, rfl, .shader (by simpa using hgraph) (by simpa using htype) hreserved hchain
            hnodup hoffers hnodup' hnode⟩
  · rintro ⟨⟨hextra, hinputs⟩, id, rfl, hconstructs⟩
    refine Runs.bind (a := ()) (runs_reportUnsupported.mpr ⟨hextra, rfl, hst.diagnostics⟩) ?_
    refine Runs.bind (a := ()) (runs_forM_reportUnsupported.mpr ⟨hinputs, rfl, hst.diagnostics⟩) ?_
    cases hconstructs with
    | shader hgraph htype hreserved hchain hnodup hoffers hnodup' hnode =>
      rw [if_neg (by simp [hgraph]), if_neg (by simpa using htype), if_neg hreserved]
      exact (runs_shader hb hst).mpr
        ⟨id, _, _, _, _, rfl, hchain, hnodup, hoffers, hnodup', hnode, rfl⟩
    | copy hgraph htype houtputs hg hown hchain hnodup hnode =>
      rw [if_pos (by simpa using hgraph), if_neg (by simp [htype])]
      exact (runs_instantiate hb hst).mpr
        ⟨id, _, _, _, _, rfl, houtputs, hg, hown, hchain, hnodup, hnode, rfl⟩

/-! ## Building -/

theorem keeps_failed (s : Scope) (name : Text) :
    Keeps (do
      match s.nodes.find? (·.name = name) with
      | some n => report (.cycle name s.place) n.extra.span
      | none => pure ()
      settle name none
      return none : Load (Option NodeId)) := by
  split
  · exact .bind (.report _ _) fun _ => .bind (.settle _ _) fun _ => .pure _
  · exact .bind (.settle _ _) fun _ => .pure _

theorem keeps_build (s : Scope) (idle : List Node) (name : Text) : Keeps (s.build idle name) := by
  induction hn : idle.length using Nat.strongRecOn generalizing idle name with
  | ind k ih =>
    subst hn
    rw [Scope.build]
    refine .bind .get fun st => ?_
    split
    · exact .pure _
    · split
      · rename_i n hfind
        have hkeeps := fun name' =>
          ih _ (length_without_lt hfind) (without idle name) name' rfl
        exact .bind (keeps_construct hkeeps n) fun _ => .bind (.settle _ _) fun _ => .pure _
      · exact keeps_failed s name

theorem Constructs.preserves {P : Loading → Prop} (hb : s.Preserves build P)
    (hnet : ∀ {st : Loading} (net : Network), P st → P { st with network := net }) {n : Node}
    {id : NodeId} (h : s.Constructs build st n id st') (hst : P st) : P st' := by
  cases h with
  | shader _ _ _ hchain _ _ _ _ =>
    exact hnet _ (hchain.preserves (fun _ _ _ _ hw hst => hw.preserves hb hst) hst)
  | copy _ _ _ _ _ hchain _ _ =>
    exact hnet _ (hchain.preserves (fun _ _ _ _ hw hst => hw.preserves hb hst) hst)

theorem Constructs.clear {n : Node} {id : NodeId} (hb : s.Builder build)
    (h : s.Constructs build st n id st') (hst : st.Clear) : st'.Clear :=
  h.preserves hb.clear (fun _ hst => ⟨hst.diagnostics, hst.settled⟩) hst

inductive Settles (s : Scope) (idle : List Node) (st : Loading) (name : Text) :
    NodeId → Loading → Prop
  | known {id : NodeId} : st.settled.lookup name = some (some id) → Settles s idle st name id st
  | new {n : Node} {id : NodeId} {mid : Loading} : st.settled.lookup name = none →
      idle.find? (·.name = name) = some n → Supported n →
      s.Constructs (s.build (without idle name)) st n id mid →
      Settles s idle st name id { mid with settled := (name, some id) :: mid.settled }

theorem mem_of_lookup {name : Text} {outcome : Option NodeId} {entries : List (Text × Option NodeId)}
    (h : entries.lookup name = some outcome) : (name, outcome) ∈ entries := by
  induction entries with
  | nil => simp at h
  | cons entry entries ih =>
    obtain ⟨other, found⟩ := entry
    rw [List.lookup_cons] at h
    split at h
    · rename_i hname
      rw [eq_of_beq hname, Option.some.inj h]
      exact List.mem_cons_self
    · exact List.mem_cons_of_mem _ (ih h)

theorem runs_build_of_builder {idle : List Node} {name : Text} {o : Option NodeId} (hst : st.Clear)
    (hname : s.Declares name)
    (hb : ∀ n, idle.find? (·.name = name) = some n → s.Builder (s.build (without idle name))) :
    Runs (s.build idle name) st o st' ↔ ∃ id, o = some id ∧ s.Settles idle st name id st' := by
  constructor
  · intro h
    rw [Scope.build, runs_bind] at h
    · obtain ⟨_, _, hget, h⟩ := h
      obtain ⟨rfl, rfl, _⟩ := runs_get.mp hget
      split at h
      · rename_i outcome hlookup
        obtain ⟨rfl, rfl, _⟩ := runs_pure.mp h
        cases outcome with
        | none => exact absurd rfl (hst.settled _ (mem_of_lookup hlookup))
        | some id => exact ⟨id, rfl, .known hlookup⟩
      · rename_i hlookup
        split at h
        · rename_i n hfind
          obtain ⟨outcome, mid, hconstruct, h⟩ := (runs_bind fun _ =>
            .bind (.settle _ _) fun _ => .pure _).mp h
          obtain ⟨hsupported, id, rfl, hconstructs⟩ := (runs_construct (hb n hfind) hst).mp hconstruct
          obtain ⟨_, _, hsettle, h⟩ := (runs_bind fun _ => .pure _).mp h
          obtain ⟨rfl, _⟩ := runs_settle.mp hsettle
          obtain ⟨rfl, rfl, _⟩ := runs_pure.mp h
          exact ⟨id, rfl, .new hlookup hfind hsupported hconstructs⟩
        · -- The name is declared and not idle, so it is being built: a cycle, which is reported.
          obtain ⟨n, hn, rfl⟩ := hname
          have hfound : (s.nodes.find? fun m => decide (m.name = n.name)).isSome = true := by
            rw [List.find?_isSome]
            exact ⟨n, hn, by simp⟩
          split at h
          · exact absurd h (not_runs_report_bind fun _ => .bind (.settle _ _) fun _ => .pure _)
          · rename_i hnone
            rw [hnone] at hfound
            cases hfound
    · intro st
      split
      · exact .pure _
      · split
        · exact .bind (keeps_construct (keeps_build s _) _) fun _ =>
            .bind (.settle _ _) fun _ => .pure _
        · exact keeps_failed s name
  · rintro ⟨id, rfl, hsettles⟩
    rw [Scope.build]
    refine Runs.bind (runs_get.mpr ⟨rfl, rfl, hst.diagnostics⟩) ?_
    cases hsettles with
    | known hlookup =>
      rw [hlookup]
      exact runs_pure.mpr ⟨rfl, rfl, hst.diagnostics⟩
    | @new n _ mid hlookup hfind hsupported hconstructs =>
      have hmid := hconstructs.clear (hb n hfind) hst
      rw [hlookup]
      split
      · rename_i outcome houtcome
        cases houtcome
      · split
        · rename_i n' hfind'
          obtain rfl := Option.some.inj (hfind.symm.trans hfind')
          refine Runs.bind ((runs_construct (hb n hfind) hst).mpr
            ⟨hsupported, id, rfl, hconstructs⟩) ?_
          refine Runs.bind (a := ()) (runs_settle.mpr ⟨rfl, hmid.diagnostics⟩) ?_
          exact runs_pure.mpr ⟨rfl, rfl, hmid.diagnostics⟩
        · rename_i hnone
          rw [hfind] at hnone
          cases hnone

theorem Settles.clear {idle : List Node} {name : Text} {id : NodeId} (hst : st.Clear)
    (hb : ∀ n, idle.find? (·.name = name) = some n → s.Builder (s.build (without idle name)))
    (h : s.Settles idle st name id st') : st'.Clear := by
  cases h with
  | known _ => exact hst
  | @new n _ mid hlookup hfind hsupported hconstructs =>
    have hmid := hconstructs.clear (hb n hfind) hst
    refine ⟨hmid.diagnostics, fun entry hentry => ?_⟩
    rcases List.mem_cons.mp hentry with rfl | hentry
    · simp
    · exact hmid.settled entry hentry

theorem builder_build (s : Scope) (idle : List Node) : s.Builder (s.build idle) := by
  induction hn : idle.length using Nat.strongRecOn generalizing idle with
  | ind k ih =>
    subst hn
    refine ⟨keeps_build s idle, fun {name st st' o} hname hst hrun => ?_⟩
    have hb : ∀ n, idle.find? (·.name = name) = some n → s.Builder (s.build (without idle name)) :=
      fun n hfind => ih _ (length_without_lt hfind) _ rfl
    obtain ⟨id, rfl, hsettles⟩ := (runs_build_of_builder hst hname hb).mp hrun
    exact ⟨⟨id, rfl⟩, hsettles.clear hst hb⟩

/-- Building a declared node without a report. The nodes that it needs are built in the same way. -/
theorem runs_build {idle : List Node} {name : Text} {o : Option NodeId} (hst : st.Clear)
    (hname : s.Declares name) :
    Runs (s.build idle name) st o st' ↔ ∃ id, o = some id ∧ s.Settles idle st name id st' :=
  runs_build_of_builder hst hname fun _ _ => builder_build s _

theorem keeps_distinct (place : Place) (done nodes : List Node) : Keeps (distinct place done nodes) := by
  induction nodes generalizing done with
  | nil => exact .pure _
  | cons n nodes ih =>
    unfold distinct
    split
    · exact .bind (.report _ _) fun _ => ih _
    · exact ih _

theorem runs_distinct {place : Place} {done nodes r : List Node} (hdone : (done.map (·.name)).Nodup) :
    Runs (distinct place done nodes) st r st' ↔
      r = done ++ nodes ∧ ((done ++ nodes).map (·.name)).Nodup ∧ st = st' ∧ st.diagnostics = [] := by
  induction nodes generalizing done with
  | nil =>
    rw [distinct, runs_pure, List.append_nil]
    exact ⟨fun ⟨hr, hst⟩ => ⟨hr.symm, hdone, hst⟩, fun ⟨hr, _, hst⟩ => ⟨hr.symm, hst⟩⟩
  | cons n nodes ih =>
    unfold distinct
    constructor
    · intro h
      split at h
      · exact absurd h (not_runs_report_bind fun _ => keeps_distinct _ _ _)
      · rename_i hnew
        rw [any_name_iff Node.name] at hnew
        obtain ⟨rfl, hnodup, hst⟩ := (ih (Network.nodup_names_concat hdone hnew)).mp h
        exact ⟨by simp, names_append_cons.mpr ⟨hnew, hnodup⟩, hst⟩
    · rintro ⟨rfl, hnodup, hst⟩
      obtain ⟨hnew, hnodup⟩ := names_append_cons.mp hnodup
      rw [if_neg ((any_name_iff Node.name).not.mpr hnew)]
      exact (ih (Network.nodup_names_concat hdone hnew)).mpr ⟨by simp, hnodup, hst⟩

def Visits (s : Scope) : Loading → List Node → List NodeId → Loading → Prop :=
  Chain fun st n id st' => s.Settles s.nodes st n.name id st'

theorem keeps_visit (s : Scope) (n : Node) :
    Keeps (do let _ ← s.build s.nodes n.name : Load Unit) :=
  .bind (keeps_build s _ _) fun _ => .pure _

theorem runs_visits (hst : st.Clear) {nodes : List Node} (hnodes : nodes ⊆ s.nodes) {u : Unit} :
    Runs (nodes.forM fun n => do let _ ← s.build s.nodes n.name) st u st' ↔
      ∃ ids, s.Visits st nodes ids st' := by
  induction nodes generalizing st with
  | nil =>
    rw [runs_forM_nil]
    constructor
    · rintro ⟨rfl, _⟩
      exact ⟨[], .nil st⟩
    · rintro ⟨ids, hvisits⟩
      cases hvisits
      exact ⟨rfl, hst.diagnostics⟩
  | cons n nodes ih =>
    obtain ⟨hn, hrest⟩ := List.cons_subset.mp hnodes
    have hname : s.Declares n.name := ⟨n, hn, rfl⟩
    rw [runs_forM_cons (keeps_visit s)]
    constructor
    · rintro ⟨mid, hfirst, h⟩
      obtain ⟨o, _, hbuild, hpure⟩ := (runs_bind fun _ => .pure _).mp hfirst
      obtain ⟨_, rfl, _⟩ := runs_pure.mp hpure
      have hmid := ((builder_build s s.nodes).builds hname hst hbuild).2
      obtain ⟨id, rfl, hsettles⟩ := (runs_build hst hname).mp hbuild
      obtain ⟨ids, hvisits⟩ := (ih hmid hrest).mp h
      exact ⟨id :: ids, .cons hsettles hvisits⟩
    · rintro ⟨_, hvisits⟩
      cases hvisits with
      | @cons _ mid _ _ id _ ids hsettles hvisits =>
        have hmid := hsettles.clear hst fun _ _ => builder_build s _
        refine ⟨mid, ?_, (ih hmid hrest).mpr ⟨ids, hvisits⟩⟩
        refine Runs.bind ((runs_build hst hname).mpr ⟨id, rfl, hsettles⟩) ?_
        exact runs_pure.mpr ⟨rfl, rfl, hmid.diagnostics⟩

theorem keeps_visits (s : Scope) (_ : Unit) : Keeps (do
    s.nodes.forM fun n => do let _ ← s.build s.nodes n.name
    return s : Load Scope) :=
  .bind (.forM (keeps_visit s) _) fun _ => .pure _

theorem keeps_reset (s : Scope) : Keeps (do
    modify fun st : Loading => { st with settled := [] }
    s.nodes.forM fun n => do let _ ← s.build s.nodes n.name
    return s : Load Scope) :=
  .bind (.modify fun _ h => h) (keeps_visits s)

theorem keeps_enter (graph : Option NodeGraph) (parameters : List (Text × Constant))
    (nodes : List Node) : Keeps (enter graph parameters nodes) :=
  .bind (keeps_distinct _ _ _) fun nodes => keeps_reset ⟨graph, parameters, nodes⟩

theorem runs_enter {graph : Option NodeGraph} {parameters : List (Text × Constant)}
    {nodes : List Node} {r : Scope} (hst : st.diagnostics = []) :
    Runs (enter graph parameters nodes) st r st' ↔
      r = ⟨graph, parameters, nodes⟩ ∧ (nodes.map (·.name)).Nodup ∧
        ∃ ids, r.Visits { st with settled := [] } nodes ids st' := by
  have hclear : Loading.Clear { st with settled := [] } := ⟨hst, by simp⟩
  constructor
  · intro h
    obtain ⟨_, _, hdistinct, h⟩ :=
      (runs_bind fun nodes => keeps_reset ⟨graph, parameters, nodes⟩).mp h
    obtain ⟨rfl, hnodup, rfl, _⟩ := (runs_distinct (by simp)).mp hdistinct
    obtain ⟨_, _, hreset, h⟩ := (runs_bind (keeps_visits ⟨graph, parameters, _⟩)).mp h
    obtain ⟨rfl, _⟩ := runs_modify.mp hreset
    obtain ⟨_, _, hvisits, h⟩ := (runs_bind fun _ => .pure _).mp h
    obtain ⟨rfl, rfl, _⟩ := runs_pure.mp h
    exact ⟨rfl, hnodup, (runs_visits hclear (List.Subset.refl _)).mp hvisits⟩
  · rintro ⟨rfl, hnodup, hvisits⟩
    refine Runs.bind ((runs_distinct (by simp)).mpr ⟨rfl, hnodup, rfl, hst⟩) ?_
    refine Runs.bind (a := ()) (runs_modify.mpr ⟨rfl, hst⟩) ?_
    have hrun := (runs_visits (u := ()) hclear (List.Subset.refl _)).mpr hvisits
    refine Runs.bind hrun ?_
    exact runs_pure.mpr ⟨rfl, rfl, hrun.2⟩

theorem keeps_finalValue (s : Scope) (e? : Option Expr) (type? : Option DataType) :
    Keeps (s.finalValue e? type?) := keeps_value (keeps_build s _) e? type? []

theorem runs_finalValue (hst : st.Clear) {e? : Option Expr} {type? : Option DataType}
    {o : Option Value} :
    Runs (s.finalValue e? type?) st o st' ↔
      ∃ v, o = some v ∧ s.Reads (s.build s.nodes) st e? type? [] v st' :=
  runs_value (builder_build s s.nodes) hst

end Scope
end ShaderGraph.Blueprint
