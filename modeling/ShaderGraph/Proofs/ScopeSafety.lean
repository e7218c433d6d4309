import ShaderGraph.Proofs.Denotes

/-!
# Building scopes without misuse

A step of loading goes on after a report, so each step has to make sure on its own that the network is
not misused. `Ends` follows the results of a step, reports or not, through the network and the settled
nodes; what was reported plays no part. Building the nodes of a scope, in any order and also when
nodes fail or depend on themselves, is never misused: every value that reaches a node exists by then.
-/
namespace ShaderGraph

structure Network.Gains (net net' : Network) : Prop where
  nodes : net.nodes <+: net'.nodes
  graphs : net'.graphs = net.graphs

namespace Network.Gains

variable {net net' net'' : Network}

theorem refl (net : Network) : net.Gains net := ⟨List.prefix_rfl, rfl⟩

theorem trans (h : net.Gains net') (h' : net'.Gains net'') : net.Gains net'' :=
  ⟨h.nodes.trans h'.nodes, h'.graphs.trans h.graphs⟩

theorem graph? (h : net.Gains net') (id : GraphId) : net'.graph? id = net.graph? id := by
  cases id with
  | zero => rfl
  | succ k => rw [Network.graph?, Network.graph?, h.graphs]

theorem grows (h : net.Gains net') : net.Grows net' :=
  ⟨h.nodes, fun id g hg => ⟨g, (h.graph? id).trans hg, rfl, rfl, List.prefix_rfl, List.prefix_rfl⟩⟩

end Network.Gains

namespace Blueprint

open Config (Expr Span Step)

namespace Load

variable {α β : Type} {allowed : Misuse → Prop} {st : Loading}

/-- The step has a result, and the property holds of it, of the network and of the settled nodes, or
the step ends in a misuse that is allowed. -/
def Ends (allowed : Misuse → Prop) (x : Load α) (st : Loading)
    (Q : α → Network → List (Text × Option NodeId) → Prop) : Prop :=
  match x st with
  | (.ok a, st') => Q a st'.network st'.settled
  | (.error m, _) => allowed m

namespace Ends

variable {P Q : α → Network → List (Text × Option NodeId) → Prop}

theorem pure {a : α} (h : Q a st.network st.settled) : Ends allowed (pure a) st Q := h

theorem bind {x : Load α} {f : α → Load β} {R : β → Network → List (Text × Option NodeId) → Prop}
    (hx : Ends allowed x st Q)
    (hf : ∀ a st', Q a st'.network st'.settled → Ends allowed (f a) st' R) :
    Ends allowed (x >>= f) st R := by
  unfold Ends at hx ⊢
  rw [bind_apply]
  rcases hxs : x st with ⟨_ | a, st'⟩ <;> rw [hxs] at hx
  · exact hx
  · exact hf a st' hx

theorem imp {x : Load α} (hx : Ends allowed x st P)
    (h : ∀ a net settled, P a net settled → Q a net settled) : Ends allowed x st Q := by
  unfold Ends at hx ⊢
  split at hx
  · exact h _ _ _ hx
  · exact hx

theorem get_bind {f : Loading → Load α} (h : Ends allowed (f st) st Q) :
    Ends allowed (get >>= f) st Q := h

theorem report {fault : Fault} {subject : Span} {Q : Unit → _ → _ → Prop}
    (h : Q () st.network st.settled) : Ends allowed (report fault subject) st Q := h

theorem reportAll {ds : List Diagnostic} {Q : Unit → _ → _ → Prop} (h : Q () st.network st.settled) :
    Ends allowed (reportAll ds) st Q := h

theorem reportUnsupported {extra : Extra} {Q : Unit → _ → _ → Prop}
    (h : Q () st.network st.settled) : Ends allowed (reportUnsupported extra) st Q := h

theorem refuse {fault : Fault} {subject : Span} {Q : Option α → _ → _ → Prop}
    (h : Q none st.network st.settled) : Ends allowed (refuse fault subject) st Q := h

theorem reported {r : Except (List Diagnostic) α} {Q : Option α → _ → _ → Prop}
    (h : ∀ o, (∀ a, o = some a → r = .ok a) → Q o st.network st.settled) :
    Ends allowed (reported r) st Q := by
  cases r with
  | ok a => exact h (some a) fun b hb => by rw [Option.some.inj hb]
  | error ds => exact h none fun b hb => by cases hb

theorem inspect {f : Network → Except Misuse α} {a : α} (hf : f st.network = .ok a)
    (h : Q a st.network st.settled) : Ends allowed (perform (.inspect f)) st Q := by
  change match (f st.network, st) with
    | (.ok a, st') => Q a st'.network st'.settled
    | (.error m, _) => allowed m
  rw [hf]
  exact h

theorem extend {f : Network → Except Misuse (α × Network)} {a : α} {net : Network}
    (hf : f st.network = .ok (a, net)) (h : Q a net st.settled) :
    Ends allowed (perform (.extend f)) st Q := by
  have happly : perform (.extend f) st = (.ok a, { st with network := net }) := by
    change (((Build.extend f) st.network).1,
      { st with network := ((Build.extend f) st.network).2 }) = _
    rw [Build.extend, hf]
  rw [Ends, happly]
  exact h

theorem extend_error {f : Network → Except Misuse (α × Network)} {m : Misuse}
    (hf : f st.network = .error m) (h : allowed m) : Ends allowed (perform (.extend f)) st Q := by
  have happly : perform (.extend f) st = (.error m, st) := by
    change (((Build.extend f) st.network).1,
      { st with network := ((Build.extend f) st.network).2 }) = _
    rw [Build.extend, hf]
  rw [Ends, happly]
  exact h

theorem settle {name : Text} {outcome : Option NodeId} {Q : Unit → _ → _ → Prop}
    (h : Q () st.network ((name, outcome) :: st.settled)) :
    Ends allowed (settle name outcome) st Q := h

theorem forM_append {f : α → Load Unit} {xs ys : List α}
    {I : Network → List (Text × Option NodeId) → Prop} {Q : Unit → _ → _ → Prop}
    (hf : ∀ a ∈ xs, ∀ st, I st.network st.settled → Ends allowed (f a) st fun _ => I)
    (h : I st.network st.settled)
    (hys : ∀ st, I st.network st.settled → Ends allowed (ys.forM f) st Q) :
    Ends allowed ((xs ++ ys).forM f) st Q := by
  induction xs generalizing st with
  | nil => exact hys st h
  | cons x xs ih =>
    refine .bind (hf x List.mem_cons_self st h) fun _ st' h' => ?_
    exact ih (fun a ha => hf a (List.mem_cons_of_mem _ ha)) h'

theorem forM {f : α → Load Unit} {xs : List α} {I : Network → List (Text × Option NodeId) → Prop}
    (hf : ∀ a ∈ xs, ∀ st, I st.network st.settled → Ends allowed (f a) st fun _ => I)
    (h : I st.network st.settled) : Ends allowed (xs.forM f) st fun _ => I := by
  rw [← List.append_nil xs]
  exact forM_append hf h fun _ h => .pure h

theorem forM_stop {f : α → Load Unit} {before after : List α} {x : α}
    {I : Network → List (Text × Option NodeId) → Prop}
    (hf : ∀ a ∈ before, ∀ st, I st.network st.settled → Ends allowed (f a) st fun _ => I)
    (h : I st.network st.settled)
    (hx : ∀ st, I st.network st.settled → Ends allowed (f x) st fun _ _ _ => False) :
    Ends allowed ((before ++ x :: after).forM f) st fun _ _ _ => False :=
  forM_append hf h fun st h => .bind (hx st h) fun _ _ hnone => hnone.elim

end Ends

end Load

open Load

namespace Scope

structure Fits (s : Scope) (net : Network) (settled : List (Text × Option NodeId)) : Prop where
  sound : net.Sound
  handles : ∀ name id, (name, some id) ∈ settled → (net.node? id).isSome
  graph : ∀ own ∈ s.graph, ∃ g, net.graph? own.id = some g ∧ g.inputs = own.inputs

structure Onward (s : Scope) (start net : Network) (settled : List (Text × Option NodeId)) :
    Prop where
  fits : s.Fits net settled
  gains : start.Gains net

variable {s : Scope} {allowed : Misuse → Prop} {build : Text → Load (Option NodeId)} {st : Loading}

theorem Fits.onward {net : Network} {settled : List (Text × Option NodeId)}
    (h : s.Fits net settled) : s.Onward net net settled := ⟨h, .refl net⟩

theorem Onward.from {start mid net : Network} {settled : List (Text × Option NodeId)}
    (h : s.Onward mid net settled) (hmid : start.Gains mid) : s.Onward start net settled :=
  ⟨h.fits, hmid.trans h.gains⟩

theorem Fits.gain {net net' : Network} {settled : List (Text × Option NodeId)}
    (h : s.Fits net settled) (hsound : net'.Sound) (hgains : net.Gains net') :
    s.Fits net' settled := by
  refine ⟨hsound, fun name id hid => ?_, fun own hown => ?_⟩
  · obtain ⟨n, hn⟩ := Option.isSome_iff_exists.mp (h.handles name id hid)
    rw [hgains.grows.node? hn]
    rfl
  · obtain ⟨g, hg, hinputs⟩ := h.graph own hown
    exact ⟨g, (hgains.graph? _).trans hg, hinputs⟩

theorem ends_from {α : Type} {x : Load α} {start mid : Network} {P : α → Network → Prop}
    (h : Ends allowed x st fun a net settled => s.Onward mid net settled ∧ P a net)
    (hmid : start.Gains mid) :
    Ends allowed x st fun a net settled => s.Onward start net settled ∧ P a net :=
  h.imp fun _ _ _ ha => ⟨ha.1.from hmid, ha.2⟩

def Sustains (s : Scope) (allowed : Misuse → Prop) (build : Text → Load (Option NodeId)) : Prop :=
  ∀ name st, s.Fits st.network st.settled →
    Ends allowed (build name) st fun o net settled =>
      s.Onward st.network net settled ∧ ∀ id, o = some id → (net.node? id).isSome

/-! ## Values -/

theorem exists_shows {net : Network} (hs : net.Sound) {id : NodeId} (h : (net.node? id).isSome) :
    ∃ names, Shows net id names := by
  obtain ⟨n, hn⟩ := Option.isSome_iff_exists.mp h
  by_cases href : n.isReference = true
  · obtain ⟨_, g, hg, _⟩ := hs.reference n (Network.mem_nodes_of_node? hn) href
    exact ⟨_, n, hn, by rw [if_pos href]; exact ⟨g, hg, rfl⟩⟩
  · exact ⟨_, n, hn, by rw [if_neg href]⟩

theorem Shows.exists_output {net : Network} {id : NodeId} {names : List Text}
    (h : Shows net id names) {output : Text} (hmem : output ∈ names) :
    ∃ type, net.output id output = .ok ⟨type, .node id output⟩ := by
  have hhas : net.HasOutput id output := by
    obtain ⟨n, hn, hnames⟩ := h
    refine ⟨n, hn, ?_⟩
    split at hnames
    · rename_i href
      obtain ⟨g, hg, rfl⟩ := hnames
      rw [if_pos href]
      exact ⟨g, hg, hmem⟩
    · rename_i href
      rwa [if_neg href, ← hnames]
  obtain ⟨type, htype⟩ := Network.outputType_ok_iff.mpr hhas
  refine ⟨type, ?_⟩
  rw [Network.output, htype]
  rfl

/-- What is known of the value of an expression: it exists, and it is absent only if the expression is
left out. -/
def Sure (net : Network) (e? : Option Expr) (o : Option Value) : Prop :=
  ∀ v, o = some v → net.Resolves v ∧ (v.isAbsent = true → e? = none ∧ v = .absent)

theorem sure_none (net : Network) (e? : Option Expr) : Sure net e? none := fun _ h => by cases h

theorem sure_some {net : Network} {e? : Option Expr} {v : Value} (hv : net.Resolves v)
    (habsent : v.isAbsent = false) : Sure net e? (some v) := by
  intro w hw
  obtain rfl := Option.some.inj hw
  exact ⟨hv, fun h => by rw [habsent] at h; cases h⟩

theorem ends_output {e? : Option Expr} {id : NodeId} {output : Text} {names : List Text}
    (hst : s.Fits st.network st.settled) (hshows : Shows st.network id names)
    (hmem : output ∈ names) :
    Ends allowed (do return some (← perform (.output id output))) st fun o net settled =>
      s.Onward st.network net settled ∧ Sure net e? o := by
  obtain ⟨type, hout⟩ := Shows.exists_output hshows hmem
  refine .bind (Q := fun v net settled => (s.Onward st.network net settled ∧ net.Resolves v) ∧
    v.isAbsent = false) (.inspect hout ⟨⟨hst.onward, Build.output_resolves hout⟩, rfl⟩) ?_
  rintro v st' ⟨⟨honward, hv⟩, habsent⟩
  exact .pure ⟨honward, sure_some hv habsent⟩

theorem ends_nodeOutput {name : Text} {id : NodeId} {output? : Option Text} {subject : Span}
    {e? : Option Expr} (hst : s.Fits st.network st.settled)
    (hid : (st.network.node? id).isSome) :
    Ends allowed (nodeOutput name id output? subject) st fun o net settled =>
      s.Onward st.network net settled ∧ Sure net e? o := by
  obtain ⟨names, hshows⟩ := exists_shows hst.sound hid
  have hfailed : s.Onward st.network st.network st.settled ∧
      Sure st.network e? none := ⟨hst.onward, sure_none _ _⟩
  refine .bind (Q := fun names' net settled => names' = names ∧ net = st.network ∧
    settled = st.settled) (.inspect (outputNames_eq_ok.mpr hshows) ⟨rfl, rfl, rfl⟩) ?_
  rintro _ st' ⟨rfl, hnet, hsettled⟩
  rw [← hnet] at hshows hfailed ⊢
  rw [← hnet, ← hsettled] at hst
  rw [← hsettled] at hfailed
  split
  · exact ends_output hst hshows List.mem_cons_self
  · exact .refuse hfailed
  · split
    · rename_i hcontains
      exact ends_output hst hshows (by simpa using hcontains)
    · exact .refuse hfailed

theorem ends_resolve (hb : s.Sustains allowed build) {root : Text} {steps : List Step}
    {subject : Span} {e? : Option Expr} (hst : s.Fits st.network st.settled) :
    Ends allowed (s.resolve build root steps subject) st fun o net settled =>
      s.Onward st.network net settled ∧ Sure net e? o := by
  have hfailed : s.Onward st.network st.network st.settled ∧
      Sure st.network e? none := ⟨hst.onward, sure_none _ _⟩
  unfold resolve
  split
  · exact .refuse hfailed
  · split
    · exact .refuse hfailed
    · split
      · exact .refuse hfailed
      · exact .pure ⟨hst.onward, sure_some rfl rfl⟩
  · split
    · exact .refuse hfailed
    · rename_i own hown
      split
      · exact .refuse hfailed
      · rename_i name _ input hinput
        obtain ⟨g, hg, hinputs⟩ := hst.graph own hown
        refine .pure ⟨hst.onward, sure_some ⟨g, hg, ?_⟩ rfl⟩
        rw [hinputs, ← own.isSome_input?, hinput]
        rfl
  · split
    · exact .refuse hfailed
    · refine .bind (hb _ st hst) ?_
      rintro o st' ⟨honward, hid⟩
      split
      · exact .pure ⟨honward, sure_none _ _⟩
      · exact ends_from (ends_nodeOutput honward.fits (hid _ rfl)) honward.gains

theorem ends_value (hb : s.Sustains allowed build) {e? : Option Expr} {type? : Option DataType}
    {space : Text} (hst : s.Fits st.network st.settled) :
    Ends allowed (s.value build e? type? space) st fun o net settled =>
      s.Onward st.network net settled ∧ Sure net e? o := by
  unfold value
  split
  · refine .pure ⟨hst.onward, fun v hv => ?_⟩
    obtain rfl := Option.some.inj hv
    exact ⟨trivial, fun _ => ⟨rfl, rfl⟩⟩
  · split
    · exact ends_resolve hb hst
    · split
      · exact .refuse ⟨hst.onward, sure_none _ _⟩
      · refine .bind (Q := fun _ net settled => s.Onward st.network net settled)
          (.reported fun _ _ => hst.onward) fun o st' honward => ?_
        cases o with
        | none => exact .pure ⟨honward, sure_none _ _⟩
        | some c => exact .pure ⟨honward, sure_some rfl rfl⟩

/-! ## Nodes -/

def Wirable (net : Network) (slots : List ShaderGraph.Input) : Prop :=
  ∀ i ∈ slots, i.type.isValid = true ∧ net.Resolves i.value

theorem wirable_nil (net : Network) : Wirable net [] := by simp [Wirable]

theorem Wirable.gains {net net' : Network} {slots : List ShaderGraph.Input} (h : Wirable net slots)
    (hgains : net.Gains net') : Wirable net' slots :=
  fun i hi => ⟨(h i hi).1, hgains.grows.resolves (h i hi).2⟩

theorem Wirable.concat {net : Network} {slots : List ShaderGraph.Input} (h : Wirable net slots)
    (name : Text) {type : TypeTag} (htype : type.isValid = true) {e? : Option Expr}
    {o : Option Value} (ho : Sure net e? o) :
    Wirable net (slots ++ [⟨name, type, o.getD .absent⟩]) := by
  refine Network.forall_mem_concat h ⟨htype, ?_⟩
  cases o with
  | none => trivial
  | some v => exact (ho v rfl).1

theorem ends_inputs (hb : s.Sustains allowed build) {node : Text} {done : List ShaderGraph.Input}
    {ok : Bool} {is : List Input} (hst : s.Fits st.network st.settled)
    (hdone : Wirable st.network done) :
    Ends allowed (s.inputs build node done ok is) st fun r net settled =>
      s.Onward st.network net settled ∧ Wirable net r.1 := by
  induction is generalizing st done ok with
  | nil => exact .pure ⟨hst.onward, hdone⟩
  | cons i is ih =>
    have hskip : ∀ fault, Ends allowed (do
        report fault i.extra.span
        s.inputs build node done false is) st fun r net settled =>
          s.Onward st.network net settled ∧ Wirable net r.1 := by
      intro fault
      refine .bind (Q := fun _ net settled => s.Onward st.network net settled ∧ Wirable net done)
        (.report ⟨hst.onward, hdone⟩) ?_
      rintro _ st' ⟨honward, hdone'⟩
      exact ends_from (ih honward.fits hdone') honward.gains
    unfold inputs
    split
    · exact hskip _
    · split
      · exact hskip _
      · rename_i type _
        refine .bind (ends_value hb hst) ?_
        rintro o st' ⟨honward, ho⟩
        have hdone' := (hdone.gains honward.gains).concat i.name
          (TypeTag.isValid_ofDataType type) ho
        exact ends_from (ih honward.fits hdone') honward.gains

theorem ends_outputs {node : Text} {subject : Span} {done : List ShaderGraph.Output} {ok : Bool}
    {os : List Output} {Q : Network → List (Text × Option NodeId) → Prop}
    (hst : Q st.network st.settled) (hdone : ∀ o ∈ done, o.type.isValid = true) :
    Ends allowed (outputs node subject done ok os) st fun r net settled =>
      Q net settled ∧ ∀ o ∈ r.1, o.type.isValid = true := by
  induction os generalizing st done ok with
  | nil => exact .pure ⟨hst, hdone⟩
  | cons o os ih =>
    unfold outputs
    split
    · exact .bind (Q := fun _ => Q) (.report hst) fun _ st' hst' => ih hst' hdone
    · split
      · exact .bind (Q := fun _ => Q) (.report hst) fun _ st' hst' => ih hst' hdone
      · exact ih hst (Network.forall_mem_concat hdone (TypeTag.isValid_ofDataType _))

theorem ends_graphInputs (hb : s.Sustains allowed build) {g : NodeGraph} {node : Text}
    {done : List ShaderGraph.Input} {ok : Bool} {is : List Input}
    (hst : s.Fits st.network st.settled) (htypes : ∀ i ∈ g.inputs, i.type.isValid = true)
    (hdone : Wirable st.network done) (hnames : ∀ i ∈ done, i.name ∈ g.inputs.map (·.name)) :
    Ends allowed (s.graphInputs build g node done ok is) st fun r net settled =>
      s.Onward st.network net settled ∧ Wirable net r.1 ∧
        ∀ i ∈ r.1, i.name ∈ g.inputs.map (·.name) := by
  induction is generalizing st done ok with
  | nil => exact .pure ⟨hst.onward, hdone, hnames⟩
  | cons i is ih =>
    have hskip : ∀ fault, Ends allowed (do
        report fault i.extra.span
        s.graphInputs build g node done false is) st fun r net settled =>
          s.Onward st.network net settled ∧ Wirable net r.1 ∧
            ∀ i ∈ r.1, i.name ∈ g.inputs.map (·.name) := by
      intro fault
      refine .bind (Q := fun _ net settled => s.Onward st.network net settled ∧ Wirable net done)
        (.report ⟨hst.onward, hdone⟩) ?_
      rintro _ st' ⟨honward, hdone'⟩
      exact ends_from (ih honward.fits hdone' hnames) honward.gains
    unfold graphInputs
    split
    · exact hskip _
    · rename_i declared hdeclared
      split
      · exact hskip _
      · split
        · exact hskip _
        · refine .bind (ends_value hb hst) ?_
          rintro o st' ⟨honward, ho⟩
          have hdone' := (hdone.gains honward.gains).concat i.name
            (htypes declared (List.mem_of_find?_eq_some hdeclared)) ho
          have hname : i.name ∈ g.inputs.map (·.name) := by
            rw [← g.isSome_input?, hdeclared]
            rfl
          exact ends_from (ih honward.fits hdone' (Network.forall_mem_concat hnames hname))
            honward.gains

theorem exists_wired {net : Network} {ins : List ShaderGraph.Input} (h : Wirable net ins)
    (node : Text) : ∃ wired, ins.mapM (net.wire node) = .ok wired :=
  Outcome.exists_mapM.mpr fun i hi =>
    ⟨_, Network.wire_eq_ok.mpr ⟨(h i hi).1, (h i hi).2, rfl⟩⟩

theorem ends_added {f : Network → Except Misuse (NodeId × Network)} {n : ShaderGraph.Node}
    (hst : s.Fits st.network st.settled) (hn : st.network.Admits n)
    (hf : f st.network = .ok (n.id, { st.network with nodes := st.network.nodes ++ [n] })) :
    Ends allowed (do return some (← perform (.extend f))) st fun o net settled =>
      s.Onward st.network net settled ∧ ∀ id, o = some id → (net.node? id).isSome := by
  have hgains : st.network.Gains { st.network with nodes := st.network.nodes ++ [n] } :=
    ⟨List.prefix_append _ _, rfl⟩
  have hnode : ({ st.network with nodes := st.network.nodes ++ [n] } : Network).node? n.id =
      some n := by
    rw [hn.id]
    exact List.getElem?_concat_length
  refine .bind (Q := fun id net settled => s.Onward st.network net settled ∧ (net.node? id).isSome)
    (.extend hf ⟨⟨hst.gain (hst.sound.node hn) hgains, hgains⟩, by rw [hnode]; rfl⟩) ?_
  rintro id st' ⟨honward, hid⟩
  refine .pure ⟨honward, fun other hother => ?_⟩
  obtain rfl := Option.some.inj hother
  exact hid

theorem ends_shader (hb : s.Sustains allowed build) {n : Node} (htype : n.type ≠ [])
    (hst : s.Fits st.network st.settled) :
    Ends allowed (s.shader build n) st fun o net settled =>
      s.Onward st.network net settled ∧ ∀ id, o = some id → (net.node? id).isSome := by
  refine .bind (ends_inputs hb hst (wirable_nil st.network)) ?_
  rintro ⟨ins, ok⟩ st' hins
  refine .bind (ends_outputs (Q := fun net settled => s.Onward st.network net settled ∧
    Wirable net ins) hins (by simp)) ?_
  rintro ⟨outs, ok⟩ st'' ⟨⟨honward, hwirable⟩, houts⟩
  dsimp only
  split
  · obtain ⟨wired, hwired⟩ := exists_wired hwirable n.type
    exact ends_from (ends_added honward.fits (Network.admits_node htype hwired houts)
      (Network.addNode_eq_ok.mpr ⟨htype, wired, hwired, houts, rfl⟩)) honward.gains
  · exact .pure ⟨honward, fun _ h => by cases h⟩

theorem ends_instantiate (hb : s.Sustains allowed build) {n : Node}
    (hst : s.Fits st.network st.settled) :
    Ends allowed (s.instantiate build n) st fun o net settled =>
      s.Onward st.network net settled ∧ ∀ id, o = some id → (net.node? id).isSome := by
  have hfailed : s.Onward st.network st.network st.settled ∧
      ∀ id, (none : Option NodeId) = some id → (st.network.node? id).isSome :=
    ⟨hst.onward, fun _ h => by cases h⟩
  refine .get_bind ?_
  split
  · exact .refuse hfailed
  · rename_i g hfind
    obtain ⟨_, hg, _⟩ := findGraph?_spec hst.sound hfind
    split
    · exact .refuse hfailed
    · split
      · exact .refuse hfailed
      · have htypes := hst.sound.inputTypes g (Network.mem_graphs_of_graph? hg)
        refine .bind (ends_graphInputs hb hst htypes (wirable_nil st.network) (by simp)) ?_
        rintro ⟨ins, ok⟩ st' ⟨honward, hwirable, hnames⟩
        dsimp only
        split
        · have hg' := (honward.gains.graph? g.id).trans hg
          have htype : Network.referenceType ≠ [] := by decide
          have houts : ∀ o ∈ ([] : List ShaderGraph.Output), o.type.isValid = true := by simp
          obtain ⟨wired, hwired⟩ := exists_wired hwirable Network.referenceType
          have hadd : st'.network.addNode Network.referenceType ins [] g.id = .ok _ :=
            Network.addNode_eq_ok.mpr ⟨htype, wired, hwired, houts, rfl⟩
          exact ends_from (ends_added honward.fits (Network.admits_reference hg' hnames hwired)
            (Network.addReference_eq_ok.mpr ⟨g, hg', hnames, hadd⟩)) honward.gains
        · exact .pure ⟨honward, fun _ h => by cases h⟩

theorem ends_construct (hb : s.Sustains allowed build) {n : Node}
    (hst : s.Fits st.network st.settled) :
    Ends allowed (s.construct build n) st fun o net settled =>
      s.Onward st.network net settled ∧ ∀ id, o = some id → (net.node? id).isSome := by
  refine .bind (Q := fun _ => s.Onward st.network) (.reportUnsupported hst.onward) ?_
  intro _ st₁ hst₁
  refine .bind (Q := fun _ => s.Onward st.network)
    (.forM (fun _ _ _ hst' => .reportUnsupported hst') hst₁) ?_
  intro _ st₂ honward
  have hfailed : s.Onward st.network st₂.network st₂.settled ∧
      ∀ id, (none : Option NodeId) = some id → (st₂.network.node? id).isSome :=
    ⟨honward, fun _ h => by cases h⟩
  split
  · split
    · exact .refuse hfailed
    · exact ends_from (ends_instantiate hb honward.fits) honward.gains
  · split
    · exact .refuse hfailed
    · rename_i htype
      split
      · exact .refuse hfailed
      · exact ends_from (ends_shader hb (by simpa using htype) honward.fits) honward.gains

theorem Onward.settle {start net : Network} {settled : List (Text × Option NodeId)}
    (h : s.Onward start net settled) (name : Text) {o : Option NodeId}
    (ho : ∀ id, o = some id → (net.node? id).isSome) :
    s.Onward start net ((name, o) :: settled) := by
  refine ⟨⟨h.fits.sound, fun other id hmem => ?_, h.fits.graph⟩, h.gains⟩
  rcases List.mem_cons.mp hmem with he | hmem
  · exact ho id (Prod.mk.inj he).2.symm
  · exact h.fits.handles other id hmem

/-- No node of a scope misuses the network when it is built, whatever is idle. -/
theorem sustains_build (s : Scope) (allowed : Misuse → Prop) (idle : List Node) :
    s.Sustains allowed (s.build idle) := by
  induction hk : idle.length using Nat.strongRecOn generalizing idle with
  | ind k ih =>
    subst hk
    intro name st hst
    rw [build]
    refine .get_bind ?_
    split
    · rename_i o hlookup
      refine .pure ⟨hst.onward, fun id hid => ?_⟩
      obtain ⟨before, after, hsettled, _⟩ := List.lookup_eq_some_iff.mp hlookup
      refine hst.handles name id ?_
      rw [hsettled, hid]
      exact List.mem_append_right _ List.mem_cons_self
    · split
      · rename_i n hfind
        refine .bind (ends_construct (ih _ (length_without_lt hfind) _ rfl) hst) ?_
        rintro o st' ⟨honward, ho⟩
        refine .bind (Q := fun _ net settled => s.Onward st.network net settled ∧
          ∀ id, o = some id → (net.node? id).isSome) (.settle ⟨honward.settle name ho, ho⟩) ?_
        exact fun _ st'' h => .pure h
      · have hunbuilt : ∀ st', s.Onward st.network st'.network st'.settled →
            Ends allowed (do Load.settle name none; return none) st' fun o net settled =>
              s.Onward st.network net settled ∧ ∀ id, o = some id → (net.node? id).isSome := by
          intro st' honward
          have hnone : ∀ id, (none : Option NodeId) = some id → (st'.network.node? id).isSome :=
            fun _ h => by cases h
          refine .bind (Q := fun _ => s.Onward st.network) (.settle (honward.settle name hnone)) ?_
          exact fun _ st'' h => .pure ⟨h, fun _ h => by cases h⟩
        split
        · exact .bind (Q := fun _ => s.Onward st.network) (.report hst.onward)
            fun _ st' h => hunbuilt st' h
        · exact hunbuilt st hst.onward

theorem ends_finalValue {e? : Option Expr} {type? : Option DataType}
    (hst : s.Fits st.network st.settled) :
    Ends allowed (s.finalValue e? type?) st fun o net settled =>
      s.Onward st.network net settled ∧ Sure net e? o :=
  ends_value (sustains_build s allowed s.nodes) hst

theorem ends_distinct {place : Place} {done nodes : List Node}
    {I : Network → List (Text × Option NodeId) → Prop} (hst : I st.network st.settled) :
    Ends allowed (distinct place done nodes) st fun _ => I := by
  induction nodes generalizing st done with
  | nil => exact .pure hst
  | cons n nodes ih =>
    unfold distinct
    split
    · exact .bind (Q := fun _ => I) (.report hst) fun _ _ hst' => ih hst'
    · exact ih hst

theorem ends_enter {graph : Option NodeGraph} {parameters : List (Text × Constant)}
    {nodes : List Node} (hsound : st.network.Sound)
    (hgraph : ∀ own ∈ graph, ∃ g, st.network.graph? own.id = some g ∧ g.inputs = own.inputs) :
    Ends allowed (enter graph parameters nodes) st fun s net settled =>
      s.graph = graph ∧ s.Onward st.network net settled := by
  refine .bind (Q := fun _ net _ => net = st.network) (ends_distinct rfl) ?_
  intro distinct st₁ hnet
  have hfits : Scope.Fits ⟨graph, parameters, distinct⟩ st.network [] :=
    ⟨hsound, by simp, hgraph⟩
  have hstart : Scope.Onward ⟨graph, parameters, distinct⟩ st.network st₁.network [] := by
    rw [hnet]
    exact hfits.onward
  refine .bind (α := Unit) (Q := fun _ => Scope.Onward ⟨graph, parameters, distinct⟩ st.network)
    hstart ?_
  intro _ st₂ hst₂
  refine .bind (Q := fun _ => Scope.Onward ⟨graph, parameters, distinct⟩ st.network)
    (.forM (fun n _ st₃ hst₃ => ?_) hst₂) fun _ st₃ hst₃ => .pure ⟨rfl, hst₃⟩
  refine .bind (sustains_build _ allowed _ n.name st₃ hst₃.fits) ?_
  exact fun _ st₄ h => .pure (h.1.from hst₃.gains)

end Scope
end Blueprint
end ShaderGraph
