import ShaderGraph.Stage.Compile
import ShaderGraph.Proofs.Collect

/-!
# When a material is refused

`Refused` lists the reasons for which a material has no document, over the material and what it
reaches and without reference to how they are looked for. A compilation whose handles are valid ends
in one of three ways: the material is refused and nothing is added, or its document is added, or a
constant that the document needs is missing.
-/
namespace ShaderGraph.Stage

open Renderer

def rootValues (net : Network) (mat : Material) : List Value :=
  mat.surface :: mat.geometryModifier ::
    (mat.nodeGraphs.filterMap net.graph?).flatMap NodeGraph.outputValues

/-- The value is set, and is neither a token that a node puts out nor a fault with a message. -/
def Undriven (v : Value) : Prop :=
  v.source ≠ .absent ∧ (∀ m, v.source = .fault m → m = []) ∧
    ¬ (v.type = DataType.token ∧ ∃ id slot, v.source = .node id slot)

inductive Refused (settings : Settings) (net : Network) (mat : Material) : Prop
  | unnamed : mat.name = [] → Refused settings net mat
  | surface : Undriven mat.surface → Refused settings net mat
  | geometryModifier : Undriven mat.geometryModifier → Refused settings net mat
  | listedTwice : ¬ mat.nodeGraphs.Nodup → Refused settings net mat
  | namesake {id : GraphId} {g : NodeGraph} : id ∈ mat.nodeGraphs → net.graph? id = some g →
      g.name = mat.name → Refused settings net mat
  | unlisted {id : NodeId} {n : Node} : net.ReachesFrom (rootValues net mat) id →
      net.node? id = some n → n.isReference = true → n.graph ∉ mat.nodeGraphs →
      Refused settings net mat
  | fault {v : Value} {m : Text} : net.Occurs (rootValues net mat) v → v.source = .fault m →
      Refused settings net mat
  | conflict : settings.policy ≠ .firstWins →
      net.Conflicting [mat.surface, mat.geometryModifier] → Refused settings net mat

structure HandlesValid (net : Network) (mat : Material) : Prop where
  listed : ∀ id ∈ mat.nodeGraphs, (net.graph? id).isSome = true
  nodes : ∀ id, net.ReachesFrom (rootValues net mat) id → (net.node? id).isSome = true
  instances : ∀ id n, net.ReachesFrom (rootValues net mat) id → net.node? id = some n →
    n.isReference = true → (net.graph? n.graph).isSome = true
  inputs : ∀ v id x, net.Occurs (rootValues net mat) v → v.source = .graphInput id x →
    (net.graph? id).isSome = true

/-- A conflict cannot be reported because one of its defaults is missing. -/
def Unreportable (settings : Settings) (net : Network) (mat : Material) : Prop :=
  mat.name ≠ [] ∧ settings.policy ≠ .firstWins ∧ net.Lopsided [mat.surface, mat.geometryModifier]

inductive Incomplete (net : Network) (mat : Material) : Prop
  | constant {v : Value} : net.Occurs (rootValues net mat) v → v.source = .constant none →
      Incomplete net mat
  | parameter {p : Parameter} : net.FirstUse [mat.surface, mat.geometryModifier] p →
      p.default = none → Incomplete net mat
  | output {id : GraphId} {g : NodeGraph} {o : GraphOutput} : id ∈ mat.nodeGraphs →
      net.graph? id = some g → o ∈ g.outputs → o.value.source = .absent → Incomplete net mat
  | input {id : GraphId} {g : NodeGraph} {i : GraphInput} : id ∈ mat.nodeGraphs →
      net.graph? id = some g → i ∈ g.inputs → i.default = none → i.type.dataType? = none →
      Incomplete net mat

variable {settings : Settings} {net : Network} {mat : Material}

/-! ## What the checks find -/

theorem outputFaults_eq_nil {slot : Text} {v : Value} :
    outputFaults slot v = [] ↔ ¬ Undriven v := by
  obtain ⟨type, source⟩ := v
  simp only [outputFaults, Undriven, Value.isAbsent, Value.faultMessage, Value.fault?, Value.node?]
  cases source with
  | absent => simp
  | constant c => simp
  | node id slot => by_cases ht : type = DataType.token <;> simp [ht]
  | graphInput id x => simp
  | parameter name c => simp
  | fault m => by_cases hm : m = [] <;> simp [hm]

theorem listedGraphs_spec (material : Text) (earlier ids : List GraphId)
    (hv : ∀ id ∈ ids, (net.graph? id).isSome = true) :
    ∃ faults values, listedGraphs net material earlier ids = .ok (faults, values) ∧
      (faults = [] ↔ ids.Nodup ∧ (∀ id ∈ ids, id ∉ earlier) ∧
        ∀ id ∈ ids, ∀ g, net.graph? id = some g → g.name ≠ material) ∧
      ∀ v, v ∈ values ↔ ∃ id ∈ ids, id ∉ earlier ∧ ∃ g, net.graph? id = some g ∧
        v ∈ g.outputValues := by
  induction ids generalizing earlier with
  | nil => exact ⟨[], [], rfl, by simp, by simp⟩
  | cons id ids ih =>
    obtain ⟨⟨g, hg⟩, hrest⟩ :=
      (List.forall_mem_cons.mp hv).imp_left Option.isSome_iff_exists.mp
    obtain ⟨faults, values, hok, hfaults, hvalues⟩ := ih (id :: earlier) hrest
    have hgok : net.graph id = .ok g := Network.graph_eq_ok.mpr hg
    have hstep : listedGraphs net material earlier (id :: ids) =
        if id ∈ earlier then
          .ok (("node graph " ++ Text.quote g.name ++ " listed more than once") :: faults, values)
        else
          .ok ((if g.name = material then
              ["node graph " ++ Text.quote g.name ++ " has the same name as the material"]
            else []) ++ faults, g.outputValues ++ values) := by
      simp only [listedGraphs, hgok, hok, bind, Except.bind]
      split_ifs <;> rfl
    rw [hstep]
    by_cases hid : id ∈ earlier
    · rw [if_pos hid]
      refine ⟨_, _, rfl, ?_, fun v => ?_⟩
      · simp [hid]
      · rw [hvalues]
        grind
    · rw [if_neg hid]
      refine ⟨_, _, rfl, ?_, fun v => ?_⟩
      · rw [List.append_eq_nil_iff, hfaults]
        grind
      · rw [List.mem_append, hvalues]
        grind

theorem unlistedGraphs_spec (mat : Material) {values : List Value}
    (hv : ∀ id, net.ReachesFrom values id → (net.node? id).isSome = true)
    (hi : ∀ id n, net.ReachesFrom values id → net.node? id = some n → n.isReference = true →
      (net.graph? n.graph).isSome = true) :
    ∃ ms, unlistedGraphs net mat values = .ok ms ∧
      (ms = [] ↔ ∀ id n, net.ReachesFrom values id → net.node? id = some n →
        n.isReference = true → n.graph ∈ mat.nodeGraphs) := by
  obtain ⟨ids, ns, hns, hr⟩ := Network.exists_reached hv
  have hmem : ∀ g, g ∈ (ns.filter Node.isReference).map (·.graph) ↔
      ∃ id n, net.ReachesFrom values id ∧ net.node? id = some n ∧ n.isReference = true ∧
        n.graph = g := by
    intro g
    simp only [List.mem_map, List.mem_filter, hr.mem_iff, reaches_rootNodes]
    exact ⟨fun ⟨n, ⟨⟨id, hid, hn⟩, href⟩, hg⟩ => ⟨id, n, hid, hn, href, hg⟩,
      fun ⟨id, n, hid, hn, href, hg⟩ => ⟨n, ⟨⟨id, hid, hn⟩, href⟩, hg⟩⟩
  obtain ⟨ms, hms⟩ : ∃ ms, unlistedGraphs net mat values = .ok ms := by
    refine Outcome.exists_bind.mpr ⟨ns, hns, Outcome.exists_mapM.mpr fun g hg => ?_⟩
    obtain ⟨id, n, hid, hn, href, rfl⟩ := (hmem g).mp (mem_discover.mp hg).1
    obtain ⟨graph, hgraph⟩ := Option.isSome_iff_exists.mp (hi id n hid hn href)
    exact Outcome.exists_bind.mpr ⟨graph, Network.graph_eq_ok.mpr hgraph, Outcome.exists_pure _⟩
  refine ⟨ms, hms, ?_⟩
  obtain ⟨ns', hns', hmap⟩ := Outcome.bind_eq_ok.mp hms
  obtain rfl : ns = ns' := Except.ok.inj (hns.symm.trans hns')
  rw [← List.length_eq_zero_iff, ← (Outcome.mapM_eq_ok.mp hmap).length_eq, List.length_eq_zero_iff,
    discover_eq_nil]
  simp only [hmem]
  exact ⟨fun h id n hid hn href => h _ ⟨id, n, hid, hn, href, rfl⟩,
    fun h g ⟨id, n, hid, hn, href, hg⟩ => hg ▸ h id n hid hn href⟩

theorem mem_rootValues {v : Value} : v ∈ rootValues net mat ↔
    v = mat.surface ∨ v = mat.geometryModifier ∨
      ∃ id ∈ mat.nodeGraphs, ∃ g, net.graph? id = some g ∧ v ∈ g.outputValues := by
  simp only [rootValues, List.mem_cons, List.mem_flatMap, List.mem_filterMap]
  refine or_congr_right (or_congr_right ?_)
  exact ⟨fun ⟨g, ⟨id, hid, hg⟩, hv⟩ => ⟨id, hid, g, hg, hv⟩,
    fun ⟨id, hid, g, hg, hv⟩ => ⟨g, ⟨id, hid, hg⟩, hv⟩⟩

theorem material_subset_rootValues :
    ∀ v ∈ [mat.surface, mat.geometryModifier], v ∈ rootValues net mat := by
  intro v hv
  simp only [List.mem_cons, List.not_mem_nil, or_false] at hv
  exact mem_rootValues.mpr (hv.imp_right Or.inl)

theorem graph_subset_rootValues {k : GraphId} {g : NodeGraph} (hk : k ∈ mat.nodeGraphs)
    (hg : net.graph? k = some g) : ∀ v ∈ g.outputValues, v ∈ rootValues net mat :=
  fun _ hv => mem_rootValues.mpr (Or.inr (Or.inr ⟨k, hk, g, hg, hv⟩))

theorem reachesFrom_rootValues {id : NodeId} : net.ReachesFrom (rootValues net mat) id ↔
    net.ReachesFrom [mat.surface, mat.geometryModifier] id ∨
      ∃ k ∈ mat.nodeGraphs, ∃ g, net.graph? k = some g ∧ net.ReachesFrom g.outputValues id := by
  constructor
  · intro h
    obtain ⟨v, hv, hr⟩ := Network.reachesFrom_iff.mp h
    rcases mem_rootValues.mp hv with rfl | rfl | ⟨k, hk, g, hg, ho⟩
    · exact Or.inl (hr.mono (by simp))
    · exact Or.inl (hr.mono (by simp))
    · exact Or.inr ⟨k, hk, g, hg, Network.reachesFrom_iff.mpr ⟨v, ho, hr⟩⟩
  · rintro (h | ⟨k, hk, g, hg, h⟩)
    · exact h.mono material_subset_rootValues
    · exact h.mono (graph_subset_rootValues hk hg)

theorem occurs_rootValues {v : Value} : net.Occurs (rootValues net mat) v ↔
    net.Occurs [mat.surface, mat.geometryModifier] v ∨
      ∃ k ∈ mat.nodeGraphs, ∃ g, net.graph? k = some g ∧ net.Occurs g.outputValues v := by
  constructor
  · rintro (hv | ⟨id, n, i, hr, hn, hi, rfl⟩)
    · rcases mem_rootValues.mp hv with rfl | rfl | ⟨k, hk, g, hg, ho⟩
      · exact Or.inl (Or.inl (by simp))
      · exact Or.inl (Or.inl (by simp))
      · exact Or.inr ⟨k, hk, g, hg, Or.inl ho⟩
    · rcases reachesFrom_rootValues.mp hr with hr | ⟨k, hk, g, hg, hr⟩
      · exact Or.inl (Or.inr ⟨id, n, i, hr, hn, hi, rfl⟩)
      · exact Or.inr ⟨k, hk, g, hg, Or.inr ⟨id, n, i, hr, hn, hi, rfl⟩⟩
  · rintro (h | ⟨k, hk, g, hg, h⟩)
    · exact h.mono material_subset_rootValues
    · exact h.mono (graph_subset_rootValues hk hg)

theorem HandlesValid.material_nodes (hv : HandlesValid net mat) (id : NodeId)
    (h : net.ReachesFrom [mat.surface, mat.geometryModifier] id) :
    (net.node? id).isSome = true := hv.nodes id (reachesFrom_rootValues.mpr (Or.inl h))

theorem not_refused_iff (hn : mat.name ≠ []) : ¬ Refused settings net mat ↔
    (¬ Undriven mat.surface ∧ ¬ Undriven mat.geometryModifier) ∧
    (mat.nodeGraphs.Nodup ∧
      ∀ id ∈ mat.nodeGraphs, ∀ g, net.graph? id = some g → g.name ≠ mat.name) ∧
    (∀ id n, net.ReachesFrom (rootValues net mat) id → net.node? id = some n →
      n.isReference = true → n.graph ∈ mat.nodeGraphs) ∧
    (∀ v m, net.Occurs (rootValues net mat) v → v.source ≠ .fault m) ∧
    (settings.policy = .firstWins ∨ ¬ net.Conflicting [mat.surface, mat.geometryModifier]) := by
  constructor
  · intro h
    refine ⟨⟨mt .surface h, mt .geometryModifier h⟩, ⟨?_, ?_⟩, ?_, ?_, ?_⟩
    · exact by_contra fun hd => h (.listedTwice hd)
    · exact fun id hid g hg hname => h (.namesake hid hg hname)
    · exact fun id n hr hnode href => by_contra fun hd => h (.unlisted hr hnode href hd)
    · exact fun v m ho hs => h (.fault ho hs)
    · exact or_iff_not_imp_left.mpr fun hpol hc => h (.conflict hpol hc)
  · rintro ⟨⟨hs, hg⟩, ⟨hd, hname⟩, hu, hf, hc⟩ h
    cases h with
    | unnamed he => exact hn he
    | surface he => exact hs he
    | geometryModifier he => exact hg he
    | listedTwice he => exact he hd
    | namesake hid hgr he => exact hname _ hid _ hgr he
    | unlisted hr hnode href he => exact he (hu _ _ hr hnode href)
    | fault ho he => exact hf _ _ ho he
    | conflict hpol he => exact hc.elim hpol (· he)

/-- The check collects problems exactly if there is a reason to refuse, and fails exactly if it
cannot report one. -/
theorem check_cases (settings : Settings) (hv : HandlesValid net mat) (hn : mat.name ≠ []) :
    (Unreportable settings net mat ∧ ∃ m, check settings net mat = .error m) ∨
    (¬ Unreportable settings net mat ∧ ∃ faults c,
      check settings net mat = .ok (faults, c.parameters) ∧
      net.parameters settings.policy (materialRoots mat) = .ok c ∧
      (faults = [] ↔ ¬ Refused settings net mat)) := by
  obtain ⟨listed, outputs, hlisted, hlisted_nil, houtputs⟩ :=
    listedGraphs_spec mat.name [] mat.nodeGraphs hv.listed
  let values := mat.surface :: mat.geometryModifier :: outputs
  have hsame : ∀ v, v ∈ values ↔ v ∈ rootValues net mat := by
    intro v
    simp [values, mem_rootValues, houtputs]
  have hnodes : ∀ id, net.ReachesFrom values id → (net.node? id).isSome = true :=
    fun id hr => hv.nodes id ((Network.reachesFrom_congr hsame).mp hr)
  obtain ⟨unlisted, hunlisted, hunlisted_nil⟩ := unlistedGraphs_spec mat hnodes
    fun id n hr => hv.instances id n ((Network.reachesFrom_congr hsame).mp hr)
  obtain ⟨faults, hfaults, hmem⟩ := Network.exists_faults hnodes
  obtain ⟨c, hc⟩ := Network.exists_parameters settings.policy hv.material_nodes
  -- With valid handles only the report of conflicts can fail.
  have hcheck : check settings net mat = c.conflicts.mapM Conflict.message >>= fun conflicts =>
      pure (outputFaults "surface" mat.surface ++
        outputFaults "geometry modifier" mat.geometryModifier ++
        listed ++ unlisted ++ faults ++ conflicts, c.parameters) := by
    have hc' : net.parameters settings.policy (materialRoots mat) = .ok c := hc
    simp only [values] at hunlisted hfaults
    simp only [check, hlisted, hunlisted, hfaults, hc', bind, Except.bind]
  have hreport := Network.exists_conflict_messages_iff hc
  have hunrep : Unreportable settings net mat ↔
      ¬ ∃ ms, c.conflicts.mapM Conflict.message = .ok ms := by
    rw [hreport, not_or, not_not]
    exact and_iff_right hn
  rw [hunrep, not_not]
  cases hms : c.conflicts.mapM Conflict.message with
  | error m =>
    left
    refine ⟨by simp, m, ?_⟩
    rw [hcheck, hms]
    rfl
  | ok ms =>
    right
    refine ⟨⟨ms, rfl⟩, _, c, by rw [hcheck, hms]; rfl, hc, ?_⟩
    have hms_nil : ms = [] ↔ c.conflicts = [] := by
      rw [← List.length_eq_zero_iff, ← (Outcome.mapM_eq_ok.mp hms).length_eq,
        List.length_eq_zero_iff]
    have hfaults_nil : faults = [] ↔
        ∀ v m, net.Occurs (rootValues net mat) v → v.source ≠ .fault m := by
      simp only [List.eq_nil_iff_forall_not_mem, hmem, Network.occurs_congr hsame]
      exact ⟨fun h v m ho hs => h m ⟨v, ho, hs⟩, fun h m ⟨v, ho, hs⟩ => h v m ho hs⟩
    simp only [Network.reachesFrom_congr hsame] at hunlisted_nil
    simp only [List.append_eq_nil_iff, outputFaults_eq_nil, hlisted_nil, hunlisted_nil, hfaults_nil,
      hms_nil, Network.conflicts_eq_nil_iff hc, not_refused_iff hn, and_assoc]
    simp

def handleValid (net : Network) (v : Value) : Bool :=
  match v.source with
  | .node id _ => (net.node? id).isSome
  | .graphInput id _ => (net.graph? id).isSome
  | _ => true

theorem isSome_of_reachesFrom {values : List Value} (hr : ∀ v ∈ values, handleValid net v = true)
    (hn : ∀ n ∈ net.nodes, ∀ i ∈ n.inputs, handleValid net i.value = true) {id : NodeId}
    (h : net.ReachesFrom values id) : (net.node? id).isSome = true := by
  have hnode : ∀ v id slot, handleValid net v = true → v.source = .node id slot →
      (net.node? id).isSome = true := by
    intro v id slot hv hs
    simpa [handleValid, hs] using hv
  refine h.induction (P := fun id => (net.node? id).isSome = true) (fun r hmem => ?_) ?_
  · obtain ⟨v, hv, hs⟩ := List.mem_filterMap.mp hmem
    obtain ⟨slot, hs⟩ := Value.node?_eq_some.mp hs
    exact hnode v r slot (hr v hv) hs
  · intro a b _ ⟨n, ha, hb⟩
    obtain ⟨i, hi, slot, hs⟩ := Node.mem_sources.mp hb
    exact hnode i.value b slot (hn n (Network.mem_nodes_of_node? ha) i hi) hs

theorem handlesValid_of_forall (hl : ∀ id ∈ mat.nodeGraphs, (net.graph? id).isSome = true)
    (hr : ∀ v ∈ rootValues net mat, handleValid net v = true)
    (hn : ∀ n ∈ net.nodes, (∀ i ∈ n.inputs, handleValid net i.value = true) ∧
      (n.isReference = true → (net.graph? n.graph).isSome = true)) : HandlesValid net mat := by
  refine ⟨hl, fun id h => ?_, fun id n _ hid => (hn n (Network.mem_nodes_of_node? hid)).2,
    fun v id x ho hs => ?_⟩
  · exact isSome_of_reachesFrom hr (fun n hmem => (hn n hmem).1) h
  · have hv : handleValid net v = true := by
      rcases ho with hroot | ⟨k, n, i, _, hk, hi, rfl⟩
      · exact hr v hroot
      · exact (hn n (Network.mem_nodes_of_node? hk)).1 i hi
    simpa [handleValid, hs] using hv

/-! ## What a document needs -/

theorem exists_assignment {entity : Text} {v : Value} :
    (∃ a, assignment net entity v = .ok a) ↔ v.source ≠ .absent ∧ v.source ≠ .constant none ∧
      ∀ id x, v.source = .graphInput id x → (net.graph? id).isSome = true := by
  obtain ⟨type, source⟩ := v
  cases source with
  | constant c => cases c <;> simp [assignment]
  | graphInput id x =>
    simp only [assignment, Outcome.exists_bind, Outcome.exists_pure, Network.graph_eq_ok]
    simp [Option.isSome_iff_exists]
  | _ => simp [assignment]

theorem exists_inputDeclaration {entity : Text} {i : Input} :
    (∃ d, (renderer net).inputDeclaration entity i = .ok d) ↔ i.value.source ≠ .constant none ∧
      ∀ id x, i.value.source = .graphInput id x → (net.graph? id).isSome = true := by
  simp only [inputDeclaration, Outcome.exists_bind, Outcome.exists_pure, and_true, inputAssignment,
    Value.isAbsent_iff]
  by_cases ha : i.value.source = .absent
  · simp [ha]
  · rw [if_neg ha, renderer_reference, exists_assignment]
    exact and_iff_right ha

theorem exists_nodeBlock {entity : Text} {id : NodeId} {n : Node} :
    (∃ b, (renderer net).nodeBlock net entity id n = .ok b) ↔
      (n.isReference = true → (net.graph? n.graph).isSome = true) ∧
      ∀ i ∈ n.inputs, ∃ d, (renderer net).inputDeclaration entity i = .ok d := by
  have hkind : (∃ kind, nodeKind net n = .ok kind) ↔
      (n.isReference = true → (net.graph? n.graph).isSome = true) := by
    rw [nodeKind]
    split
    · rename_i href
      simp only [Outcome.exists_bind, Outcome.exists_pure, and_true, Network.graph_eq_ok]
      simp [href, Option.isSome_iff_exists]
    · rename_i href
      simp [href]
  simp only [nodeBlock, Outcome.exists_bind, Outcome.exists_pure, and_true, Outcome.exists_mapM,
    exists_and_right, hkind]

theorem exists_nodeBlocks {entity : Text} {values : List Value} (hv : HandlesValid net mat)
    (hsub : ∀ v ∈ values, v ∈ rootValues net mat) :
    (∃ bs, (renderer net).nodeBlocks net entity (rootNodes values) = .ok bs) ↔
      ∀ id n i, net.ReachesFrom values id → net.node? id = some n → i ∈ n.inputs →
        i.value.source ≠ .constant none := by
  obtain ⟨ids, hids, hb⟩ := Network.exists_appendReachable
    fun id hid => hv.nodes id ((reaches_rootNodes.mp hid).mono hsub)
  have hblocks : (∃ bs, (renderer net).nodeBlocks net entity (rootNodes values) = .ok bs) ↔
      ∀ id, net.ReachesFrom values id → ∃ n, net.node? id = some n ∧
        ∃ b, (renderer net).nodeBlock net entity id n = .ok b := by
    rw [nodeBlocks, Network.reachable, hids]
    refine Outcome.exists_mapM.trans ?_
    simp only [hb.mem_iff, reaches_rootNodes, Outcome.exists_bind, Network.node_eq_ok]
  simp only [hblocks, exists_nodeBlock, exists_inputDeclaration]
  constructor
  · intro h id n i hid hn hi
    obtain ⟨m, hm, _, hset⟩ := h id hid
    obtain rfl : m = n := Option.some.inj (hm.symm.trans hn)
    exact (hset i hi).1
  · intro h id hid
    have hroot := hid.mono hsub
    obtain ⟨n, hn⟩ := Option.isSome_iff_exists.mp (hv.nodes id hroot)
    refine ⟨n, hn, hv.instances id n hroot hn, fun i hi => ⟨h id n i hid hn hi, fun g x hs => ?_⟩⟩
    exact hv.inputs i.value g x (Or.inr ⟨id, n, i, hroot, hn, hi, rfl⟩) hs

theorem exists_materialEntity {parameters : List Parameter} :
    (∃ e, (renderer net).materialEntity net mat parameters = .ok e) ↔
      (∀ p ∈ parameters, p.default ≠ none) ∧
      ∃ bs, (renderer net).nodeBlocks net mat.name (materialRoots mat) = .ok bs := by
  have hslot : ∀ slot v, ∃ d, (renderer net).slotDeclaration mat.name slot v = .ok d := by
    intro slot ⟨type, source⟩
    refine Outcome.exists_bind.mpr ?_
    cases source <;> simp [slotAssignment, assignment, Value.node?, Outcome.exists_pure]
  have hparameter : ∀ p, (∃ d, (renderer net).parameterDeclaration p = .ok d) ↔
      p.default ≠ none := by
    rintro ⟨name, default⟩
    simp only [parameterDeclaration, Outcome.exists_bind, Outcome.exists_pure, and_true]
    cases default <;> simp [required]
  simp only [materialEntity, Outcome.exists_bind, Outcome.exists_pure, and_true, exists_and_right,
    Outcome.exists_mapM, hparameter, hslot, true_and]

theorem exists_graphEntity {id : GraphId} {g : NodeGraph} (hg : net.graph? id = some g) :
    (∃ e, (renderer net).graphEntity net id = .ok e) ↔
      (∀ i ∈ g.inputs, ¬ (i.default = none ∧ i.type.dataType? = none)) ∧
      (∀ o ∈ g.outputs, ∃ a, assignment net g.name o.value = .ok a) ∧
      ∃ bs, (renderer net).nodeBlocks net g.name (rootNodes g.outputValues) = .ok bs := by
  have hinput : ∀ i, (∃ d, (renderer net).graphInputDeclaration i = .ok d) ↔
      ¬ (i.default = none ∧ i.type.dataType? = none) := by
    rintro ⟨name, type, default⟩
    simp only [graphInputDeclaration, Outcome.exists_bind, Outcome.exists_pure, and_true]
    cases default with
    | some c => simp [GraphInput.defaultValue]
    | none => cases ht : type.dataType? <;> simp [GraphInput.defaultValue, TypeTag.default, ht]
  have houtput : ∀ o, (∃ ds, (renderer net).graphOutputDeclarations g.name o = .ok ds) ↔
      ∃ a, assignment net g.name o.value = .ok a := by
    intro o
    simp only [graphOutputDeclarations, Outcome.exists_bind, Outcome.exists_pure, and_true,
      renderer_reference]
  rw [graphEntity, Network.graph_eq_ok.mpr hg]
  refine Outcome.exists_bind.trans ?_
  simp only [Except.ok.injEq, exists_eq_left', Outcome.exists_bind, Outcome.exists_pure, and_true,
    exists_and_right, Outcome.exists_mapM, hinput, houtput]

theorem exists_build {c : Collected} (hv : HandlesValid net mat)
    (hs : ¬ Undriven mat.surface) (hm : ¬ Undriven mat.geometryModifier)
    (hc : net.parameters settings.policy (materialRoots mat) = .ok c) :
    (∃ d, (renderer net).build settings net mat c.parameters = .ok d) ↔ ¬ Incomplete net mat := by
  have hdriven : ∀ v : Value, ¬ Undriven v → v.source ≠ .constant none := by
    intro v hv he
    exact hv ⟨by simp [he], by simp [he], by simp [he]⟩
  have hok : (∃ d, (renderer net).build settings net mat c.parameters = .ok d) ↔
      (∃ e, (renderer net).materialEntity net mat c.parameters = .ok e) ∧
        ∀ id ∈ mat.nodeGraphs, ∃ e, (renderer net).graphEntity net id = .ok e := by
    simp only [build, Outcome.exists_bind, Outcome.exists_pure, and_true, exists_and_right,
      Outcome.exists_mapM]
  rw [hok, exists_materialEntity, materialRoots, exists_nodeBlocks hv material_subset_rootValues]
  constructor
  · rintro ⟨⟨hparams, hmaterial⟩, hgraphs⟩ hinc
    cases hinc with
    | constant ho he =>
      rcases ho with hroot | ⟨id, n, i, hid, hn, hi, rfl⟩
      · rcases mem_rootValues.mp hroot with rfl | rfl | ⟨k, hk, g, hg, hmem⟩
        · exact hdriven _ hs he
        · exact hdriven _ hm he
        · obtain ⟨o, ho, rfl⟩ := List.mem_map.mp hmem
          have hout := ((exists_graphEntity hg).mp (hgraphs k hk)).2.1 o ho
          exact (exists_assignment.mp hout).2.1 he
      · rcases reachesFrom_rootValues.mp hid with hid | ⟨k, hk, g, hg, hid⟩
        · exact hmaterial id n i hid hn hi he
        · have hblocks := ((exists_graphEntity hg).mp (hgraphs k hk)).2.2
          have hset := (exists_nodeBlocks hv (graph_subset_rootValues hk hg)).mp hblocks
          exact hset id n i hid hn hi he
    | parameter hf he => exact hparams _ ((Network.mem_parameters_iff hc).mpr hf) he
    | output hid hg ho he =>
      have hg' := ((exists_graphEntity hg).mp (hgraphs _ hid)).2.1 _ ho
      exact (exists_assignment.mp hg').1 he
    | input hid hg hi hd ht => exact ((exists_graphEntity hg).mp (hgraphs _ hid)).1 _ hi ⟨hd, ht⟩
  · intro hinc
    have hconst : ∀ id n i, net.ReachesFrom (rootValues net mat) id → net.node? id = some n →
        i ∈ n.inputs → i.value.source ≠ .constant none :=
      fun id n i hid hn hi he => hinc (.constant (Or.inr ⟨id, n, i, hid, hn, hi, rfl⟩) he)
    refine ⟨⟨fun p hp he => hinc (.parameter ((Network.mem_parameters_iff hc).mp hp) he),
      fun id n i hid => hconst id n i (hid.mono material_subset_rootValues)⟩, fun id hid => ?_⟩
    obtain ⟨g, hg⟩ := Option.isSome_iff_exists.mp (hv.listed id hid)
    refine (exists_graphEntity hg).mpr ⟨fun i hi ⟨hd, ht⟩ => hinc (.input hid hg hi hd ht),
      fun o ho => exists_assignment.mpr ?_, ?_⟩
    · have hroot : o.value ∈ rootValues net mat :=
        graph_subset_rootValues hid hg _ (List.mem_map_of_mem ho)
      exact ⟨fun he => hinc (.output hid hg ho he), fun he => hinc (.constant (Or.inl hroot) he),
        fun k x he => hv.inputs _ k x (Or.inl hroot) he⟩
    · exact (exists_nodeBlocks hv (graph_subset_rootValues hid hg)).mpr
        fun k n i hk => hconst k n i (hk.mono (graph_subset_rootValues hid hg))

/-! ## The three ways to end -/

theorem compile_unnamed (hn : mat.name = []) : compile settings net mat = .error .emptyName := by
  rw [compile, Renderer.compile, hn]
  rfl

theorem compile_unchecked {m : Misuse} (hn : mat.name ≠ [])
    (hcheck : check settings net mat = .error m) :
    compile settings net mat = .error (.misuse m) := by
  rw [compile, Renderer.compile, if_neg (by simpa using hn), hcheck]
  rfl

theorem compile_checked {faults : List Text} {parameters : List Parameter} (hn : mat.name ≠ [])
    (hcheck : check settings net mat = .ok (faults, parameters)) : compile settings net mat =
      if faults.isEmpty then ((renderer net).build settings net mat parameters).mapError .misuse
      else .error (.faults faults) := by
  rw [compile, Renderer.compile, if_neg (by simpa using hn), hcheck]
  rfl

theorem compile_eq_ok {c : Compiled} (h : compile settings net mat = .ok c) :
    mat.name ≠ [] ∧ ∃ parameters, check settings net mat = .ok ([], parameters) ∧
      (renderer net).build settings net mat parameters = .ok c := by
  have hn : mat.name ≠ [] := by
    intro hn
    rw [compile_unnamed hn] at h
    simp at h
  cases hcheck : check settings net mat with
  | error m =>
    rw [compile_unchecked hn hcheck] at h
    simp at h
  | ok r =>
    obtain ⟨faults, parameters⟩ := r
    rw [compile_checked hn hcheck] at h
    split at h
    · rename_i hf
      obtain rfl := List.isEmpty_iff.mp hf
      cases hb : (renderer net).build settings net mat parameters with
      | error m => simp [hb, Except.mapError] at h
      | ok d =>
        obtain rfl : d = c := by simpa [hb, Except.mapError] using h
        exact ⟨hn, parameters, rfl, hb⟩
    · simp at h

theorem not_refused_of_compile {c : Compiled} (hv : HandlesValid net mat)
    (h : compile settings net mat = .ok c) : ¬ Refused settings net mat ∧ ∃ collected,
      net.parameters settings.policy (materialRoots mat) = .ok collected ∧
      (renderer net).build settings net mat collected.parameters = .ok c := by
  obtain ⟨hn, parameters, hcheck, hbuild⟩ := compile_eq_ok h
  rcases check_cases settings hv hn with ⟨_, m, he⟩ | ⟨_, faults, collected, he, hc, hnil⟩
  · simp [hcheck] at he
  · rw [hcheck] at he
    obtain ⟨rfl, rfl⟩ := Prod.mk.inj (Except.ok.inj he)
    exact ⟨hnil.mp rfl, collected, hc, hbuild⟩

/-- Compiling is all or nothing. If the handles are valid, then either the material is refused and
nothing is added, or the lines of its document are added whatever they follow. Only a missing
constant leads to neither of the two. -/
theorem appendLines_outcome (settings : Settings) (net : Network) (mat : Material)
    (hv : HandlesValid net mat) :
    (Refused settings net mat ∧ ¬ Unreportable settings net mat ∧
      ∃ e, ∀ dst, appendLines settings dst net mat = .ok ⟨dst, [], some e⟩) ∨
    (¬ Refused settings net mat ∧ ¬ Incomplete net mat ∧
      ∃ lines textures, ∀ dst,
        appendLines settings dst net mat = .ok ⟨dst ++ lines, textures, none⟩) ∨
    ((Unreportable settings net mat ∨ ¬ Refused settings net mat ∧ Incomplete net mat) ∧
      ∃ m, ∀ dst, appendLines settings dst net mat = .error m) := by
  by_cases hn : mat.name = []
  · refine Or.inl ⟨.unnamed hn, fun h => h.1 hn, .emptyName, fun dst => ?_⟩
    rw [appendLines, compile_unnamed hn]
  · rcases check_cases settings hv hn with
      ⟨hu, m, hcheck⟩ | ⟨hu, faults, c, hcheck, hc, hnil⟩
    · refine Or.inr (Or.inr ⟨Or.inl hu, m, fun dst => ?_⟩)
      rw [appendLines, compile_unchecked hn hcheck]
    · have hcompile := compile_checked hn hcheck
      by_cases hr : Refused settings net mat
      · have hne : ¬ faults.isEmpty = true := by simpa using mt hnil.mp (not_not.mpr hr)
        rw [if_neg hne] at hcompile
        refine Or.inl ⟨hr, hu, .faults faults, fun dst => ?_⟩
        rw [appendLines, hcompile]
      · rw [if_pos (by simpa using hnil.mpr hr)] at hcompile
        have hbuild := exists_build hv (mt .surface hr) (mt .geometryModifier hr) hc
        cases hb : (renderer net).build settings net mat c.parameters with
        | ok d =>
          refine Or.inr (Or.inl ⟨hr, hbuild.mp ⟨d, hb⟩, d.lines, d.textures, fun dst => ?_⟩)
          rw [appendLines, hcompile, hb]
          rfl
        | error m =>
          have hinc : Incomplete net mat := by
            by_contra hinc
            obtain ⟨d, hd⟩ := hbuild.mpr hinc
            simp [hb] at hd
          refine Or.inr (Or.inr ⟨Or.inr ⟨hr, hinc⟩, m, fun dst => ?_⟩)
          rw [appendLines, hcompile, hb]
          rfl

def lopsidedNetwork : Network :=
  ⟨[⟨1, "Pair", [⟨"x", DataType.bool, ⟨DataType.bool, .parameter "p" none⟩⟩,
    ⟨"y", DataType.bool, .ofParameter "p" (.bool true)⟩], [⟨"out", DataType.token⟩], 0⟩], []⟩

def lopsidedMaterial : Material := ⟨"M", ⟨DataType.token, .node 1 "out"⟩, .absent, []⟩

theorem lopsided_handlesValid : HandlesValid lopsidedNetwork lopsidedMaterial :=
  handlesValid_of_forall (by decide) (by decide) (by decide)

theorem lopsided_unreportable : Unreportable .standard lopsidedNetwork lopsidedMaterial := by
  have hr : lopsidedNetwork.ReachesFrom
      [lopsidedMaterial.surface, lopsidedMaterial.geometryModifier] 1 := .root (by decide)
  refine ⟨by decide, by decide, (1, 0), (1, 1), ⟨"p", none⟩, ⟨"p", some (.bool true)⟩,
    ⟨hr, _, _, rfl, rfl, rfl⟩, ⟨hr, _, _, rfl, rfl, rfl⟩, rfl, rfl, by simp⟩

theorem Unreportable.refused (h : Unreportable settings net mat) : Refused settings net mat :=
  .conflict h.2.1 h.2.2.conflicting

theorem lopsided_outcome : HandlesValid lopsidedNetwork lopsidedMaterial ∧
    ∃ m, ∀ dst, appendLines .standard dst lopsidedNetwork lopsidedMaterial = .error m := by
  refine ⟨lopsided_handlesValid, ?_⟩
  rcases appendLines_outcome .standard _ _ lopsided_handlesValid with
    ⟨_, hu, _⟩ | ⟨hr, _⟩ | ⟨_, hm⟩
  · exact absurd lopsided_unreportable hu
  · exact absurd lopsided_unreportable.refused hr
  · exact hm

/-- Handles being valid, there is a reason to refuse, and yet no error is returned. -/
theorem lopsided_conflict_unreported : HandlesValid lopsidedNetwork lopsidedMaterial ∧
    Refused .standard lopsidedNetwork lopsidedMaterial ∧
    ∀ dst r, appendLines .standard dst lopsidedNetwork lopsidedMaterial ≠ .ok r := by
  refine ⟨lopsided_handlesValid, lopsided_unreportable.refused, fun dst r => ?_⟩
  rcases check_cases .standard lopsided_handlesValid lopsided_unreportable.1 with
    ⟨_, m, hcheck⟩ | ⟨hu, _⟩
  · rw [appendLines, compile_unchecked lopsided_unreportable.1 hcheck]
    simp
  · exact absurd lopsided_unreportable hu

end ShaderGraph.Stage
