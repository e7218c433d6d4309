import ShaderGraph.Proofs.LoadRuns
import ShaderGraph.Proofs.ScopeSafety

/-!
# Loading without misuse

Whatever a blueprint declares, well formed or not, loading it never misuses the network, with a single
exception: a graph output that has neither a value nor a type. The exception is met by a file. Decoding
does not ask for the value of such an output, and its declaration hands the absent value on.
-/
namespace ShaderGraph.Blueprint

open Config (Expr Span)
open Load

variable {allowed : Misuse → Prop} {st : Loading}

theorem ends_declareParameters {base : Text} {done : List (Text × Constant)} {ps : List Parameter}
    {I : Network → List (Text × Option NodeId) → Prop} (hst : I st.network st.settled) :
    Ends allowed (declareParameters base done ps) st fun _ => I := by
  induction ps generalizing st done with
  | nil => exact .pure hst
  | cons p ps ih =>
    refine .bind (Q := fun _ => I) (.reportUnsupported hst) fun _ st₁ hst₁ => ?_
    split
    · exact .bind (Q := fun _ => I) (.report hst₁) fun _ _ hst₂ => ih hst₂
    · refine .bind (Q := fun _ => I) (.reported fun _ _ => hst₁) fun o st₂ hst₂ => ?_
      split
      · exact ih hst₂
      · exact ih hst₂

/-! ## Graphs -/

structure Within (names : List Text) (net : Network) : Prop where
  sound : net.Sound
  names : ∀ g ∈ net.graphs, g.name ∈ names

theorem names_setGraph {names : List Text} {net : Network} {graph : GraphId} {g g' : NodeGraph}
    (h : ∀ g ∈ net.graphs, g.name ∈ names) (hg : net.graph? graph = some g)
    (hname : g'.name = g.name) : ∀ g ∈ (net.setGraph graph g').graphs, g.name ∈ names := by
  intro f hf
  rcases List.mem_or_eq_of_mem_set hf with hf | rfl
  · exact h f hf
  · rw [hname]
    exact h g (Network.mem_graphs_of_graph? hg)

structure Hosts (names : List Text) (net : Network) (graph : GraphId) (name : Text) : Prop extends
    Within names net where
  present : ∃ g, net.graph? graph = some g ∧ g.name = name ∧ g.outputs = []

variable {names : List Text}

theorem Hosts.input {net : Network} {graph : GraphId} {name : Text}
    (h : Hosts names net graph name) {g : NodeGraph} (hg : net.graph? graph = some g)
    {i : ShaderGraph.GraphInput} (htype : i.type.isValid = true)
    (hnew : i.name ∉ g.inputs.map (·.name)) :
    Hosts names (net.setGraph graph { g with inputs := g.inputs ++ [i] }) graph name := by
  obtain ⟨g', hg', hname, houtputs⟩ := h.present
  obtain rfl := Option.some.inj (hg.symm.trans hg')
  exact ⟨⟨h.sound.step (.input hg htype hnew : Network.Extends [] net _),
    names_setGraph h.names hg rfl⟩, _, Network.graph?_setGraph_self _ hg, hname, houtputs⟩

theorem ends_addGraphInput {graph : GraphId} {name : Text} {i : ShaderGraph.GraphInput}
    {g : NodeGraph} (hst : Hosts names st.network graph name)
    (hg : st.network.graph? graph = some g) (htype : i.type.isValid = true)
    (hnew : ¬ (g.input? i.name).isSome = true) :
    Ends allowed (do let _ ← perform (.extend (·.addGraphInput graph i))) st fun _ net _ =>
      Hosts names net graph name := by
  rw [g.isSome_input?] at hnew
  refine .bind (Q := fun _ net _ => Hosts names net graph name)
    (.extend (Network.addGraphInput_eq_ok.mpr ⟨g, hg, htype, hnew, rfl⟩)
      (hst.input hg htype hnew)) fun _ _ h => .pure h

theorem ends_graphInput {graph : GraphId} {name : Text} {i : GraphInput}
    (hst : Hosts names st.network graph name) :
    Ends allowed (GraphInput.declare graph name i) st fun _ net _ => Hosts names net graph name := by
  refine .bind (Q := fun _ net _ => Hosts names net graph name) (.reportUnsupported hst) ?_
  intro _ st₁ hst₁
  obtain ⟨g, hg, _⟩ := hst₁.present
  refine .bind (Q := fun g net _ => Hosts names net graph name ∧ net.graph? graph = some g)
    (.inspect (Network.graph_eq_ok.mpr hg) ⟨hst₁, hg⟩) ?_
  rintro g st₂ ⟨hst₂, hg⟩
  split
  · exact .report hst₂
  · rename_i hnew
    split
    · exact .report hst₂
    · rename_i type _
      split
      · exact ends_addGraphInput hst₂ hg (TypeTag.isValid_ofDataType type) hnew
      · refine .bind (Q := fun _ net _ => Hosts names net graph name ∧ net.graph? graph = some g)
          (.reported fun _ _ => ⟨hst₂, hg⟩) ?_
        rintro o st₃ ⟨hst₃, hg⟩
        split
        · exact .pure hst₃
        · exact ends_addGraphInput hst₃ hg (TypeTag.isValid_ofDataType _) hnew

/-- The scope fits, and the graph whose outputs are declared is there. Its outputs have some of the
names that are taken. -/
structure Scope.FitsGraph (s : Scope) (names : List Text) (graph : GraphId) (name : Text)
    (taken : List Text) (net : Network) (settled : List (Text × Option NodeId)) : Prop where
  fits : s.Fits net settled
  names : ∀ g ∈ net.graphs, g.name ∈ names
  present : ∃ g, net.graph? graph = some g ∧ g.name = name ∧ ∀ o ∈ g.outputs, o.name ∈ taken

namespace Scope.FitsGraph

variable {s : Scope} {graph : GraphId} {name : Text} {taken : List Text} {net : Network}
  {settled : List (Text × Option NodeId)}

theorem output (h : s.FitsGraph names graph name taken net settled) {g : NodeGraph}
    (hg : net.graph? graph = some g) {slot : Text} {v : Value} (hv : v.isAbsent = false)
    (hnew : slot ∉ g.outputs.map (·.name)) (hslot : slot ∈ taken) :
    s.FitsGraph names graph name taken
      (net.setGraph graph { g with outputs := g.outputs ++ [⟨slot, v⟩] }) settled := by
  obtain ⟨g', hg', hname, htaken⟩ := h.present
  obtain rfl := Option.some.inj (hg.symm.trans hg')
  have hextends : Network.Extends [v] net _ := .output hg List.mem_cons_self hv hnew
  have hself := Network.graph?_setGraph_self { g with outputs := g.outputs ++ [⟨slot, v⟩] } hg
  refine ⟨⟨h.fits.sound.step hextends, fun other id hmem => ?_, fun own hown => ?_⟩,
    names_setGraph h.names hg rfl, _, hself, hname, Network.forall_mem_concat htaken hslot⟩
  · obtain ⟨n, hn⟩ := Option.isSome_iff_exists.mp (h.fits.handles other id hmem)
    rw [hextends.grows.node? hn]
    rfl
  · obtain ⟨g₀, hg₀, hinputs⟩ := h.fits.graph own hown
    by_cases he : own.id = graph
    · rw [he, hg] at hg₀
      obtain rfl := Option.some.inj hg₀
      exact ⟨{ g with outputs := g.outputs ++ [⟨slot, v⟩] }, he.symm ▸ hself, hinputs⟩
    · exact ⟨g₀, (Network.graph?_setGraph_of_ne _ hg he).trans hg₀, hinputs⟩

end Scope.FitsGraph

variable {s : Scope} {graph : GraphId} {name : Text} {taken : List Text}

theorem addGraphOutput_absent {net : Network} {g : NodeGraph} (hg : net.graph? graph = some g)
    (slot : Text) {v : Value} (hv : v.isAbsent = true) :
    net.addGraphOutput graph slot v = .error (.graphOutputAbsent g.name slot) := by
  simp only [Network.addGraphOutput, Network.graph_eq_ok.mpr hg, bind, Except.bind, hv, if_true,
    throw, throwThe, MonadExceptOf.throw]

theorem ends_addGraphOutput {slot : Text} {g : NodeGraph} {v : Value}
    (hst : s.FitsGraph names graph name taken st.network st.settled)
    (hg : st.network.graph? graph = some g) (hnew : slot ∉ g.outputs.map (·.name))
    (hslot : slot ∈ taken) (hv : v.isAbsent = true → allowed (.graphOutputAbsent name slot)) :
    Ends allowed (perform (.graphOutput graph slot v)) st fun _ =>
      s.FitsGraph names graph name taken := by
  by_cases habsent : v.isAbsent = true
  · obtain ⟨g', hg', hname, _⟩ := hst.present
    obtain rfl := Option.some.inj (hg.symm.trans hg')
    exact .extend_error (addGraphOutput_absent hg slot habsent) (hname ▸ hv habsent)
  · have hpresent : v.isAbsent = false := by simpa using habsent
    exact .extend (Network.addGraphOutput_eq_ok.mpr ⟨g, hg, hpresent, hnew, rfl⟩)
      (hst.output hg hpresent hnew hslot)

theorem ends_graphOutput {o : GraphOutput}
    (hst : s.FitsGraph names graph name taken st.network st.settled) (hslot : o.name ∈ taken)
    (hallowed : o.value = none → o.type = [] → allowed (.graphOutputAbsent name o.name)) :
    Ends allowed (GraphOutput.declare s graph name o) st fun _ =>
      s.FitsGraph names graph name taken := by
  obtain ⟨g, hg, _⟩ := hst.present
  refine .bind (Q := fun g net settled => s.FitsGraph names graph name taken net settled ∧
    net.graph? graph = some g) (.inspect (Network.graph_eq_ok.mpr hg) ⟨hst, hg⟩) ?_
  rintro g st₁ ⟨hst₁, hg⟩
  -- The value may still build nodes, but it leaves the graphs as they are.
  have hvalue : ∀ type?, Ends allowed (s.finalValue o.value type?) st₁ fun v? net settled =>
      (s.FitsGraph names graph name taken net settled ∧ net.graph? graph = some g) ∧
        Scope.Sure net o.value v? := by
    intro type?
    refine (Scope.ends_finalValue hst₁.fits).imp fun v? net settled ⟨honward, hsure⟩ => ?_
    have hg' := (honward.gains.graph? graph).trans hg
    obtain ⟨g₁, hg₁, hpresent⟩ := hst₁.present
    obtain rfl := Option.some.inj (hg.symm.trans hg₁)
    exact ⟨⟨⟨honward.fits, honward.gains.graphs ▸ hst₁.names, g, hg', hpresent⟩, hg'⟩, hsure⟩
  split
  · exact .report hst₁
  · rename_i hnew
    rw [g.isSome_output?] at hnew
    split
    · rename_i htype
      refine .bind (hvalue none) ?_
      rintro v? st₂ ⟨⟨hst₂, hg⟩, hsure⟩
      split
      · exact .pure hst₂
      · rename_i v
        refine ends_addGraphOutput hst₂ hg hnew hslot fun habsent => ?_
        exact hallowed ((hsure v rfl).2 habsent).1 (List.isEmpty_iff.mp htype)
    · split
      · exact .report hst₁
      · rename_i type _
        refine .bind (hvalue (some type)) ?_
        rintro v? st₂ ⟨⟨hst₂, hg⟩, hsure⟩
        split
        · exact .pure hst₂
        · rename_i v
          split
          · exact .report hst₂
          · rename_i htype
            refine ends_addGraphOutput hst₂ hg hnew hslot fun habsent => absurd ?_ htype
            -- A value that is left out has no type, so it would have been reported.
            rw [((hsure v rfl).2 habsent).2]
            intro hundefined
            have hvalid := TypeTag.isValid_ofDataType type
            rw [← hundefined] at hvalid
            cases hvalid

theorem stops_graphOutput {o : GraphOutput}
    (hst : s.FitsGraph names graph name taken st.network st.settled) (hslot : o.name ∉ taken)
    (hvalue : o.value = none) (htype : o.type = [])
    (hallowed : allowed (.graphOutputAbsent name o.name)) :
    Ends allowed (GraphOutput.declare s graph name o) st fun _ _ _ => False := by
  obtain ⟨g, hg, hname, htaken⟩ := hst.present
  refine .bind (Q := fun g' net _ => g' = g ∧ net.graph? graph = some g)
    (.inspect (Network.graph_eq_ok.mpr hg) ⟨rfl, hg⟩) ?_
  rintro _ st₁ ⟨rfl, hg⟩
  rw [if_neg (mt (NodeGraph.isSome_output? _ _).mp ?_), htype, if_pos List.isEmpty_nil, hvalue]
  · refine .bind (Q := fun v? net _ => v? = some .absent ∧ net.graph? graph = some _)
      (.pure ⟨rfl, hg⟩) ?_
    rintro _ st₂ ⟨rfl, hg⟩
    exact .extend_error (addGraphOutput_absent hg o.name rfl) (hname ▸ hallowed)
  · intro hmem
    obtain ⟨o', ho', he⟩ := List.mem_map.mp hmem
    exact hslot (he ▸ htaken o' ho')

/-- A graph of a new name is opened, and its inputs and nodes are declared. How it ends is up to its
outputs. -/
theorem ends_opened {b : Graph} {Q : Unit → _ → _ → Prop} (hst : Within names st.network)
    (hb : b.name ∈ names) (hnamed : b.name ≠ []) (hfree : st.network.findGraph? b.name = none)
    (houtputs : ∀ s graph st', s.FitsGraph names graph b.name [] st'.network st'.settled →
      Ends allowed (b.outputs.forM (GraphOutput.declare s graph b.name)) st' Q) :
    Ends allowed b.declare st Q := by
  refine .bind (Q := fun _ net _ => net = st.network) (.reportUnsupported rfl) ?_
  intro _ st₁ hst₁
  rw [← hst₁] at hst hfree
  rw [if_neg (by simpa using hnamed)]
  refine .get_bind ?_
  rw [if_neg (by simp [hfree])]
  have hadd := Network.addGraph_eq_ok.mpr ⟨hnamed, hfree, rfl⟩
  have hextends : Network.Extends [] st₁.network _ := Network.addGraph_extends hadd
  have hlast := Network.graph?_last st₁.network ⟨st₁.network.graphs.length + 1, b.name, [], []⟩
  refine .bind (Q := fun graph net _ => Hosts names net graph b.name)
    (.extend hadd ⟨⟨hst.sound.step hextends, Network.forall_mem_concat hst.names hb⟩, _, hlast, rfl,
      rfl⟩) ?_
  intro graph st₂ hst₂
  refine .bind (Q := fun _ net _ => Hosts names net graph b.name)
    (.forM (fun i _ st hst => ends_graphInput hst) hst₂) fun _ st₃ hst₃ => ?_
  obtain ⟨g, hg, hname, hnone⟩ := hst₃.present
  refine .bind (Q := fun g' net _ => g' = g ∧ Within names net ∧ net.graph? graph = some g)
    (.inspect (Network.graph_eq_ok.mpr hg) ⟨rfl, hst₃.toWithin, hg⟩) ?_
  rintro _ st₄ ⟨rfl, hwithin, hg⟩
  have hid := hwithin.sound.id_of_graph? hg
  refine .bind (Scope.ends_enter hwithin.sound fun own hown => ?_) ?_
  · obtain rfl := Option.mem_some.mp hown
    exact ⟨_, hid ▸ hg, rfl⟩
  · rintro s st₅ ⟨_, honward⟩
    exact houtputs s graph st₅ ⟨honward.fits, honward.gains.graphs ▸ hwithin.names, _,
      (honward.gains.graph? graph).trans hg, hname, by simp [hnone]⟩

theorem Scope.FitsGraph.mono {taken' : List Text} {net : Network}
    {settled : List (Text × Option NodeId)} (h : s.FitsGraph names graph name taken net settled)
    (hsub : taken ⊆ taken') : s.FitsGraph names graph name taken' net settled := by
  obtain ⟨g, hg, hname, htaken⟩ := h.present
  exact ⟨h.fits, h.names, g, hg, hname, fun o ho => hsub (htaken o ho)⟩

theorem ends_graph {b : Graph} (hst : Within names st.network) (hb : b.name ∈ names)
    (hallowed : ∀ o ∈ b.outputs, o.value = none → o.type = [] →
      allowed (.graphOutputAbsent b.name o.name)) :
    Ends allowed b.declare st fun _ net _ => Within names net := by
  by_cases hnamed : b.name = []
  · refine .bind (Q := fun _ net _ => Within names net) (.reportUnsupported hst) fun _ st₁ hst₁ => ?_
    rw [if_pos (by simpa using hnamed)]
    exact .report hst₁
  · cases hfind : st.network.findGraph? b.name with
    | some g =>
      refine .bind (Q := fun _ net _ => Within names net ∧ net.findGraph? b.name = some g)
        (.reportUnsupported ⟨hst, hfind⟩) ?_
      rintro _ st₁ ⟨hst₁, hfind⟩
      rw [if_neg (by simpa using hnamed)]
      refine .get_bind ?_
      rw [if_pos (by simp [hfind])]
      exact .report hst₁
    | none =>
      refine ends_opened hst hb hnamed hfind fun s graph st₁ hst₁ => ?_
      refine (Ends.forM (fun o ho st hst => ends_graphOutput hst (List.mem_map_of_mem ho)
        (hallowed o ho)) (hst₁.mono (List.nil_subset _))).imp ?_
      exact fun _ net settled h => ⟨h.fits.sound, h.names⟩

/-- A graph of a new name is misused at its first output of a name that has neither a value nor a
type, if not before. -/
theorem stops_graph {b : Graph} {earlier later : List GraphOutput} {o : GraphOutput}
    (hst : Within names st.network) (hb : b.name ∉ names) (hnamed : b.name ≠ [])
    (houtputs : b.outputs = earlier ++ o :: later) (hfirst : o.name ∉ earlier.map (·.name))
    (hvalue : o.value = none) (htype : o.type = [])
    (hallowed : ∀ o ∈ b.outputs, o.value = none → o.type = [] →
      allowed (.graphOutputAbsent b.name o.name)) :
    Ends allowed b.declare st fun _ _ _ => False := by
  have hfree : st.network.findGraph? b.name = none := by
    refine List.find?_eq_none.mpr fun g hg hname => hb ?_
    exact of_decide_eq_true hname ▸ hst.names g hg
  have hwithin : Within (b.name :: names) st.network :=
    ⟨hst.sound, fun g hg => List.mem_cons_of_mem _ (hst.names g hg)⟩
  refine ends_opened hwithin List.mem_cons_self hnamed hfree fun s graph st₁ hst₁ => ?_
  rw [houtputs] at hallowed ⊢
  refine .forM_stop (fun o ho st hst => ends_graphOutput hst (List.mem_map_of_mem ho)
    (hallowed o (List.mem_append_left _ ho))) (hst₁.mono (List.nil_subset _)) fun st₂ hst₂ => ?_
  exact stops_graphOutput hst₂ hfirst hvalue htype
    (hallowed o (List.mem_append_right _ List.mem_cons_self) hvalue htype)

/-! ## Materials -/

theorem ends_materialOutput {s : Scope} {argument : Text} {e? : Option Expr}
    (hst : s.Fits st.network st.settled) :
    Ends allowed (materialOutput s argument e?) st fun _ => s.Fits := by
  unfold materialOutput
  split
  · exact .pure hst
  · split
    · exact .bind (Q := fun _ => s.Fits) (.report hst) fun _ _ h => .pure h
    · refine .bind (Scope.ends_finalValue hst) ?_
      rintro o st₁ ⟨honward, _⟩
      split
      · exact .pure honward.fits
      · split
        · exact .bind (Q := fun _ => s.Fits) (.report honward.fits) fun _ _ h => .pure h
        · exact .pure honward.fits

theorem ends_listedGraphs {material : Text} {subject : Span} {names : List Text}
    {I : Network → List (Text × Option NodeId) → Prop} (hst : I st.network st.settled) :
    Ends allowed (listedGraphs material subject names) st fun _ => I := by
  induction names generalizing st with
  | nil => exact .pure hst
  | cons name names ih =>
    refine .get_bind ?_
    split
    · exact .bind (Q := fun _ => I) (.report hst) fun _ _ h => ih h
    · exact .bind (Q := fun _ => I) (ih hst) fun _ _ h => .pure h

theorem ends_materialGraphs {m : Material} {I : Network → List (Text × Option NodeId) → Prop}
    (hst : I st.network st.settled) : Ends allowed m.graphs st fun _ => I := by
  unfold Material.graphs
  split
  · exact .get_bind (.pure hst)
  · split
    · exact .bind (Q := fun _ => I) (.reportAll hst) fun _ _ h => .pure h
    · exact ends_listedGraphs hst

theorem ends_declareMaterials {s : Scope} {done : List Stage.Material} {ms : List Material}
    (hst : s.Fits st.network st.settled) :
    Ends allowed (declareMaterials s done ms) st fun _ => s.Fits := by
  induction ms generalizing st done with
  | nil => exact .pure hst
  | cons m ms ih =>
    refine .bind (Q := fun _ => s.Fits) (.reportUnsupported hst) fun _ st₁ hst₁ => ?_
    split
    · exact .bind (Q := fun _ => s.Fits) (.report hst₁) fun _ _ h => ih h
    · split
      · exact .bind (Q := fun _ => s.Fits) (.report hst₁) fun _ _ h => ih h
      · refine .bind (ends_materialOutput hst₁) fun _ st₂ hst₂ => ?_
        refine .bind (ends_materialOutput hst₂) fun _ st₃ hst₃ => ?_
        exact .bind (ends_materialGraphs hst₃) fun _ st₄ hst₄ => ih hst₄

/-! ## Blueprints -/

def LeftOut (bp : Blueprint) (m : Misuse) : Prop :=
  ∃ b ∈ bp.graphs, ∃ o ∈ b.outputs, o.value = none ∧ o.type = [] ∧
    m = .graphOutputAbsent b.name o.name

/-- Some graph has a name and is the first of that name, and the first of its outputs of some name has
neither a value nor a type. -/
def HasBareOutput (bp : Blueprint) : Prop :=
  ∃ before b after, bp.graphs = before ++ b :: after ∧ b.name ≠ [] ∧
    b.name ∉ before.map (·.name) ∧
    ∃ earlier o later, b.outputs = earlier ++ o :: later ∧ o.name ∉ earlier.map (·.name) ∧
      o.value = none ∧ o.type = []

theorem ends_declare (bp : Blueprint) (base : Text) :
    Ends bp.LeftOut (bp.declare base) ⟨.empty, [], []⟩ fun _ net _ => net.Sound := by
  have hempty : Within (bp.graphs.map (·.name)) .empty := ⟨.empty, by simp [Network.empty]⟩
  refine .bind (Q := fun _ net _ => Within (bp.graphs.map (·.name)) net)
    (ends_declareParameters hempty) fun ps st₁ hst₁ => ?_
  refine .bind (Q := fun _ net _ => Within (bp.graphs.map (·.name)) net)
    (.forM (fun b hb st hst => ?_) hst₁) ?_
  · exact ends_graph hst (List.mem_map_of_mem hb)
      fun o ho hvalue htype => ⟨b, hb, o, ho, hvalue, htype, rfl⟩
  · intro _ st₂ hst₂
    refine .bind (Scope.ends_enter hst₂.sound (by simp)) ?_
    rintro s st₃ ⟨_, honward⟩
    exact (ends_declareMaterials honward.fits).imp fun _ _ _ h => h.sound

theorem stops_declare {bp : Blueprint} (h : bp.HasBareOutput) (base : Text) :
    Ends bp.LeftOut (bp.declare base) ⟨.empty, [], []⟩ fun _ _ _ => False := by
  obtain ⟨before, b, after, hgraphs, hnamed, hfirst, earlier, o, later, houtputs, hslot, hvalue,
    htype⟩ := h
  have hleft : ∀ b ∈ bp.graphs, ∀ o ∈ b.outputs, o.value = none → o.type = [] →
      bp.LeftOut (.graphOutputAbsent b.name o.name) :=
    fun b hb o ho hvalue htype => ⟨b, hb, o, ho, hvalue, htype, rfl⟩
  have hempty : Within (before.map (·.name)) .empty := ⟨.empty, by simp [Network.empty]⟩
  refine .bind (Q := fun _ net _ => Within (before.map (·.name)) net)
    (ends_declareParameters hempty) fun ps st₁ hst₁ => ?_
  refine .bind (Q := fun _ _ _ => False) ?_ fun _ _ hnone => hnone.elim
  rw [hgraphs] at hleft ⊢
  refine .forM_stop (fun c hc st hst => ends_graph hst (List.mem_map_of_mem hc)
    (hleft c (List.mem_append_left _ hc))) hst₁ fun st₂ hst₂ => ?_
  exact stops_graph hst₂ hfirst hnamed houtputs hslot hvalue htype
    (hleft b (List.mem_append_right _ List.mem_cons_self))

def Settled (r : Except Refusal Loaded) : Prop :=
  (∃ l, r = .ok l) ∨ ∃ ds, ds ≠ [] ∧ r = .error (.faults ds)

theorem load_of_ends {bp : Blueprint} {base : Text}
    {P : List Stage.Material → Network → List (Text × Option NodeId) → Prop}
    (h : Ends bp.LeftOut (bp.declare base) ⟨.empty, [], []⟩ P) :
    (Settled (load bp base) ∧ ∃ materials net settled, P materials net settled) ∨
      ∃ m, bp.LeftOut m ∧ load bp base = .error (.misuse m) := by
  unfold Ends at h
  unfold load
  generalize bp.declare base ⟨.empty, [], []⟩ = r at h
  rcases r with ⟨m | materials, st⟩
  · exact Or.inr ⟨m, h, rfl⟩
  · refine Or.inl ⟨?_, materials, st.network, st.settled, h⟩
    dsimp only
    split
    · exact Or.inl ⟨_, rfl⟩
    · rename_i hdiagnostics
      exact Or.inr ⟨_, by simpa using hdiagnostics, rfl⟩

theorem load_cases (bp : Blueprint) (base : Text) :
    Settled (load bp base) ∨ ∃ m, bp.LeftOut m ∧ load bp base = .error (.misuse m) :=
  (load_of_ends (ends_declare bp base)).imp_left And.left

theorem load_of_bare {bp : Blueprint} (h : bp.HasBareOutput) (base : Text) :
    ∃ m, bp.LeftOut m ∧ load bp base = .error (.misuse m) := by
  rcases load_of_ends (stops_declare h base) with ⟨_, _, _, _, hnone⟩ | hmisuse
  · exact hnone.elim
  · exact hmisuse

/-- Loading a blueprint ends with a result or with diagnostics, whatever is wrong with it, unless an
output of a graph that has neither a value nor a type misuses the network. Such an output does misuse
it if it is the first of its name in a graph that is the first of its name. -/
theorem load_misused_by_bare_outputs (bp : Blueprint) (base : Text) :
    (Settled (load bp base) ∨ ∃ m, bp.LeftOut m ∧ load bp base = .error (.misuse m)) ∧
      (bp.HasBareOutput → ∃ m, bp.LeftOut m ∧ load bp base = .error (.misuse m)) :=
  ⟨load_cases bp base, fun h => load_of_bare h base⟩

def bareSource : Text := "node_graph \"G\" \x7b\noutput \"o\" \x7b\x7d\n\x7d\n"

theorem bare_output_misused : ∃ body bp, Config.parseFile bareSource = some body ∧
    decode body = .ok bp ∧ bp.HasBareOutput ∧
      read bareSource "m.hcl" = .error (.misuse (.graphOutputAbsent "G" "o")) := by
  have hall : (match Config.parseFile bareSource with
      | some body => (decode body).toOption.any fun bp => bp.graphs.map (fun b =>
          (b.name, b.outputs.map fun o => (o.name, o.value.isNone, o.type))) =
            [(Text.ofString "G", [(Text.ofString "o", true, [])])]
      | none => false) = true := by
    decide +kernel
  split at hall
  · rename_i body hbody
    obtain ⟨bp, hbp, hmap⟩ := Outcome.exists_of_any hall
    obtain ⟨b, hgraphs, hb⟩ := List.map_eq_singleton_iff.mp (of_decide_eq_true hmap)
    obtain ⟨hname, houtputs⟩ := Prod.mk.inj hb
    obtain ⟨o, houtputs, ho⟩ := List.map_eq_singleton_iff.mp houtputs
    obtain ⟨hslot, ho⟩ := Prod.mk.inj ho
    obtain ⟨hvalue, htype⟩ := Prod.mk.inj ho
    have hbare : bp.HasBareOutput := by
      refine ⟨[], b, [], hgraphs, ?_, by simp, [], o, [], houtputs, by simp,
        Option.isNone_iff_eq_none.mp hvalue, htype⟩
      rw [hname]
      decide
    obtain ⟨m, ⟨b', hb', o', ho', _, _, rfl⟩, hload⟩ :=
      (load_misused_by_bare_outputs bp (Path.directory "m.hcl")).2 hbare
    rw [hgraphs, List.mem_singleton] at hb'
    subst hb'
    rw [houtputs, List.mem_singleton] at ho'
    subst ho'
    rw [hname, hslot] at hload
    refine ⟨body, bp, hbody, hbp, hbare, ?_⟩
    rw [read, hbody]
    simp only [hbp]
    exact hload
  · cases hall

/-! ## Files -/

theorem decode_error {body : Config.Body} {problems : List Config.Problem}
    (h : decode body = .error problems) : problems ≠ [] := by
  unfold decode at h
  split at h
  split at h
  · cases h
  · rename_i hnone
    obtain rfl := Except.error.inj h
    simpa using hnone

theorem read_cases (source filename : Text) :
    read source filename = .error .malformed ∨ Settled (read source filename) ∨
      ∃ body bp m, Config.parseFile source = some body ∧ decode body = .ok bp ∧ bp.LeftOut m ∧
        read source filename = .error (.misuse m) := by
  unfold read
  cases hbody : Config.parseFile source with
  | none => exact Or.inl rfl
  | some body =>
    dsimp only
    cases hdecode : decode body with
    | error problems =>
      exact Or.inr (Or.inl (Or.inr ⟨_, mt List.map_eq_nil_iff.mp (decode_error hdecode), rfl⟩))
    | ok bp =>
      rcases load_cases bp (Path.directory filename) with h | ⟨m, hm, h⟩
      · exact Or.inr (Or.inl h)
      · exact Or.inr (Or.inr ⟨body, bp, m, rfl, hdecode, hm, h⟩)

end ShaderGraph.Blueprint
