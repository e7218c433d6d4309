import Mathlib.Data.Finset.Image
import ShaderGraph.Proofs.Reach
import ShaderGraph.Proofs.Refusal
import ShaderGraph.Proofs.Relabel

/-!
# Networks inside networks

A network is embedded in another one if a renaming takes its nodes to nodes of the other one, and if
graphs keep their names, and those of a given list also their slots. The other network may have more
nodes and graphs. Whatever a compilation asks of the first network has the same answer in the other
one, up to the renaming, as long as it does not follow a handle that leads nowhere. So a compilation
goes through both in step: the same problems in the same order, or the renamed document.
-/
namespace ShaderGraph

/-! ## Outcomes that are carried over -/

inductive Misuse.Dangling : Misuse → Prop
  | node (id : NodeId) : Dangling (.nodeHandle id)
  | graph (id : GraphId) : Dangling (.graphHandle id)

/-- The second outcome is the first one with its result carried over by `f`. Nothing is said if the
first one has followed a dangling handle. -/
def Carried {α β : Type} (f : α → β) (x : Except Misuse α) (y : Except Misuse β) : Prop :=
  (∃ m, m.Dangling ∧ x = .error m) ∨ y = x.map f

namespace Carried

variable {α β γ δ : Type} {f : α → β} {g : γ → δ}

theorem dangling {m : Misuse} (hm : m.Dangling) (y : Except Misuse β) : Carried f (.error m) y :=
  Or.inl ⟨m, hm, rfl⟩

theorem ok (a : α) : Carried f (.ok a) (.ok (f a)) := Or.inr rfl

theorem error (m : Misuse) : Carried f (.error m) (.error m) := Or.inr rfl

theorem pure {a : α} {b : β} (h : b = f a) : Carried f (pure a) (pure b) :=
  Or.inr (congrArg Except.ok h)

theorem refl (x : Except Misuse α) : Carried id x x := by
  cases x with
  | error m => exact .error m
  | ok a => exact .ok a

theorem bind {x : Except Misuse α} {y : Except Misuse β} {k : α → Except Misuse γ}
    {l : β → Except Misuse δ} (h : Carried f x y) (hk : ∀ a, Carried g (k a) (l (f a))) :
    Carried g (x >>= k) (y >>= l) := by
  rcases h with ⟨m, hm, rfl⟩ | rfl
  · exact .dangling hm _
  · cases x with
    | error m => exact .error m
    | ok a => exact hk a

theorem mapM {k : α → Except Misuse γ} {l : β → Except Misuse δ} {xs : List α}
    (h : ∀ a ∈ xs, Carried g (k a) (l (f a))) :
    Carried (List.map g) (xs.mapM k) ((xs.map f).mapM l) := by
  induction xs with
  | nil => exact .ok []
  | cons a xs ih =>
    obtain ⟨ha, hxs⟩ := List.forall_mem_cons.mp h
    rw [List.map_cons, List.mapM_cons, List.mapM_cons]
    exact ha.bind fun c => (ih hxs).bind fun cs => .ok (c :: cs)

theorem mapM_same {k l : α → Except Misuse γ} {g : γ → γ} {xs : List α}
    (h : ∀ a ∈ xs, Carried g (k a) (l a)) : Carried (List.map g) (xs.mapM k) (xs.mapM l) := by
  have hmap := Carried.mapM (f := id) h
  rwa [List.map_id] at hmap

end Carried

/-! ## Walks -/

namespace Fifo

variable {ρ : NodeId → NodeId}

def rename (ρ : NodeId → NodeId) (s : Fifo) : Fifo :=
  ⟨s.queue.map ρ, s.visited.image ρ, s.emitted.map ρ⟩

theorem offer_rename (hρ : Function.Injective ρ) (s : Fifo) (id : NodeId) :
    (s.rename ρ).offer (ρ id) = (s.offer id).rename ρ := by
  simp only [offer, rename, hρ.mem_finset_image, List.mem_map_of_injective hρ]
  split
  · rfl
  · simp

theorem offers_rename (hρ : Function.Injective ρ) (ids : List NodeId) (s : Fifo) :
    (ids.map ρ).foldl offer (s.rename ρ) = (ids.foldl offer s).rename ρ := by
  induction ids generalizing s with
  | nil => rfl
  | cons id ids ih => rw [List.map_cons, List.foldl_cons, List.foldl_cons, offer_rename hρ, ih]

end Fifo

namespace Network

structure Embeds (ρ : NodeId → NodeId) (listed : List GraphId) (net net' : Network) : Prop where
  injective : Function.Injective ρ
  nodes : ∀ id n, net.node? id = some n → net'.node? (ρ id) = some (n.rename ρ)
  names : ∀ k g, net.graph? k = some g → ∃ g', net'.graph? k = some g' ∧ g'.name = g.name
  listed : ∀ k ∈ listed, ∀ g, net.graph? k = some g → net'.graph? k = some (g.rename ρ)

namespace Embeds

variable {ρ : NodeId → NodeId} {listed : List GraphId} {net net' : Network}
  (h : net.Embeds ρ listed net')
include h

theorem node (id : NodeId) : Carried (Node.rename ρ) (net.node id) (net'.node (ρ id)) := by
  cases hn : net.node? id with
  | none =>
    rw [Network.node, hn]
    exact .dangling (.node id) _
  | some n =>
    rw [Network.node, hn, node_eq_ok.mpr (h.nodes id n hn)]
    exact .ok n

theorem graph {k : GraphId} (hk : k ∈ listed) :
    Carried (NodeGraph.rename ρ) (net.graph k) (net'.graph k) := by
  cases hg : net.graph? k with
  | none =>
    rw [Network.graph, hg]
    exact .dangling (.graph k) _
  | some g =>
    rw [Network.graph, hg, graph_eq_ok.mpr (h.listed k hk g hg)]
    exact .ok g

theorem name {α β : Type} {f : α → β} (k : GraphId) {F : NodeGraph → Except Misuse α}
    {F' : NodeGraph → Except Misuse β}
    (hF : ∀ g g' : NodeGraph, g'.name = g.name → Carried f (F g) (F' g')) :
    Carried f (net.graph k >>= F) (net'.graph k >>= F') := by
  cases hg : net.graph? k with
  | none =>
    rw [Network.graph, hg]
    exact .dangling (.graph k) _
  | some g =>
    obtain ⟨g', hg', hname⟩ := h.names k g hg
    rw [Network.graph, hg, graph_eq_ok.mpr hg']
    exact hF g g' hname

theorem step {s t : Fifo} (hs : Fifo.Step net s t) : Fifo.Step net' (s.rename ρ) (t.rename ρ) := by
  obtain @⟨id, rest, visited, emitted, n, hn⟩ := hs
  have hpop : Fifo.Step net' ⟨ρ id :: rest.map ρ, visited.image ρ, emitted.map ρ⟩ _ :=
    .pop (h.nodes id n hn)
  have hstate : (⟨rest.map ρ, insert (ρ id) (visited.image ρ), emitted.map ρ ++ [ρ id]⟩ : Fifo) =
      Fifo.rename ρ ⟨rest, insert id visited, emitted ++ [id]⟩ := by
    simp [Fifo.rename, Finset.image_insert]
  rwa [Node.sources_rename, hstate, Fifo.offers_rename h.injective] at hpop

theorem run {s t : Fifo} (hs : Relation.ReflTransGen (Fifo.Step net) s t) :
    Relation.ReflTransGen (Fifo.Step net') (s.rename ρ) (t.rename ρ) := by
  induction hs with
  | refl => exact .refl
  | tail _ hstep ih => exact ih.tail (h.step hstep)

theorem reachable (roots : List NodeId) :
    Carried (List.map ρ) (net.reachable roots) (net'.reachable (roots.map ρ)) := by
  rcases net.appendReachable_cases [] roots with ⟨visited, ids, hok, hrun⟩ | ⟨id, herror, _⟩
  · have hstart : Fifo.start (roots.map ρ) = (Fifo.start roots).rename ρ :=
      Fifo.offers_rename h.injective roots ⟨[], ∅, []⟩
    have hrun' := h.run hrun
    rw [← hstart] at hrun'
    obtain ⟨hvalid, hbfs⟩ := Fifo.breadthFirst_of_run hrun'
    rw [Network.reachable, Network.reachable, hok]
    -- The renamed walk is a walk to the end, and there is only one.
    rcases net'.appendReachable_cases [] (roots.map ρ) with
      ⟨_, ids', hok', hrun'⟩ | ⟨id, _, hnone, hreach⟩
    · rw [hok', (Fifo.breadthFirst_of_run hrun').2.unique hbfs]
      exact .ok ids
    · have hsome := hvalid id hreach
      rw [hnone] at hsome
      cases hsome
  · rw [Network.reachable, herror]
    exact .dangling (.node id) _

theorem reachableNodes (roots : List NodeId) :
    Carried (List.map (Node.rename ρ)) (net.reachableNodes roots)
      (net'.reachableNodes (roots.map ρ)) :=
  (h.reachable roots).bind fun _ => .mapM fun id _ => h.node id

theorem reachedFrom (values : List Value) :
    Carried (List.map (Node.rename ρ)) (net.reachableNodes (rootNodes values))
      (net'.reachableNodes (rootNodes (values.map (Value.rename ρ)))) := by
  rw [rootNodes_rename h.injective]
  exact h.reachableNodes _

theorem parameters (policy : ParameterPolicy) (values : List Value) :
    Carried id (net.parameters policy (rootNodes values))
      (net'.parameters policy (rootNodes (values.map (Value.rename ρ)))) := by
  refine (h.reachedFrom values).bind fun ns => .pure ?_
  simp only [List.flatMap_map, Node.parameters_rename]
  rfl

theorem faults (values : List Value) :
    Carried id (net.faults values) (net'.faults (values.map (Value.rename ρ))) := by
  refine (h.reachedFrom values).bind fun ns => .pure ?_
  simp only [List.flatMap_map, List.filterMap_map, Function.comp_def, Value.fault?_rename,
    Node.faults_rename]
  rfl

end Embeds
end Network

/-! ## Compilations -/

namespace Stage

open Renderer

theorem parameterDeclaration_carried (ρ : NodeId → NodeId) (net net' : Network) (p : Parameter) :
    Carried (Declaration.rename ρ) ((renderer net).parameterDeclaration p)
      ((renderer net').parameterDeclaration p) :=
  (Carried.refl _).bind fun _ => (Carried.refl _).bind fun _ => .pure rfl

theorem graphInputDeclaration_carried (ρ : NodeId → NodeId) (net net' : Network) (i : GraphInput) :
    Carried (Declaration.rename ρ) ((renderer net).graphInputDeclaration i)
      ((renderer net').graphInputDeclaration i) :=
  (Carried.refl _).bind fun _ => (Carried.refl _).bind fun _ => .pure rfl

variable {ρ : NodeId → NodeId} {listed : List GraphId} {net net' : Network}

section

variable (h : net.Embeds ρ listed net')
include h

theorem listedGraphs_carried (material : Text) (earlier ids : List GraphId)
    (hids : ∀ k ∈ ids, k ∈ listed) :
    Carried (Prod.map id (List.map (Value.rename ρ))) (listedGraphs net material earlier ids)
      (listedGraphs net' material earlier ids) := by
  induction ids generalizing earlier with
  | nil => exact .ok _
  | cons k ids ih =>
    obtain ⟨hk, hrest⟩ := List.forall_mem_cons.mp hids
    refine (h.graph hk).bind fun g => (ih (k :: earlier) hrest).bind fun ⟨faults, values⟩ => ?_
    dsimp only [Prod.map]
    split
    · exact .pure rfl
    · refine .pure ?_
      rw [NodeGraph.outputValues_rename, ← List.map_append]
      rfl

theorem unlistedGraphs_carried (mat : Material) (values : List Value) :
    Carried id (unlistedGraphs net mat values)
      (unlistedGraphs net' (mat.rename ρ) (values.map (Value.rename ρ))) := by
  refine (h.reachedFrom values).bind fun ns => ?_
  have hused : ((ns.map (Node.rename ρ)).filter Node.isReference).map (·.graph) =
      (ns.filter Node.isReference).map (·.graph) := by
    rw [List.filter_map, List.map_map]
    rfl
  rw [hused, ← List.map_id_fun]
  exact .mapM_same fun k _ => h.name k fun g g' hname => .pure (by rw [hname]; rfl)

theorem assignment_carried (entity : Text) (v : Value) : Carried (Assignment.rename ρ)
    (assignment net entity v) (assignment net' entity (v.rename ρ)) := by
  obtain ⟨type, source⟩ := v
  cases source with
  | absent => exact .error _
  | constant c =>
    cases c with
    | none => exact .error _
    | some c => exact .ok _
  | node id slot => exact .ok _
  | graphInput k slot => exact h.name k fun g g' hname => .pure (by rw [hname]; rfl)
  | parameter name default => exact .ok _
  | fault message => exact .ok _

theorem inputDeclaration_carried (entity : Text) (i : Input) : Carried (Declaration.rename ρ)
    ((renderer net).inputDeclaration entity i) ((renderer net').inputDeclaration entity (i.rename ρ)) := by
  have ha : Carried (Assignment.rename ρ) ((renderer net).inputAssignment entity i.value)
      ((renderer net').inputAssignment entity (i.value.rename ρ)) := by
    rw [inputAssignment, inputAssignment, Value.isAbsent_rename]
    split
    · exact .ok _
    · exact assignment_carried h entity i.value
  exact ha.bind fun a => .pure rfl

theorem nodeKind_carried (n : Node) : Carried id (nodeKind net n) (nodeKind net' (n.rename ρ)) := by
  have href : (n.rename ρ).isReference = n.isReference := rfl
  rw [nodeKind, nodeKind, href]
  split
  · exact h.name n.graph fun g g' hname => .pure (by rw [hname]; rfl)
  · exact .ok _

theorem nodeBlock_carried (entity : Text) (id : NodeId) (n : Node) : Carried (NodeBlock.rename ρ)
    ((renderer net).nodeBlock net entity id n)
    ((renderer net').nodeBlock net' entity (ρ id) (n.rename ρ)) := by
  refine (nodeKind_carried h n).bind fun kind => ?_
  refine (Carried.mapM fun i _ => inputDeclaration_carried h entity i).bind fun inputs => .pure ?_
  have houtputs : (n.outputs.map outputDeclaration).map (Declaration.rename ρ) =
      n.outputs.map outputDeclaration := by
    rw [List.map_map]
    rfl
  rw [NodeBlock.rename, List.map_append, houtputs]
  rfl

theorem nodeBlocks_carried (entity : Text) (values : List Value) :
    Carried (List.map (NodeBlock.rename ρ))
      ((renderer net).nodeBlocks net entity (rootNodes values))
      ((renderer net').nodeBlocks net' entity (rootNodes (values.map (Value.rename ρ)))) := by
  rw [rootNodes_rename h.injective]
  exact (h.reachable _).bind fun _ => .mapM fun id _ =>
    (h.node id).bind fun n => nodeBlock_carried h entity id n

theorem slotDeclaration_carried (entity slot : Text) (v : Value) : Carried (Declaration.rename ρ)
    ((renderer net).slotDeclaration entity slot v) ((renderer net').slotDeclaration entity slot (v.rename ρ)) := by
  have ha : Carried (Assignment.rename ρ) ((renderer net).slotAssignment entity v)
      ((renderer net').slotAssignment entity (v.rename ρ)) := by
    rw [slotAssignment, slotAssignment, Value.node?_rename, Option.isSome_map]
    split
    · exact assignment_carried h entity v
    · exact .ok _
  exact ha.bind fun a => .pure rfl

theorem materialEntity_carried (mat : Material) (parameters : List Parameter) :
    Carried (Entity.rename ρ) ((renderer net).materialEntity net mat parameters)
      ((renderer net').materialEntity net' (mat.rename ρ) parameters) := by
  refine (Carried.mapM_same fun p _ => parameterDeclaration_carried ρ net net' p).bind fun inputs => ?_
  refine (slotDeclaration_carried h _ _ mat.surface).bind fun surface => ?_
  refine (slotDeclaration_carried h _ _ mat.geometryModifier).bind fun vertex => ?_
  refine (nodeBlocks_carried h _ _).bind fun nodes => .pure ?_
  rw [Entity.rename, List.map_append]
  rfl

theorem graphOutputDeclarations_carried (entity : Text) (o : GraphOutput) :
    Carried (List.map (Declaration.rename ρ)) ((renderer net).graphOutputDeclarations entity o)
      ((renderer net').graphOutputDeclarations entity (o.rename ρ)) :=
  (assignment_carried h entity o.value).bind fun _ => .pure rfl

theorem graphEntity_carried {k : GraphId} (hk : k ∈ listed) :
    Carried (Entity.rename ρ) ((renderer net).graphEntity net k) ((renderer net').graphEntity net' k) := by
  refine (h.graph hk).bind fun g => ?_
  refine (Carried.mapM_same fun i _ => graphInputDeclaration_carried ρ net net' i).bind fun inputs => ?_
  refine (Carried.mapM fun o _ => graphOutputDeclarations_carried h g.name o).bind fun outputs => ?_
  rw [NodeGraph.outputValues_rename]
  refine (nodeBlocks_carried h _ _).bind fun nodes => .pure ?_
  rw [Entity.rename, List.map_append, List.map_flatten]
  rfl

end

variable {mat : Material} (h : net.Embeds ρ mat.nodeGraphs net')
include h

theorem check_carried (settings : Settings) :
    Carried id (check settings net mat) (check settings net' (mat.rename ρ)) := by
  refine (listedGraphs_carried h _ _ _ fun _ hk => hk).bind fun ⟨listed, outputs⟩ => ?_
  refine (unlistedGraphs_carried h mat (_ :: _ :: outputs)).bind fun unlisted => ?_
  refine (h.faults (_ :: _ :: outputs)).bind fun faults => ?_
  refine (h.parameters _ [mat.surface, mat.geometryModifier]).bind fun collected => ?_
  refine (Carried.refl _).bind fun conflicts => .pure ?_
  simp only [Material.rename, outputFaults_rename]
  rfl

theorem build_carried (settings : Settings) (parameters : List Parameter) :
    Carried (Compiled.rename ρ) ((renderer net).build settings net mat parameters)
      ((renderer net').build settings net' (mat.rename ρ) parameters) := by
  refine (materialEntity_carried h mat parameters).bind fun material => ?_
  exact (Carried.mapM_same fun k hk => graphEntity_carried h hk).bind fun graphs => .pure rfl

/-- A compilation goes through both networks in step, up to the first dangling handle. -/
theorem compile_carried (settings : Settings) :
    (∃ m, m.Dangling ∧ compile settings net mat = .error (.misuse m)) ∨
      compile settings net' (mat.rename ρ) = (compile settings net mat).map (Compiled.rename ρ) := by
  by_cases hn : mat.name = []
  · have hn' : (mat.rename ρ).name = [] := hn
    rw [compile_unnamed hn, compile_unnamed hn']
    exact Or.inr rfl
  have hn' : (mat.rename ρ).name ≠ [] := hn
  rcases check_carried h settings with ⟨m, hm, hcheck⟩ | hcheck'
  · exact Or.inl ⟨m, hm, compile_unchecked hn hcheck⟩
  · cases hcheck : check settings net mat with
    | error m =>
      rw [hcheck] at hcheck'
      rw [compile_unchecked hn hcheck, compile_unchecked hn' hcheck']
      exact Or.inr rfl
    | ok r =>
      obtain ⟨faults, parameters⟩ := r
      rw [hcheck] at hcheck'
      rw [compile_checked hn hcheck, compile_checked hn' hcheck']
      split
      · rcases build_carried h settings parameters with ⟨m, hm, hb⟩ | hb
        · exact Or.inl ⟨m, hm, by rw [hb]; rfl⟩
        · rw [hb]
          cases (renderer net).build settings net mat parameters <;> exact Or.inr rfl
      · exact Or.inr rfl

end Stage
end ShaderGraph
