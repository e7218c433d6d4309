import ShaderGraph.Proofs.Emission
import ShaderGraph.Proofs.Faults

/-!
# The order in which graphs are listed

A material lists the node graphs to define beside it. Every check runs over this list or over what it
reaches, in order, and skips what it has met before. Here two lists with the same entries are compared.
Step by step, the checks of both succeed or fail together, and what they find is the same up to order.
So both materials are refused, with the same messages, or both are accepted, with the same document but
for the order of the blocks of the graphs.
-/
namespace ShaderGraph

/-! ## Steps that end alike -/

namespace Outcome

variable {ε α β γ δ : Type}

inductive Together (R : α → β → Prop) : Except ε α → Except ε β → Prop
  | ok {a : α} {b : β} : R a b → Together R (.ok a) (.ok b)
  | error (e e' : ε) : Together R (.error e) (.error e')

namespace Together

theorem refl {R : α → α → Prop} (hR : ∀ a, R a a) (x : Except ε α) : Together R x x := by
  cases x with
  | error e => exact .error e e
  | ok a => exact .ok (hR a)

theorem trans {R : α → α → Prop} (hR : ∀ {a b c}, R a b → R b c → R a c) {x y z : Except ε α}
    (hxy : Together R x y) (hyz : Together R y z) : Together R x z := by
  cases hxy with
  | error e e' =>
    cases hyz with
    | error _ e'' => exact .error e e''
  | ok hab =>
    cases hyz with
    | ok hbc => exact .ok (hR hab hbc)

theorem bind {R : α → β → Prop} {S : γ → δ → Prop} {x : Except ε α} {y : Except ε β}
    {k : α → Except ε γ} {l : β → Except ε δ} (h : Together R x y)
    (hk : ∀ a b, R a b → Together S (k a) (l b)) : Together S (x >>= k) (y >>= l) := by
  cases h with
  | error e e' => exact .error e e'
  | ok hab => exact hk _ _ hab

theorem bind_same {S : γ → δ → Prop} (x : Except ε α) {k : α → Except ε γ} {l : α → Except ε δ}
    (h : ∀ a, Together S (k a) (l a)) : Together S (x >>= k) (x >>= l) := by
  cases x with
  | error e => exact .error e e
  | ok a => exact h a

theorem bind_comm {S : γ → δ → Prop} (x : Except ε α) (y : Except ε β)
    {k : α → β → Except ε γ} {l : α → β → Except ε δ} (h : ∀ a b, Together S (k a b) (l a b)) :
    Together S (x >>= fun a => y >>= fun b => k a b) (y >>= fun b => x >>= fun a => l a b) := by
  cases x with
  | error e =>
    cases y with
    | error e' => exact .error e e'
    | ok b => exact .error e e
  | ok a => exact .bind_same y fun b => h a b

theorem error_left {R : α → β → Prop} {e : ε} {y : Except ε β} (h : Together R (.error e) y) :
    ∃ e', y = .error e' := by
  cases h with
  | error _ e' => exact ⟨e', rfl⟩

theorem ok_left {R : α → β → Prop} {a : α} {y : Except ε β} (h : Together R (.ok a) y) :
    ∃ b, y = .ok b ∧ R a b := by
  cases h with
  | ok hab => exact ⟨_, rfl, hab⟩

end Together

theorem mapM_perm (f : α → Except ε β) {xs ys : List α} (h : xs.Perm ys) :
    Together List.Perm (xs.mapM f) (ys.mapM f) := by
  induction h with
  | nil => exact .refl .refl _
  | cons x _ ih =>
    rw [List.mapM_cons, List.mapM_cons]
    exact .bind_same (f x) fun a => ih.bind fun as bs hperm => .ok (hperm.cons a)
  | swap x y xs =>
    simp only [List.mapM_cons, bind_assoc, pure_bind]
    exact .bind_comm (f y) (f x) fun b a => .bind_same (xs.mapM f) fun as => .ok (.swap a b as)
  | trans _ _ ih ih' => exact ih.trans .trans ih'

end Outcome

open Outcome (Together)

/-! ## Roots in another order -/

theorem nodup_discover (seen ids : List NodeId) : (discover seen ids).Nodup := by
  rw [discover_eq_eraseDups]
  exact Fifo.nodup_eraseDups _

theorem discover_perm {seen seen' ids ids' : List NodeId} (hseen : seen.Perm seen')
    (hids : ids.Perm ids') : (discover seen ids).Perm (discover seen' ids') := by
  refine (List.perm_ext_iff_of_nodup (nodup_discover _ _) (nodup_discover _ _)).mpr fun id => ?_
  rw [mem_discover, mem_discover, hids.mem_iff, hseen.mem_iff]

namespace Network

variable {net : Network} {values values' : List Value}

theorem reachableNodes_of_unknown {roots : List NodeId} {id : NodeId}
    (h : net.Reaches roots id) (hn : net.node? id = none) :
    ∃ m, net.reachableNodes roots = .error m := by
  rcases net.appendReachable_cases [] roots with ⟨_, ids, _, hrun⟩ | ⟨k, he, _, _⟩
  · have hsome := (Fifo.breadthFirst_of_run hrun).1 id h
    rw [hn] at hsome
    cases hsome
  · exact ⟨.nodeHandle k, by simp only [reachableNodes, reachable, he, bind, Except.bind]⟩

/-- The order of the values decides only in which order the nodes behind them are met. -/
theorem reachableNodes_perm (net : Network) (h : values.Perm values') : Together List.Perm
    (net.reachableNodes (rootNodes values)) (net.reachableNodes (rootNodes values')) := by
  have hreach : ∀ id, net.ReachesFrom values id ↔ net.ReachesFrom values' id :=
    fun id => reachesFrom_congr fun v => h.mem_iff
  by_cases hv : ∀ id, net.ReachesFrom values id → (net.node? id).isSome = true
  · obtain ⟨ids, ns, hns, hr⟩ := exists_reached hv
    obtain ⟨ids', ns', hns', hr'⟩ := exists_reached fun id hid => hv id ((hreach id).mpr hid)
    have hids : ids.Perm ids' := by
      refine (List.perm_ext_iff_of_nodup hr.order.nodup hr'.order.nodup).mpr fun id => ?_
      rw [hr.order.mem_iff, hr'.order.mem_iff, reaches_rootNodes, reaches_rootNodes, hreach]
    rw [hns, hns', hr.eq_filterMap, hr'.eq_filterMap]
    exact .ok (hids.filterMap _)
  · push Not at hv
    obtain ⟨id, hid, hnone⟩ := hv
    rw [ne_eq, Option.not_isSome_iff_eq_none] at hnone
    obtain ⟨m, hm⟩ := reachableNodes_of_unknown (reaches_rootNodes.mpr hid) hnone
    obtain ⟨m', hm'⟩ :=
      reachableNodes_of_unknown (reaches_rootNodes.mpr ((hreach id).mp hid)) hnone
    rw [hm, hm']
    exact .error m m'

theorem faults_perm (net : Network) (h : values.Perm values') :
    Together List.Perm (net.faults values) (net.faults values') := by
  refine (net.reachableNodes_perm h).bind fun ns ns' hns => .ok ?_
  exact (h.filterMap _).append (hns.flatMap_right _)

end Network

namespace Stage

/-! ## The checks -/

variable {net : Network}

def SameFindings (r r' : List Text × List Value) : Prop := r.1.Perm r'.1 ∧ r.2.Perm r'.2

theorem SameFindings.refl (r : List Text × List Value) : SameFindings r r := ⟨.refl _, .refl _⟩

theorem SameFindings.trans {r s t : List Text × List Value} (h : SameFindings r s)
    (h' : SameFindings s t) : SameFindings r t := ⟨h.1.trans h'.1, h.2.trans h'.2⟩

/-- What an entry of the list adds to the findings: a graph that was listed before adds a problem and
nothing else. -/
def listedGraph (material : Text) (again : Bool) (g : NodeGraph) : List Text × List Value :=
  if again then (["node graph " ++ Text.quote g.name ++ " listed more than once"], [])
  else
    (if g.name = material then
        ["node graph " ++ Text.quote g.name ++ " has the same name as the material"]
      else [], g.outputValues)

theorem listedGraphs_cons (net : Network) (material : Text) (earlier : List GraphId) (id : GraphId)
    (ids : List GraphId) : listedGraphs net material earlier (id :: ids) =
      net.graph id >>= fun g => listedGraphs net material (id :: earlier) ids >>= fun r =>
        pure ((listedGraph material (decide (id ∈ earlier)) g).1 ++ r.1,
          (listedGraph material (decide (id ∈ earlier)) g).2 ++ r.2) := by
  rw [listedGraphs]
  congr 1
  funext g
  congr 1
  funext r
  by_cases hid : id ∈ earlier <;> simp [listedGraph, hid]

theorem listedGraphs_congr (material : Text) {earlier earlier' : List GraphId}
    (h : ∀ id, id ∈ earlier ↔ id ∈ earlier') (ids : List GraphId) :
    listedGraphs net material earlier ids = listedGraphs net material earlier' ids := by
  induction ids generalizing earlier earlier' with
  | nil => rfl
  | cons id ids ih =>
    have hmore : ∀ k, k ∈ id :: earlier ↔ k ∈ id :: earlier' := by simp [h]
    rw [listedGraphs_cons, listedGraphs_cons, ih hmore, decide_eq_decide.mpr (h id)]

theorem listedGraphs_swap (net : Network) (material : Text) (earlier : List GraphId)
    (x y : GraphId) (ids : List GraphId) : Together SameFindings
      (listedGraphs net material earlier (y :: x :: ids))
      (listedGraphs net material earlier (x :: y :: ids)) := by
  by_cases hxy : x = y
  · rw [hxy]
    exact .refl .refl _
  -- Of two different graphs each is listed again exactly if it is without the other.
  have hx : decide (x ∈ y :: earlier) = decide (x ∈ earlier) := by simp [hxy]
  have hy : decide (y ∈ x :: earlier) = decide (y ∈ earlier) := by simp [Ne.symm hxy]
  have hrest : listedGraphs net material (x :: y :: earlier) ids =
      listedGraphs net material (y :: x :: earlier) ids :=
    listedGraphs_congr material (fun id => by simp [or_left_comm]) ids
  simp only [listedGraphs_cons, hx, hy, hrest, bind_assoc, pure_bind]
  refine .bind_comm (net.graph y) (net.graph x) fun h g => ?_
  refine .bind_same (listedGraphs net material (y :: x :: earlier) ids) fun r => .ok ⟨?_, ?_⟩
  · exact List.perm_append_comm_assoc _ _ _
  · exact List.perm_append_comm_assoc _ _ _

theorem listedGraphs_perm (net : Network) (material : Text) {ids ids' : List GraphId}
    (h : ids.Perm ids') (earlier : List GraphId) : Together SameFindings
      (listedGraphs net material earlier ids) (listedGraphs net material earlier ids') := by
  induction h generalizing earlier with
  | nil => exact .refl .refl _
  | cons id _ ih =>
    rw [listedGraphs_cons, listedGraphs_cons]
    refine .bind_same (net.graph id) fun g => (ih (id :: earlier)).bind fun r r' hr => .ok ?_
    exact ⟨hr.1.append_left _, hr.2.append_left _⟩
  | swap x y ids => exact listedGraphs_swap net material earlier x y ids
  | trans _ _ ih ih' => exact (ih earlier).trans .trans (ih' earlier)

theorem unlistedGraphs_perm (net : Network) {mat : Material} {order : List GraphId}
    (h : mat.nodeGraphs.Perm order) {values values' : List Value} (hv : values.Perm values') :
    Together List.Perm (unlistedGraphs net mat values)
      (unlistedGraphs net { mat with nodeGraphs := order } values') := by
  refine (net.reachableNodes_perm hv).bind fun ns ns' hns => ?_
  exact Outcome.mapM_perm _ (discover_perm h ((hns.filter _).map _))

theorem check_perm (settings : Settings) (net : Network) {mat : Material} {order : List GraphId}
    (h : mat.nodeGraphs.Perm order) : Together (fun r r' => r.1.Perm r'.1 ∧ r.2 = r'.2)
      (check settings net mat) (check settings net { mat with nodeGraphs := order }) := by
  refine (listedGraphs_perm net mat.name h []).bind fun r r' hr => ?_
  have hvalues := (hr.2.cons mat.geometryModifier).cons mat.surface
  refine (unlistedGraphs_perm net h hvalues).bind fun unlisted unlisted' hunlisted => ?_
  refine (net.faults_perm hvalues).bind fun faults faults' hfaults => ?_
  -- Neither the parameters nor their conflicts depend on the list.
  refine .bind_same _ fun collected => .bind_same _ fun conflicts => .ok ⟨?_, rfl⟩
  exact (((hr.1.append_left _).append hunlisted).append hfaults).append_right _

/-! ## Documents -/

/-- What two lists of graphs come to, with the same entries in different orders: one document but for
the order of the blocks of the graphs, the same messages in some order, or no result at all. -/
inductive Reordered (net : Network) (dst : List Text) (ids ids' : List GraphId) :
    Except Misuse Appended → Except Misuse Appended → Prop
  | accepted (header : Header) (material : Entity) (block : GraphId → Entity)
      (textures : List (Text × TextureSource)) : (∀ k ∈ ids, (renderer net).graphEntity net k = .ok (block k)) →
      Reordered net dst ids ids'
        (.ok ⟨dst ++ (Document.mk header material (ids.map block)).lines, textures, none⟩)
        (.ok ⟨dst ++ (Document.mk header material (ids'.map block)).lines, textures, none⟩)
  | refused {messages messages' : List Text} : messages ≠ [] → messages.Perm messages' →
      Reordered net dst ids ids' (.ok ⟨dst, [], some (.faults messages)⟩)
        (.ok ⟨dst, [], some (.faults messages')⟩)
  | unnamed : Reordered net dst ids ids' (.ok ⟨dst, [], some .emptyName⟩)
      (.ok ⟨dst, [], some .emptyName⟩)
  | misused (m m' : Misuse) : Reordered net dst ids ids' (.error m) (.error m')

theorem graphEntities_perm (net : Network) {ids ids' : List GraphId} (h : ids.Perm ids') :
    Together (fun es es' => ∃ block : GraphId → Entity,
        (∀ k ∈ ids, (renderer net).graphEntity net k = .ok (block k)) ∧ es = ids.map block ∧ es' = ids'.map block)
      (ids.mapM ((renderer net).graphEntity net)) (ids'.mapM ((renderer net).graphEntity net)) := by
  have hperm := Outcome.mapM_perm ((renderer net).graphEntity net) h
  cases hes : ids.mapM ((renderer net).graphEntity net) with
  | error e =>
    obtain ⟨e', he'⟩ := (hes ▸ hperm).error_left
    rw [he']
    exact .error e e'
  | ok es =>
    have : Nonempty Entity := ⟨⟨[], [], []⟩⟩
    choose! block hblock using Outcome.exists_mapM.mp ⟨es, hes⟩
    have hmap : ∀ {ks : List GraphId}, (∀ k ∈ ks, (renderer net).graphEntity net k = .ok (block k)) →
        ks.mapM ((renderer net).graphEntity net) = .ok (ks.map block) := fun hks =>
      Outcome.mapM_eq_ok.mpr (List.forall₂_map_right_iff.mpr (List.forall₂_same.mpr hks))
    rw [← hes, hmap hblock, hmap fun k hk => hblock k (h.mem_iff.mpr hk)]
    exact .ok ⟨block, hblock, rfl, rfl⟩

theorem build_perm (settings : Settings) (net : Network) {mat : Material} {order : List GraphId}
    (h : mat.nodeGraphs.Perm order) (parameters : List Parameter) :
    Together (fun c c' => ∃ header material block textures,
        (∀ k ∈ mat.nodeGraphs, (renderer net).graphEntity net k = .ok (block k)) ∧
        c = ⟨⟨header, material, mat.nodeGraphs.map block⟩, textures⟩ ∧
        c' = ⟨⟨header, material, order.map block⟩, textures⟩)
      ((renderer net).build settings net mat parameters)
      ((renderer net).build settings net { mat with nodeGraphs := order } parameters) := by
  refine .bind_same ((renderer net).materialEntity net mat parameters) fun material => ?_
  refine (graphEntities_perm net h).bind fun es es' hes => .ok ?_
  obtain ⟨block, hblock, rfl, rfl⟩ := hes
  exact ⟨_, material, block, _, hblock, rfl, rfl⟩

/-- Listing the same graphs in another order changes nothing but the order of their blocks, and if
there are problems, at most the order of the messages. -/
theorem appendLines_reordered (settings : Settings) (dst : List Text) (net : Network)
    (mat : Material) {order : List GraphId} (h : mat.nodeGraphs.Perm order) :
    Reordered net dst mat.nodeGraphs order (appendLines settings dst net mat)
      (appendLines settings dst net { mat with nodeGraphs := order }) := by
  unfold appendLines
  by_cases hn : mat.name = []
  · have hempty : compile settings net { mat with nodeGraphs := order } = .error .emptyName :=
      compile_unnamed hn
    rw [compile_unnamed hn, hempty]
    exact .unnamed
  have hn' : ({ mat with nodeGraphs := order } : Material).name ≠ [] := hn
  have hcheck := check_perm settings net h
  cases hr : check settings net mat with
  | error m =>
    obtain ⟨m', hr'⟩ := (hr ▸ hcheck).error_left
    rw [compile_unchecked hn hr, compile_unchecked hn' hr']
    exact .misused m m'
  | ok r =>
    obtain ⟨faults, parameters⟩ := r
    obtain ⟨⟨faults', parameters'⟩, hr', hfaults, hparameters⟩ := (hr ▸ hcheck).ok_left
    obtain rfl : parameters = parameters' := hparameters
    rw [compile_checked hn hr, compile_checked hn' hr']
    by_cases hnone : faults = []
    · subst hnone
      obtain rfl : faults' = [] := hfaults.nil_eq.symm
      have hbuild := build_perm settings net h parameters
      cases hb : (renderer net).build settings net mat parameters with
      | error m =>
        obtain ⟨m', hb'⟩ := (hb ▸ hbuild).error_left
        rw [hb']
        exact .misused m m'
      | ok c =>
        obtain ⟨c', hb', header, material, block, textures, hblock, rfl, rfl⟩ :=
          (hb ▸ hbuild).ok_left
        rw [hb']
        exact .accepted header material block textures hblock
    · have hsome : faults' ≠ [] := fun he => hnone (he ▸ hfaults).eq_nil
      rw [if_neg (by simpa using hnone), if_neg (by simpa using hsome)]
      exact .refused hnone hfaults

def shelf : Network :=
  .after [.graph "Tone", .graphOutput 1 "x" (.ofConstant (.bool true)),
    .graph "Glow", .graphOutput 2 "x" (.ofConstant (.bool false)),
    .graph "Haze", .graphOutput 3 "x" (.ofFault DataType.bool "dim"),
    .graph "Mist", .graphOutput 4 "x" (.ofFault DataType.bool "worn")]

def shelfMaterial (ids : List GraphId) : Material := ⟨"M", .absent, .absent, ids⟩

theorem shelf_reordered :
    (∃ r r', appendLines .standard [] shelf (shelfMaterial [1, 2]) = .ok r ∧
      appendLines .standard [] shelf (shelfMaterial [2, 1]) = .ok r' ∧
      r.error = none ∧ r.lines ≠ r'.lines ∧
      Reordered shelf [] [1, 2] [2, 1] (.ok r) (.ok r')) ∧
    appendLines .standard [] shelf (shelfMaterial [3, 1, 4, 3]) = .ok ⟨[], [],
        some (.faults ["node graph \"Haze\" listed more than once", "dim", "worn"])⟩ ∧
      appendLines .standard [] shelf (shelfMaterial [4, 3, 3, 1]) = .ok ⟨[], [],
        some (.faults ["node graph \"Haze\" listed more than once", "worn", "dim"])⟩ ∧
      Reordered shelf [] [3, 1, 4, 3] [4, 3, 3, 1]
        (appendLines .standard [] shelf (shelfMaterial [3, 1, 4, 3]))
        (appendLines .standard [] shelf (shelfMaterial [4, 3, 3, 1])) := by
  have hgood : [1, 2].Perm [2, 1] := by decide
  have hbad : [3, 1, 4, 3].Perm [4, 3, 3, 1] := by decide
  constructor
  · have hr := appendLines_reordered .standard [] shelf (shelfMaterial [1, 2]) hgood
    obtain ⟨r, hok, haccepted⟩ := Outcome.exists_of_any
      (x := appendLines .standard [] shelf (shelfMaterial [1, 2]))
      (q := fun r => r.error.isNone &&
        (appendLines .standard [] shelf (shelfMaterial [2, 1])).toOption.any (·.lines != r.lines))
      (by decide +kernel)
    obtain ⟨hnone, hother⟩ := Bool.and_eq_true_iff.mp haccepted
    obtain ⟨r', hok', hne⟩ := Outcome.exists_of_any hother
    refine ⟨r, r', hok, hok', by simpa using hnone, Ne.symm (by simpa using hne), ?_⟩
    rw [← hok, ← hok']
    exact hr
  · exact ⟨by decide +kernel, by decide +kernel,
      appendLines_reordered .standard [] shelf (shelfMaterial [3, 1, 4, 3]) hbad⟩

end Stage
end ShaderGraph
