import ShaderGraph.Network.Reach
import ShaderGraph.Proofs.Fifo
import ShaderGraph.Proofs.Growth

/-!
# The reachable nodes in order

The walk keeps one list that is at once what it has emitted and what still waits, with a position
between the two. `Tracks` relates it to the walk with a queue of its own: the part of the list
before the position is what was emitted, the part after it is the queue, and what was seen is both.
A walk that ends has emitted the reachable nodes breadth first; one that fails has met a handle
without a node.
-/
namespace ShaderGraph

structure BreadthFirst (net : Network) (roots ids : List NodeId) : Prop where
  nodup : ids.Nodup
  mem_iff : ∀ id, id ∈ ids ↔ net.Reaches roots id
  roots_first : roots.eraseDups <+: ids
  fifo : ∃ visited, Relation.ReflTransGen (Fifo.Step net) (Fifo.start roots) ⟨[], visited, ids⟩
  sorted : ids.Pairwise fun a b => net.distance roots a ≤ net.distance roots b

theorem Fifo.breadthFirst_of_run {net : Network} {roots ids : List NodeId} {visited : Finset NodeId}
    (h : Relation.ReflTransGen (Step net) (start roots) ⟨[], visited, ids⟩) :
    (∀ id, net.Reaches roots id → (net.node? id).isSome = true) ∧ BreadthFirst net roots ids := by
  have he := (Explored.start net roots).run h
  have hmem : ∀ id, id ∈ ids ↔ net.Reaches roots id :=
    fun id => ⟨fun hid => he.reached id (List.mem_append_left _ hid), fun hr => he.complete rfl hr⟩
  refine ⟨fun id hr => ?_, by simpa using he.nodup, hmem, by simpa using he.first, ⟨visited, h⟩,
    he.sorted⟩
  obtain ⟨n, hn, _⟩ := he.followed id ((hmem id).mpr hr)
  simp [hn]

theorem Fifo.step_unique {net : Network} : Relator.RightUnique (Step net) := by
  intro s t u ht hu
  cases ht with
  | pop hn =>
    cases hu with
    | pop hm => rw [Option.some.inj (hn.symm.trans hm)]

theorem Fifo.eq_of_run_empty {net : Network} {visited : Finset NodeId} {emitted : List NodeId}
    {s : Fifo} (h : Relation.ReflTransGen (Step net) ⟨[], visited, emitted⟩ s) :
    s = ⟨[], visited, emitted⟩ := by
  rcases h.cases_head with he | ⟨t, ht, _⟩
  · exact he.symm
  · cases ht

theorem BreadthFirst.unique {net : Network} {roots ids ids' : List NodeId}
    (h : BreadthFirst net roots ids) (h' : BreadthFirst net roots ids') : ids = ids' := by
  obtain ⟨visited, hrun⟩ := h.fifo
  obtain ⟨visited', hrun'⟩ := h'.fifo
  rcases hrun.total_of_right_unique Fifo.step_unique hrun' with hr | hr
  · exact (congrArg Fifo.emitted (Fifo.eq_of_run_empty hr)).symm
  · exact congrArg Fifo.emitted (Fifo.eq_of_run_empty hr)

structure Trail.Tracks (dst : List NodeId) (t : Trail) (s : Fifo) : Prop where
  listed : t.listed = dst ++ (s.emitted ++ s.queue)
  seen : ∀ x, x ∈ t.seen ↔ x ∈ s.visited ∨ x ∈ s.queue

theorem Trail.Tracks.enqueue {dst : List NodeId} {t : Trail} {s : Fifo} (h : t.Tracks dst s)
    (id : NodeId) : (t.enqueue id).Tracks dst (s.offer id) := by
  by_cases hid : id ∈ t.seen
  · rw [Trail.enqueue, if_pos hid, Fifo.offer, if_pos ((h.seen id).mp hid)]
    exact h
  · rw [Trail.enqueue, if_neg hid, Fifo.offer, if_neg (mt (h.seen id).mpr hid)]
    refine ⟨by simp [h.listed], fun x => ?_⟩
    rw [List.mem_cons, h.seen, List.mem_append, List.mem_singleton]
    tauto

theorem Trail.Tracks.foldl {dst : List NodeId} {t : Trail} {s : Fifo} (h : t.Tracks dst s)
    (ids : List NodeId) : (ids.foldl Trail.enqueue t).Tracks dst (ids.foldl Fifo.offer s) := by
  induction ids generalizing t s with
  | nil => exact h
  | cons id ids ih => exact ih (h.enqueue id)

namespace Network

variable {net : Network} {dst roots : List NodeId}

theorem mem_nodeIds {id : NodeId} : id ∈ net.nodeIds ↔ (net.node? id).isSome = true := by
  cases id with
  | zero => simp [nodeIds, node?]
  | succ k =>
    rw [nodeIds, List.mem_range'_1]
    simp only [node?, isSome_getElem?]
    omega

theorem nodup_nodeIds (net : Network) : net.nodeIds.Nodup := List.nodup_range'

/-- The position stands between what was emitted and what waits, and the handles that are left are
those of nodes that were not emitted. -/
structure Synced (net : Network) (dst fresh : List NodeId) (next : Nat) (t : Trail) (s : Fifo) :
    Prop where
  tracks : t.Tracks dst s
  position : next = dst.length + s.emitted.length
  fresh_nodup : fresh.Nodup
  mem_fresh : ∀ x, x ∈ fresh ↔ (net.node? x).isSome = true ∧ x ∉ s.emitted

theorem Synced.getElem? {fresh : List NodeId} {next : Nat} {t : Trail} {s : Fifo}
    (h : net.Synced dst fresh next t s) : t.listed[next]? = s.queue.head? := by
  rw [h.tracks.listed, h.position, ← List.append_assoc, ← List.length_append,
    List.getElem?_append_right le_rfl, Nat.sub_self, List.head?_eq_getElem?]

theorem Synced.pop {fresh rest emitted : List NodeId} {next : Nat} {t : Trail}
    {visited : Finset NodeId} {id : NodeId} {n : Node}
    (h : net.Synced dst fresh next t ⟨id :: rest, visited, emitted⟩) :
    net.Synced dst (fresh.erase id) (next + 1) (n.sources.foldl Trail.enqueue t)
      (n.sources.foldl Fifo.offer ⟨rest, insert id visited, emitted ++ [id]⟩) := by
  have ht : t.Tracks dst ⟨rest, insert id visited, emitted ++ [id]⟩ := by
    refine ⟨by simp [h.tracks.listed], fun x => ?_⟩
    rw [h.tracks.seen, List.mem_cons, Finset.mem_insert]
    tauto
  obtain ⟨added, he, _, _⟩ := Fifo.offers_spec n.sources ⟨rest, insert id visited, emitted ++ [id]⟩
  have htracks := ht.foldl n.sources
  rw [he] at htracks ⊢
  refine ⟨htracks, ?_, h.fresh_nodup.erase id, fun x => ?_⟩
  · have hp := h.position
    simp only [List.length_append, List.length_singleton] at hp ⊢
    omega
  · rw [h.fresh_nodup.mem_erase_iff, h.mem_fresh]
    simp only [List.mem_append, List.mem_singleton, not_or]
    tauto

theorem walk_follows_fifo {fresh : List NodeId} {next : Nat} {t : Trail} {s : Fifo}
    (h : net.Synced dst fresh next t s) (he : Fifo.Explored net roots s) :
    (∃ visited ids, net.walk fresh next t = .ok (dst ++ ids) ∧
      Relation.ReflTransGen (Fifo.Step net) s ⟨[], visited, ids⟩) ∨
    ∃ id s', net.walk fresh next t = .error (.nodeHandle id) ∧ net.node? id = none ∧
      Relation.ReflTransGen (Fifo.Step net) s s' ∧ id ∈ s'.queue := by
  obtain ⟨queue, visited, emitted⟩ := s
  have hget := h.getElem?
  cases queue with
  | nil =>
    refine Or.inl ⟨visited, emitted, ?_, .refl⟩
    rw [walk, hget]
    simp [h.tracks.listed]
  | cons id rest =>
    have hnew : id ∉ emitted := fun hm => (List.nodup_append.mp he.nodup).2.2 id hm id (by simp) rfl
    cases hn : net.node? id with
    | none =>
      refine Or.inr ⟨id, _, ?_, hn, .refl, List.mem_cons_self⟩
      have hf : id ∉ fresh := fun hm => by simpa [hn] using ((h.mem_fresh id).mp hm).1
      rw [walk, hget]
      simp [hf]
    | some n =>
      have hf : id ∈ fresh := (h.mem_fresh id).mpr ⟨by simp [hn], hnew⟩
      have hstep : Fifo.Step net ⟨id :: rest, visited, emitted⟩
          (n.sources.foldl Fifo.offer ⟨rest, insert id visited, emitted ++ [id]⟩) := .pop hn
      have hlt : (fresh.erase id).length < fresh.length := by
        rw [List.length_erase_of_mem hf]
        exact Nat.sub_lt (List.length_pos_of_mem hf) Nat.one_pos
      have hw : net.walk fresh next t =
          net.walk (fresh.erase id) (next + 1) (n.sources.foldl Trail.enqueue t) := by
        rw [walk, hget]
        simp [hf, hn]
      rw [hw]
      -- One handle fewer is left, which is what makes the walk end.
      rcases walk_follows_fifo h.pop (he.step hstep) with
        ⟨v, ids, hr, hrun⟩ | ⟨x, s', hr, hx, hrun, hq⟩
      · exact Or.inl ⟨v, ids, hr, .head hstep hrun⟩
      · exact Or.inr ⟨x, s', hr, hx, .head hstep hrun, hq⟩
termination_by fresh.length

theorem Synced.start (net : Network) (dst roots : List NodeId) :
    net.Synced dst net.nodeIds dst.length (roots.foldl Trail.enqueue ⟨dst, []⟩)
      (Fifo.start roots) := by
  have ht : Trail.Tracks dst ⟨dst, []⟩ ⟨[], ∅, []⟩ := ⟨by simp, by simp⟩
  refine ⟨ht.foldl roots, ?_, net.nodup_nodeIds, fun x => ?_⟩
  · simp [Fifo.start_spec]
  · simp [Fifo.start_spec, mem_nodeIds]

theorem discard_node (net : Network) (id : NodeId) : discard (net.node id) =
    if (net.node? id).isSome = true then .ok () else .error (.nodeHandle id) := by
  unfold Network.node
  cases net.node? id <;> rfl

theorem appendReachable_cases (net : Network) (dst roots : List NodeId) :
    (∃ visited ids, net.appendReachable dst roots = .ok (dst ++ ids) ∧
      Relation.ReflTransGen (Fifo.Step net) (Fifo.start roots) ⟨[], visited, ids⟩) ∨
    ∃ id, net.appendReachable dst roots = .error (.nodeHandle id) ∧ net.node? id = none ∧
      net.Reaches roots id := by
  unfold appendReachable
  rcases Outcome.forM_cases (fun id => discard (net.node id)) roots with hok | ⟨r, hr, e, he, herr⟩
  · simp only [hok, bind, Except.bind]
    have he := Fifo.Explored.start net roots
    rcases walk_follows_fifo (Synced.start net dst roots) he with h | ⟨id, s, hw, hn, hrun, hq⟩
    · exact Or.inl h
    · exact Or.inr ⟨id, hw, hn, (he.run hrun).reached id (List.mem_append_right _ hq)⟩
  · rw [discard_node] at he
    split at he
    next => simp at he
    next hn =>
      refine Or.inr ⟨r, ?_, by simpa using hn, .root hr⟩
      rw [herr, ← Except.error.inj he]
      rfl

/-- Either every reachable handle has a node, and the reachable nodes are appended breadth first, or
some reachable handle has none, and the walk reports such a handle. -/
theorem appendReachable_exact (net : Network) (dst roots : List NodeId) :
    ((∀ id, net.Reaches roots id → (net.node? id).isSome = true) ∧
      ∃ ids, net.appendReachable dst roots = .ok (dst ++ ids) ∧ BreadthFirst net roots ids) ∨
    ∃ id, net.Reaches roots id ∧ net.node? id = none ∧
      net.appendReachable dst roots = .error (.nodeHandle id) := by
  rcases net.appendReachable_cases dst roots with ⟨visited, ids, hr, hrun⟩ | ⟨id, hr, hn, hid⟩
  · obtain ⟨hvalid, hbfs⟩ := Fifo.breadthFirst_of_run hrun
    exact Or.inl ⟨hvalid, ids, hr, hbfs⟩
  · exact Or.inr ⟨id, hid, hn, hr⟩

/-! ## The reachable nodes themselves -/

structure Reached (net : Network) (roots ids : List NodeId) (ns : List Node) : Prop where
  order : BreadthFirst net roots ids
  nodes : List.Forall₂ (fun id n => net.node? id = some n) ids ns

theorem Reached.eq_filterMap {ids : List NodeId} {ns : List Node} (h : net.Reached roots ids ns) :
    ns = ids.filterMap net.node? := by
  have hn := h.nodes
  clear h
  induction hn with
  | nil => rfl
  | cons hid _ ih => rw [List.filterMap_cons, hid, ih]

theorem Reached.mem_iff {ids : List NodeId} {ns : List Node} (h : net.Reached roots ids ns)
    {n : Node} : n ∈ ns ↔ ∃ id, net.Reaches roots id ∧ net.node? id = some n := by
  rw [h.eq_filterMap, List.mem_filterMap]
  simp only [h.order.mem_iff]

theorem breadthFirst_of_reachable {ids : List NodeId} (h : net.reachable roots = .ok ids) :
    BreadthFirst net roots ids := by
  rcases net.appendReachable_cases [] roots with ⟨_, ids', he, hrun⟩ | ⟨id, he, _, _⟩
  · rw [reachable, he] at h
    obtain rfl : ids' = ids := Except.ok.inj h
    exact (Fifo.breadthFirst_of_run hrun).2
  · rw [reachable, he] at h
    simp at h

theorem reached_of_reachableNodes {ns : List Node} (h : net.reachableNodes roots = .ok ns) :
    ∃ ids, net.Reached roots ids ns := by
  obtain ⟨ids, hids, hns⟩ := Outcome.bind_eq_ok.mp h
  exact ⟨ids, breadthFirst_of_reachable hids,
    (Outcome.mapM_eq_ok.mp hns).imp fun _ _ => node_eq_ok.mp⟩

theorem exists_appendReachable
    (hv : ∀ id, net.Reaches roots id → (net.node? id).isSome = true) :
    ∃ ids, net.appendReachable [] roots = .ok ids ∧ BreadthFirst net roots ids := by
  rcases net.appendReachable_cases [] roots with ⟨_, ids, he, hrun⟩ | ⟨id, _, hn, hr⟩
  · exact ⟨ids, he, (Fifo.breadthFirst_of_run hrun).2⟩
  · simpa [hn] using hv id hr

theorem exists_reachableNodes (hv : ∀ id, net.Reaches roots id → (net.node? id).isSome = true) :
    ∃ ids ns, net.reachableNodes roots = .ok ns ∧ net.Reached roots ids ns := by
  obtain ⟨ids, he, hb⟩ := exists_appendReachable hv
  obtain ⟨ns, hns⟩ : ∃ ns, ids.mapM net.node = .ok ns := by
    refine Outcome.exists_mapM.mpr fun id hid => ?_
    obtain ⟨n, hn⟩ := Option.isSome_iff_exists.mp (hv id ((hb.mem_iff id).mp hid))
    exact ⟨n, node_eq_ok.mpr hn⟩
  have hok : net.reachableNodes roots = .ok ns := Outcome.bind_eq_ok.mpr ⟨ids, he, hns⟩
  exact ⟨ids, ns, hok, hb, (Outcome.mapM_eq_ok.mp hns).imp fun _ _ => node_eq_ok.mp⟩

theorem reachable_of_run {ids : List NodeId} {visited : Finset NodeId}
    (h : Relation.ReflTransGen (Fifo.Step net) (Fifo.start roots) ⟨[], visited, ids⟩) :
    net.reachable roots = .ok ids := by
  obtain ⟨hvalid, horder⟩ := Fifo.breadthFirst_of_run h
  obtain ⟨ids', he, horder'⟩ := exists_appendReachable hvalid
  rw [reachable, he, horder.unique horder']

theorem reachableNodes_of_run {ids : List NodeId} {visited : Finset NodeId}
    (h : Relation.ReflTransGen (Fifo.Step net) (Fifo.start roots) ⟨[], visited, ids⟩) :
    net.reachableNodes roots = .ok (ids.filterMap net.node?) := by
  obtain ⟨hvalid, horder⟩ := Fifo.breadthFirst_of_run h
  obtain ⟨ids', ns, hns, hreached⟩ := exists_reachableNodes hvalid
  rw [hns, hreached.eq_filterMap, horder.unique hreached.order]

theorem reachableNodes_of_appendReachable {ids : List NodeId}
    (hids : net.appendReachable [] roots = .ok ids) :
    ∃ ns, net.reachableNodes roots = .ok ns ∧ ns = ids.filterMap net.node? := by
  rcases net.appendReachable_cases [] roots with ⟨_, ids', he, hrun⟩ | ⟨_, he, _⟩
  · obtain rfl : ids' = ids := Except.ok.inj (he.symm.trans hids)
    exact ⟨_, reachableNodes_of_run hrun, rfl⟩
  · cases he.symm.trans hids

end Network
end ShaderGraph
