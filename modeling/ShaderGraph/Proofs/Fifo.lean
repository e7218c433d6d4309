import ShaderGraph.Proofs.Paths
import Mathlib.Data.Finset.Insert

/-!
# Walking with a queue

Breadth-first search in its textbook form: a queue of nodes that wait, a set of nodes that were
visited, and the nodes emitted so far. A step takes the front of the queue, emits it, and queues
each node that its inputs read unless that node was visited or waits already. Nothing is assumed
about the network: its inputs may form cycles.

`Explored` is what every step keeps. It says that everything met so far is reachable and met once,
that the inputs of emitted nodes have been followed, and that the queue holds at most two layers of
equal distance. An empty queue turns this into the statement about the emitted list.
-/
namespace ShaderGraph

structure Fifo where
  queue : List NodeId
  visited : Finset NodeId
  emitted : List NodeId

namespace Fifo

def offer (s : Fifo) (id : NodeId) : Fifo :=
  if id ∈ s.visited ∨ id ∈ s.queue then s else { s with queue := s.queue ++ [id] }

def start (roots : List NodeId) : Fifo := roots.foldl offer ⟨[], ∅, []⟩

inductive Step (net : Network) : Fifo → Fifo → Prop
  | pop {id : NodeId} {rest : List NodeId} {visited : Finset NodeId} {emitted : List NodeId}
      {n : Node} : net.node? id = some n →
      Step net ⟨id :: rest, visited, emitted⟩
        (n.sources.foldl offer ⟨rest, insert id visited, emitted ++ [id]⟩)

/-! ## Offers -/

theorem offers_spec (ids : List NodeId) (s : Fifo) : ∃ added,
    ids.foldl offer s = { s with queue := s.queue ++ added } ∧ added.Nodup ∧
      ∀ x, x ∈ added ↔ x ∈ ids ∧ x ∉ s.visited ∧ x ∉ s.queue := by
  induction ids generalizing s with
  | nil => exact ⟨[], by simp, by simp, by simp⟩
  | cons id ids ih =>
    by_cases hid : id ∈ s.visited ∨ id ∈ s.queue
    · obtain ⟨added, he, hn, hm⟩ := ih s
      refine ⟨added, by rw [List.foldl_cons, offer, if_pos hid, he], hn, fun x => ?_⟩
      rw [hm, List.mem_cons]
      constructor
      · rintro ⟨hx, hv, hq⟩
        exact ⟨Or.inr hx, hv, hq⟩
      · rintro ⟨rfl | hx, hv, hq⟩
        · exact absurd hid (by simp [hv, hq])
        · exact ⟨hx, hv, hq⟩
    · obtain ⟨added, he, hn, hm⟩ := ih { s with queue := s.queue ++ [id] }
      simp only [not_or] at hid
      refine ⟨id :: added, ?_, ?_, fun x => ?_⟩
      · rw [List.foldl_cons, offer, if_neg (by simp [hid.1, hid.2]), he]
        simp
      · refine List.nodup_cons.mpr ⟨fun h => ?_, hn⟩
        exact ((hm id).mp h).2.2 (by simp)
      · rw [List.mem_cons, hm, List.mem_cons]
        by_cases hx : x = id
        · subst hx
          simp [hid.1, hid.2]
        · simp [hx]

theorem start_spec (roots : List NodeId) : start roots = ⟨roots.eraseDups, ∅, []⟩ := by
  suffices h : ∀ done rest : List NodeId,
      rest.foldl offer ⟨done.eraseDups, ∅, []⟩ = ⟨(done ++ rest).eraseDups, ∅, []⟩ by
    simpa [start] using h [] roots
  intro done rest
  induction rest generalizing done with
  | nil => simp
  | cons id rest ih =>
    have ho : offer ⟨done.eraseDups, ∅, []⟩ id = ⟨(done ++ [id]).eraseDups, ∅, []⟩ := by
      rw [List.eraseDups_append]
      by_cases hid : id ∈ done
      · simp [offer, hid, List.removeAll]
      · simp [offer, hid, List.removeAll, List.eraseDups_cons]
    rw [List.foldl_cons, ho, ih, List.append_assoc, List.singleton_append]

/-! ## What every step keeps -/

/-- The queue holds nodes at distance `d`, then nodes at distance `d + 1`, and every node at
distance at most `d` was met. -/
structure Layered (net : Network) (roots : List NodeId) (s : Fifo) (d : Nat)
    (near far : List NodeId) : Prop where
  queue_eq : s.queue = near ++ far
  at_near : ∀ x ∈ near, net.distance roots x = d
  at_far : ∀ x ∈ far, net.distance roots x = d + 1
  at_emitted : ∀ x ∈ s.emitted, net.distance roots x ≤ d
  met : ∀ x, net.Reaches roots x → net.distance roots x ≤ d → x ∈ s.emitted ∨ x ∈ near

structure Explored (net : Network) (roots : List NodeId) (s : Fifo) : Prop where
  visited : ∀ x, x ∈ s.visited ↔ x ∈ s.emitted
  nodup : (s.emitted ++ s.queue).Nodup
  first : roots.eraseDups <+: s.emitted ++ s.queue
  reached : ∀ x ∈ s.emitted ++ s.queue, net.Reaches roots x
  followed : ∀ x ∈ s.emitted, ∃ n, net.node? x = some n ∧
    ∀ y ∈ n.sources, y ∈ s.emitted ++ s.queue
  sorted : s.emitted.Pairwise fun a b => net.distance roots a ≤ net.distance roots b
  layered : ∃ d near far, Layered net roots s d near far

variable {net : Network} {roots : List NodeId} {s s' : Fifo}

theorem nodup_eraseDups (ids : List NodeId) : ids.eraseDups.Nodup := by
  obtain ⟨added, he, hn, _⟩ := offers_spec ids ⟨[], ∅, []⟩
  have hs := start_spec ids
  rw [start, he] at hs
  have hq : added = ids.eraseDups := by simpa using hs
  rwa [← hq]

theorem Explored.start (net : Network) (roots : List NodeId) :
    Explored net roots (start roots) := by
  rw [start_spec]
  have hroot : ∀ x ∈ roots.eraseDups, x ∈ roots := fun x hx => List.mem_eraseDups.mp hx
  refine
    { visited := by simp
      nodup := nodup_eraseDups roots
      first := List.prefix_rfl
      reached := fun x hx => .root (hroot x hx)
      followed := by simp
      sorted := .nil
      layered := ⟨0, roots.eraseDups, [], by simp, fun x hx => ?_, by simp, by simp, ?_⟩ }
  · exact Nat.le_zero.mp (Network.distance_le (k := 0) (hroot x hx))
  · intro x hx hd
    have hk := Network.reachesIn_distance hx
    rw [Nat.le_zero.mp hd] at hk
    exact Or.inr (List.mem_eraseDups.mpr hk)

theorem Explored.front (h : Explored net roots s) {id : NodeId} {rest : List NodeId}
    (hq : s.queue = id :: rest) : ∃ d near far, Layered net roots s d (id :: near) far := by
  obtain ⟨d, near, far, hl⟩ := h.layered
  have hqueue := hl.queue_eq
  rw [hq] at hqueue
  cases near with
  | cons x near =>
    obtain rfl : id = x := (List.cons.inj hqueue).1
    exact ⟨d, near, far, hl⟩
  | nil =>
    obtain rfl : id :: rest = far := hqueue
    -- The nearer layer is used up and the other one takes its place: every node of the next
    -- distance is read by an emitted node, and so it waits or was emitted.
    refine ⟨d + 1, rest, [], by simpa using hq, hl.at_far, by simp, fun x hx => ?_,
      fun x hx hd => ?_⟩
    · exact Nat.le_succ_of_le (hl.at_emitted x hx)
    · rcases Nat.lt_or_ge (net.distance roots x) (d + 1) with hlt | hge
      · rcases hl.met x hx (Nat.le_of_lt_succ hlt) with hm | hm
        · exact Or.inl hm
        · simp at hm
      · have hk := Network.reachesIn_distance hx
        rw [Nat.le_antisymm hd hge] at hk
        obtain ⟨a, ha, n, hn, hx⟩ := hk
        have hra : net.Reaches roots a := Network.reaches_iff_reachesIn.mpr ⟨d, ha⟩
        rcases hl.met a hra (Network.distance_le ha) with hm | hm
        · obtain ⟨m, hm, hy⟩ := h.followed a hm
          rw [hn] at hm
          obtain rfl := Option.some.inj hm
          rw [← hq]
          exact List.mem_append.mp (hy x hx)
        · simp at hm

theorem Layered.pop {id : NodeId} {rest near far added : List NodeId} {visited : Finset NodeId}
    {emitted : List NodeId} {d : Nat} {n : Node}
    (hl : Layered net roots ⟨id :: rest, visited, emitted⟩ d (id :: near) far)
    (hr : net.Reaches roots id) (hn : net.node? id = some n)
    (hadd : ∀ x ∈ added, x ∈ n.sources ∧ x ∉ emitted ++ id :: rest) :
    Layered net roots ⟨rest ++ added, insert id visited, emitted ++ [id]⟩ d near
      (far ++ added) := by
  have hrest : rest = near ++ far := (List.cons.inj hl.queue_eq).2
  have hid : net.distance roots id = d := hl.at_near id List.mem_cons_self
  refine ⟨by simp [hrest], fun x hx => hl.at_near x (List.mem_cons_of_mem _ hx), ?_, ?_, ?_⟩
  · intro x hx
    rcases List.mem_append.mp hx with hx | hx
    · exact hl.at_far x hx
    · obtain ⟨hsrc, hnew⟩ := hadd x hx
      have hk : net.ReachesIn roots (d + 1) x :=
        ⟨id, hid ▸ Network.reachesIn_distance hr, n, hn, hsrc⟩
      -- A shorter path would have led to it before.
      refine Nat.le_antisymm (Network.distance_le hk) (Nat.lt_of_not_le fun hle => hnew ?_)
      have hrx : net.Reaches roots x := Network.reaches_iff_reachesIn.mpr ⟨_, hk⟩
      rcases hl.met x hrx hle with hm | hm
      · exact List.mem_append_left _ hm
      · rw [hrest]
        exact List.mem_append_right _ (List.mem_append_left far hm)
  · intro x hx
    rcases List.mem_append.mp hx with hx | hx
    · exact hl.at_emitted x hx
    · rw [List.mem_singleton.mp hx, hid]
  · intro x hx hd
    rcases hl.met x hx hd with hm | hm
    · exact Or.inl (List.mem_append_left _ hm)
    · rcases List.mem_cons.mp hm with rfl | hm
      · exact Or.inl (by simp)
      · exact Or.inr hm

theorem Explored.step (h : Explored net roots s) (hs : Step net s s') : Explored net roots s' := by
  obtain @⟨id, rest, visited, emitted, n, hn⟩ := hs
  obtain ⟨added, he, hnd, hm⟩ := offers_spec n.sources ⟨rest, insert id visited, emitted ++ [id]⟩
  rw [he]
  have hid : id ∈ emitted ++ id :: rest := by simp
  have hadd : ∀ x, x ∈ added ↔ x ∈ n.sources ∧ x ∉ emitted ++ id :: rest := by
    intro x
    rw [hm, Finset.mem_insert, h.visited]
    simp only [List.mem_append, List.mem_cons, not_or]
    tauto
  have hall : (emitted ++ [id]) ++ (rest ++ added) = (emitted ++ id :: rest) ++ added := by simp
  obtain ⟨d, near, far, hl⟩ := h.front rfl
  refine
    { visited := fun x => ?_
      nodup := ?_
      first := ?_
      reached := fun x hx => ?_
      followed := fun x hx => ?_
      sorted := ?_
      layered := ⟨d, near, far ++ added, hl.pop (h.reached id hid) hn fun x => (hadd x).mp⟩ }
  · simp only [Finset.mem_insert, List.mem_append, List.mem_singleton, h.visited x]
    exact or_comm
  · rw [hall]
    exact h.nodup.append hnd fun x hx hx' => ((hadd x).mp hx').2 hx
  · rw [hall]
    exact h.first.trans (List.prefix_append _ _)
  · rw [hall] at hx
    rcases List.mem_append.mp hx with hx | hx
    · exact h.reached x hx
    · exact (h.reached id hid).step ⟨n, hn, ((hadd x).mp hx).1⟩
  · simp only [hall]
    rcases List.mem_append.mp hx with hx | hx
    · obtain ⟨m, hm, hy⟩ := h.followed x hx
      exact ⟨m, hm, fun y hym => List.mem_append_left _ (hy y hym)⟩
    · rw [List.mem_singleton.mp hx]
      refine ⟨n, hn, fun y hy => ?_⟩
      by_cases hold : y ∈ emitted ++ id :: rest
      · exact List.mem_append_left _ hold
      · exact List.mem_append_right _ ((hadd y).mpr ⟨hy, hold⟩)
  · refine List.pairwise_append.mpr ⟨h.sorted, List.pairwise_singleton _ _, fun a ha b hb => ?_⟩
    rw [List.mem_singleton.mp hb, hl.at_near id List.mem_cons_self]
    exact hl.at_emitted a ha

theorem Explored.run (h : Explored net roots s) (hs : Relation.ReflTransGen (Step net) s s') :
    Explored net roots s' := by
  induction hs with
  | refl => exact h
  | tail _ hstep ih => exact ih.step hstep

theorem Explored.complete (h : Explored net roots s) (hq : s.queue = []) {id : NodeId}
    (hr : net.Reaches roots id) : id ∈ s.emitted := by
  refine hr.induction (P := fun id => id ∈ s.emitted) (fun r hr => ?_) fun a b ha hab => ?_
  · have hf := h.first.subset (List.mem_eraseDups.mpr hr)
    simpa [hq] using hf
  · obtain ⟨n, hn, hb⟩ := hab
    obtain ⟨m, hm, hy⟩ := h.followed a ha
    rw [hn] at hm
    obtain rfl := Option.some.inj hm
    simpa [hq] using hy b hb

end Fifo
end ShaderGraph
