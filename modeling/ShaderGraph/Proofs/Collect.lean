import ShaderGraph.Network.Collect
import ShaderGraph.Proofs.Agreement
import ShaderGraph.Proofs.Reach
import Mathlib.Data.List.Pairwise

/-!
# What the collecting folds find

The fold over the uses of parameters keeps the first use of each name and misses no conflict: none
is found exactly when all uses of one name agree pairwise. Uses of the reachable nodes are then told
apart by the node and the input where they stand.
-/
namespace ShaderGraph

theorem mem_discover {seen ids : List NodeId} {id : NodeId} :
    id ∈ discover seen ids ↔ id ∈ ids ∧ id ∉ seen := by
  induction ids generalizing seen with
  | nil => simp [discover]
  | cons a ids ih =>
    rw [discover]
    split
    · rename_i ha
      rw [ih, List.mem_cons]
      grind
    · rw [List.mem_cons, ih, List.mem_cons, List.mem_cons]
      grind

theorem discover_eq_nil {seen ids : List NodeId} :
    discover seen ids = [] ↔ ∀ id ∈ ids, id ∈ seen := by
  simp only [List.eq_nil_iff_forall_not_mem, mem_discover]
  grind

theorem reaches_rootNodes {net : Network} {values : List Value} {id : NodeId} :
    net.Reaches (rootNodes values) id ↔ net.ReachesFrom values id := by
  have hmem : ∀ r, r ∈ rootNodes values ↔ r ∈ values.filterMap Value.node? := by
    simp [rootNodes, mem_discover]
  exact ⟨Network.Reaches.mono fun r => (hmem r).mp, Network.Reaches.mono fun r => (hmem r).mpr⟩

theorem Value.fault?_eq_some {v : Value} {m : Text} : v.fault? = some m ↔ v.source = .fault m := by
  obtain ⟨type, source⟩ := v
  cases source <;> simp [Value.fault?]

def Input.parameter? (i : Input) : Option Parameter :=
  i.value.parameter?.map fun (name, default) => ⟨name, default⟩

theorem Input.parameter?_eq_some {i : Input} {p : Parameter} :
    i.parameter? = some p ↔ i.value.source = .parameter p.name p.default := by
  obtain ⟨name, default⟩ := p
  obtain ⟨_, _, ⟨type, source⟩⟩ := i
  cases source <;> simp [Input.parameter?, Value.parameter?]

namespace Node

theorem mem_parameters {n : Node} {p : Parameter} :
    p ∈ n.parameters ↔ ∃ i ∈ n.inputs, i.value.source = .parameter p.name p.default := by
  simp only [← Input.parameter?_eq_some]
  exact List.mem_filterMap

theorem mem_faults {n : Node} {m : Text} :
    m ∈ n.faults ↔ ∃ i ∈ n.inputs, i.value.source = .fault m := by
  simp only [faults, List.mem_filterMap, Value.fault?_eq_some]

theorem pairwise_parameters {n : Node} {r : Parameter → Parameter → Prop} :
    n.parameters.Pairwise r ↔ ∀ ⦃k l : Nat⦄ ⦃i j : Input⦄ ⦃p q : Parameter⦄, k < l →
      n.inputs[k]? = some i → n.inputs[l]? = some j →
      i.value.source = .parameter p.name p.default →
      j.value.source = .parameter q.name q.default → r p q := by
  simp only [← Input.parameter?_eq_some]
  refine List.pairwise_filterMap.trans (List.pairwise_iff_getElem.trans ?_)
  constructor
  · intro h k l i j p q hlt hi hj hp hq
    obtain ⟨hk, rfl⟩ := List.getElem?_eq_some_iff.mp hi
    obtain ⟨hl, rfl⟩ := List.getElem?_eq_some_iff.mp hj
    exact h k l hk hl hlt p hp q hq
  · intro h k l hk hl hlt p hp q hq
    exact h hlt (List.getElem?_eq_getElem hk) (List.getElem?_eq_getElem hl) hp hq

end Node

def Parameter.Agree (p q : Parameter) : Prop :=
  p.name = q.name → Constant.agree? p.default q.default = true

instance : Std.Symm Parameter.Agree where
  symm p q h hname := by
    rw [Constant.agree?_comm]
    exact h hname.symm

theorem Parameter.exists_find? {uses : List Parameter} {p : Parameter} (hp : p ∈ uses) :
    ∃ f, uses.find? (·.name = p.name) = some f :=
  Option.isSome_iff_exists.mp (List.find?_isSome.mpr ⟨p, hp, by simp⟩)

theorem Constant.isNone_eq_of_agree? {a b : Option Constant} (h : agree? a b = true) :
    a.isNone = b.isNone := by
  cases a <;> cases b <;> simp_all [agree?]

namespace Collected

/-- What the fold has found after the uses: the first use of each name, and conflicts of a first use
with a later one. -/
structure Sums (policy : ParameterPolicy) (uses : List Parameter) (c : Collected) : Prop where
  nodup : (c.parameters.map (·.name)).Nodup
  first : ∀ name, c.parameters.find? (·.name = name) = uses.find? (·.name = name)
  agreed : c.conflicts = [] → policy = .firstWins ∨ uses.Pairwise Parameter.Agree
  recorded : policy ≠ .firstWins → ∀ f q, q ∈ uses → uses.find? (·.name = q.name) = some f →
    f = q ∨ Constant.agree? f.default q.default = true ∨
      ∃ k ∈ c.conflicts, k.first.isNone = f.default.isNone ∧ k.other.isNone = q.default.isNone
  clash : ∀ k ∈ c.conflicts, policy ≠ .firstWins ∧ ∃ f q, [f, q].Sublist uses ∧ f.name = q.name ∧
    k.first = f.default ∧ k.other = q.default ∧ Constant.agree? f.default q.default = false

variable {policy : ParameterPolicy} {uses : List Parameter} {c : Collected}

theorem Sums.empty : Sums policy [] ⟨[], []⟩ where
  nodup := .nil
  first _ := rfl
  agreed _ := Or.inr .nil
  recorded _ _ _ hq := absurd hq List.not_mem_nil
  clash _ hk := absurd hk List.not_mem_nil

theorem Sums.mem_parameters (h : Sums policy uses c) {p : Parameter} :
    p ∈ c.parameters ↔ uses.find? (·.name = p.name) = some p := by
  rw [← h.first]
  constructor
  · intro hp
    obtain ⟨q, hq⟩ := Parameter.exists_find? hp
    have hname : q.name = p.name := by simpa using List.find?_some hq
    rw [hq, List.inj_on_of_nodup_map h.nodup (List.mem_of_find?_eq_some hq) hp hname]
  · exact List.mem_of_find?_eq_some

theorem Sums.add_new (h : Sums policy uses c) {p : Parameter}
    (hp : uses.find? (·.name = p.name) = none) :
    Sums policy (uses ++ [p]) { c with parameters := c.parameters ++ [p] } := by
  have hfresh : ∀ q ∈ uses, q.name ≠ p.name := by simpa using List.find?_eq_none.mp hp
  have hkept : ∀ q ∈ c.parameters, q.name ≠ p.name := by
    rw [← h.first] at hp
    simpa using List.find?_eq_none.mp hp
  refine ⟨?_, ?_, fun hc => (h.agreed hc).imp_right fun hu => ?_, fun hpol f q hq hf => ?_,
    fun k hk => ?_⟩
  · rw [List.map_append, List.nodup_append]
    refine ⟨h.nodup, by simp, ?_⟩
    rintro _ hx _ hy rfl
    obtain ⟨q, hq, hqn⟩ := List.mem_map.mp hx
    exact hkept q hq (hqn.trans (by simpa using hy))
  · intro name
    rw [List.find?_append, List.find?_append, h.first]
  · refine List.pairwise_append.mpr ⟨hu, List.pairwise_singleton _ _, fun q hq r hr hname => ?_⟩
    rw [List.mem_singleton.mp hr] at hname
    exact absurd hname (hfresh q hq)
  · rw [List.find?_append] at hf
    rcases List.mem_append.mp hq with hq | hq
    · obtain ⟨g, hg⟩ := Parameter.exists_find? hq
      rw [hg] at hf
      exact h.recorded hpol f q hq (by simpa [hg] using hf)
    · rw [List.mem_singleton] at hq
      subst hq
      left
      simpa [hp] using hf.symm
  · obtain ⟨hpol, f, q, hsub, hrest⟩ := h.clash k hk
    exact ⟨hpol, f, q, hsub.trans (List.sublist_append_left _ _), hrest⟩

theorem Sums.add_known (h : Sums policy uses c) {p first : Parameter} {conflicts : List Conflict}
    (hp : uses.find? (·.name = p.name) = some first)
    (hsub : ∀ k ∈ c.conflicts, k ∈ conflicts)
    (hclash : ∀ k ∈ conflicts, k ∈ c.conflicts ∨ policy ≠ .firstWins ∧
      k = ⟨p.name, first.default, p.default⟩ ∧ Constant.agree? first.default p.default = false)
    (hrec : Constant.agree? first.default p.default = true ∨ policy = .firstWins ∨
      ∃ k ∈ conflicts, k.first.isNone = first.default.isNone ∧
        k.other.isNone = p.default.isNone) :
    Sums policy (uses ++ [p]) ⟨c.parameters, conflicts⟩ := by
  have hfirst : first ∈ uses := List.mem_of_find?_eq_some hp
  have hname : first.name = p.name := by simpa using List.find?_some hp
  have hfind : ∀ name, (uses ++ [p]).find? (·.name = name) = uses.find? (·.name = name) := by
    intro name
    rw [List.find?_append]
    by_cases hn : p.name = name
    · rw [← hn, hp, Option.some_or]
    · simp [hn]
  refine ⟨h.nodup, fun name => (h.first name).trans (hfind name).symm,
    fun (hc : conflicts = []) => ?_, fun hpol f q hq hf => ?_, fun k hk => ?_⟩
  · have hnone : c.conflicts = [] := by
      subst hc
      exact List.eq_nil_iff_forall_not_mem.mpr fun k hk => List.not_mem_nil (hsub k hk)
    have hagree : Constant.agree? first.default p.default = true ∨ policy = .firstWins := by
      rcases hrec with ha | hw | ⟨k, hk, _⟩
      · exact Or.inl ha
      · exact Or.inr hw
      · subst hc
        exact absurd hk List.not_mem_nil
    rcases hagree, h.agreed hnone with ⟨ha | hw, hw' | hu⟩
    · exact Or.inl hw'
    · refine Or.inr (List.pairwise_append.mpr ⟨hu, List.pairwise_singleton _ _, ?_⟩)
      intro q hq r hr hqr
      obtain rfl := List.mem_singleton.mp hr
      -- The earlier use agrees with the first one, which agrees with the new one.
      by_cases hqf : q = first
      · rwa [hqf]
      · have hqa : q.Agree first := hu.forall hq hfirst hqf
        exact Constant.agree?_trans (hqa (hqr.trans hname.symm)) ha
    · exact Or.inl hw
    · exact Or.inl hw
  · rw [hfind] at hf
    rcases List.mem_append.mp hq with hq | hq
    · rcases h.recorded hpol f q hq hf with he | ha | ⟨k, hk, hka⟩
      · exact Or.inl he
      · exact Or.inr (Or.inl ha)
      · exact Or.inr (Or.inr ⟨k, hsub k hk, hka⟩)
    · obtain rfl := List.mem_singleton.mp hq
      obtain rfl : first = f := Option.some.inj (hp.symm.trans hf)
      exact Or.inr (hrec.imp_right fun hr => hr.resolve_left hpol)
  · rcases hclash k hk with hk | ⟨hpol, rfl, hne⟩
    · obtain ⟨hpol, f, q, hs, hrest⟩ := h.clash k hk
      exact ⟨hpol, f, q, hs.trans (List.sublist_append_left _ _), hrest⟩
    · exact ⟨hpol, first, p, (List.singleton_sublist.mpr hfirst).append (.refl [p]), hname, rfl,
        rfl, hne⟩

theorem Sums.add (h : Sums policy uses c) (p : Parameter) :
    Sums policy (uses ++ [p]) (c.add policy p) := by
  rw [Collected.add, h.first]
  split
  · rename_i hp
    exact h.add_new hp
  · rename_i first hp
    dsimp only
    split
    · -- The use agrees, the first one wins, or a like conflict was recorded before.
      rename_i hex
      refine h.add_known hp (fun _ hk => hk) (fun _ hk => Or.inl hk) ?_
      simp only [Bool.or_eq_true, decide_eq_true_eq, List.any_eq_true, or_assoc] at hex
      refine hex.imp_right fun hr => hr.imp_right ?_
      rintro ⟨k, hk, hka⟩
      simp only [Conflict.agrees, Bool.and_eq_true] at hka
      exact ⟨k, hk, Constant.isNone_eq_of_agree? hka.1.2, Constant.isNone_eq_of_agree? hka.2⟩
    · rename_i hex
      simp only [Bool.or_eq_true, decide_eq_true_eq, not_or, Bool.not_eq_true] at hex
      refine h.add_known hp (fun _ hk => List.mem_append_left _ hk) (fun k hk => ?_) ?_
      · rcases List.mem_append.mp hk with hk | hk
        · exact Or.inl hk
        · exact Or.inr ⟨hex.1.2, List.mem_singleton.mp hk, hex.1.1⟩
      · exact Or.inr (Or.inr ⟨_, List.mem_append_right _ List.mem_cons_self, rfl, rfl⟩)

theorem sums_foldl (policy : ParameterPolicy) (uses : List Parameter) :
    Sums policy uses (uses.foldl (Collected.add policy) ⟨[], []⟩) := by
  induction uses using List.reverseRecOn with
  | nil => exact .empty
  | append_singleton uses p ih =>
    rw [List.foldl_append]
    exact ih.add p

theorem Sums.conflicts_eq_nil (h : Sums policy uses c) :
    c.conflicts = [] ↔ policy = .firstWins ∨ uses.Pairwise Parameter.Agree := by
  refine ⟨h.agreed, fun hor => List.eq_nil_iff_forall_not_mem.mpr fun k hk => ?_⟩
  obtain ⟨hpol, f, q, hsub, hname, _, _, hne⟩ := h.clash k hk
  have hfq : f.Agree q := by simpa using (hor.resolve_left hpol).sublist hsub
  rw [hfq hname] at hne
  simp at hne

theorem Sums.lopsided_iff (h : Sums policy uses c) :
    (∃ k ∈ c.conflicts, k.first = none ∨ k.other = none) ↔ policy ≠ .firstWins ∧
      ∃ p ∈ uses, ∃ q ∈ uses, p.name = q.name ∧ p.default = none ∧ q.default ≠ none := by
  constructor
  · rintro ⟨k, hk, hnone⟩
    obtain ⟨hpol, f, q, hsub, hname, hkf, hkq, hne⟩ := h.clash k hk
    have hf : f ∈ uses := hsub.subset List.mem_cons_self
    have hq : q ∈ uses := hsub.subset (List.mem_cons_of_mem _ List.mem_cons_self)
    rw [hkf, hkq] at hnone
    rcases hnone with hnone | hnone
    · refine ⟨hpol, f, hf, q, hq, hname, hnone, fun hqn => ?_⟩
      simp [hnone, hqn, Constant.agree?] at hne
    · refine ⟨hpol, q, hq, f, hf, hname.symm, hnone, fun hfn => ?_⟩
      simp [hnone, hfn, Constant.agree?] at hne
  · rintro ⟨hpol, p, hp, q, hq, hname, hpn, hqn⟩
    obtain ⟨f, hf⟩ := Parameter.exists_find? hp
    -- Whichever of the two the first use is unlike was recorded against it.
    have hrec : ∀ r ∈ uses, r.name = p.name → f.default.isNone ≠ r.default.isNone →
        ∃ k ∈ c.conflicts, k.first = none ∨ k.other = none := by
      intro r hr hrn hdiff
      rcases h.recorded hpol f r hr (by rwa [hrn]) with rfl | ha | ⟨k, hk, hkf, hkr⟩
      · exact absurd rfl hdiff
      · exact absurd (Constant.isNone_eq_of_agree? ha) hdiff
      · refine ⟨k, hk, ?_⟩
        rw [← hkf, ← hkr] at hdiff
        cases hkn : k.first <;> cases hon : k.other <;> simp [hkn, hon] at hdiff ⊢
    cases hfd : f.default with
    | none =>
      refine hrec q hq hname.symm fun he => hqn ?_
      rw [hfd] at he
      exact Option.isNone_iff_eq_none.mp he.symm
    | some d => exact hrec p hp rfl (by simp [hfd, hpn])

end Collected

theorem Conflict.exists_message {k : Conflict} :
    (∃ t, k.message = .ok t) ↔ k.first ≠ none ∧ k.other ≠ none := by
  obtain ⟨name, first, other⟩ := k
  cases first <;> cases other <;>
    simp [message, required, bind, Except.bind, pure, Except.pure]

namespace Network

variable {net : Network} {values : List Value} {policy : ParameterPolicy}

def ReadsParameter (net : Network) (values : List Value) (place : NodeId × Nat) (p : Parameter) :
    Prop :=
  net.ReachesFrom values place.1 ∧ ∃ n i, net.node? place.1 = some n ∧
    n.inputs[place.2]? = some i ∧ i.value.source = .parameter p.name p.default

def Conflicting (net : Network) (values : List Value) : Prop :=
  ∃ a b p q, a ≠ b ∧ net.ReadsParameter values a p ∧ net.ReadsParameter values b q ∧
    p.name = q.name ∧ Constant.agree? p.default q.default = false

/-- Two inputs of reachable nodes read one parameter, and only one of them has a default. -/
def Lopsided (net : Network) (values : List Value) : Prop :=
  ∃ a b p q, net.ReadsParameter values a p ∧ net.ReadsParameter values b q ∧
    p.name = q.name ∧ p.default = none ∧ q.default ≠ none

def FirstUse (net : Network) (values : List Value) (p : Parameter) : Prop :=
  ∃ ids, BreadthFirst net (rootNodes values) ids ∧
    ((ids.filterMap net.node?).flatMap Node.parameters).find? (·.name = p.name) = some p

theorem ReadsParameter.unique {place : NodeId × Nat} {p q : Parameter}
    (hp : net.ReadsParameter values place p) (hq : net.ReadsParameter values place q) : p = q := by
  obtain ⟨_, n, i, hn, hi, hs⟩ := hp
  obtain ⟨_, m, j, hm, hj, ht⟩ := hq
  obtain rfl : n = m := Option.some.inj (hn.symm.trans hm)
  obtain rfl : i = j := Option.some.inj (hi.symm.trans hj)
  obtain ⟨hname, hdefault⟩ := Source.parameter.inj (hs.symm.trans ht)
  cases p
  cases q
  rw [Parameter.mk.injEq]
  exact ⟨hname, hdefault⟩

theorem Lopsided.conflicting (h : net.Lopsided values) : net.Conflicting values := by
  obtain ⟨a, b, p, q, ha, hb, hname, hp, hq⟩ := h
  refine ⟨a, b, p, q, ?_, ha, hb, hname, ?_⟩
  · rintro rfl
    exact hq (ha.unique hb ▸ hp)
  · obtain ⟨d, hd⟩ := Option.ne_none_iff_exists'.mp hq
    simp [hp, hd, Constant.agree?]

variable {ids : List NodeId} {ns : List Node}

theorem Reached.mem_uses (h : net.Reached (rootNodes values) ids ns) {p : Parameter} :
    p ∈ ns.flatMap Node.parameters ↔ ∃ a, net.ReadsParameter values a p := by
  simp only [List.mem_flatMap, h.mem_iff, reaches_rootNodes, Node.mem_parameters]
  constructor
  · rintro ⟨n, ⟨id, hr, hn⟩, i, hi, hs⟩
    obtain ⟨k, hk⟩ := List.mem_iff_getElem?.mp hi
    exact ⟨(id, k), hr, n, i, hn, hk, hs⟩
  · rintro ⟨⟨id, k⟩, hr, n, i, hn, hk, hs⟩
    exact ⟨n, ⟨id, hr, hn⟩, i, List.mem_of_getElem? hk, hs⟩

theorem Reached.lopsided_iff (h : net.Reached (rootNodes values) ids ns) :
    (∃ p ∈ ns.flatMap Node.parameters, ∃ q ∈ ns.flatMap Node.parameters,
      p.name = q.name ∧ p.default = none ∧ q.default ≠ none) ↔ net.Lopsided values := by
  simp only [h.mem_uses]
  constructor
  · rintro ⟨p, ⟨a, ha⟩, q, ⟨b, hb⟩, hrest⟩
    exact ⟨a, b, p, q, ha, hb, hrest⟩
  · rintro ⟨a, b, p, q, ha, hb, hrest⟩
    exact ⟨p, ⟨a, ha⟩, q, ⟨b, hb⟩, hrest⟩

def NodesAgree (net : Network) (a b : NodeId) : Prop :=
  ∀ n, net.node? a = some n → ∀ m, net.node? b = some m →
    ∀ p ∈ n.parameters, ∀ q ∈ m.parameters, p.Agree q

instance : Std.Symm net.NodesAgree where
  symm _ _ h n hn m hm p hp q hq := symm (h m hm n hn q hq p hp)

theorem Reached.pairwise_agree_iff (h : net.Reached (rootNodes values) ids ns) :
    (ns.flatMap Node.parameters).Pairwise Parameter.Agree ↔ ¬ net.Conflicting values := by
  have hmem : ∀ id, id ∈ ids ↔ net.ReachesFrom values id :=
    fun id => (h.order.mem_iff id).trans reaches_rootNodes
  have hns : ns.Pairwise (fun n m => ∀ p ∈ n.parameters, ∀ q ∈ m.parameters, p.Agree q) ↔
      ids.Pairwise net.NodesAgree := by
    rw [h.eq_filterMap, List.pairwise_filterMap]
    rfl
  rw [List.pairwise_flatMap, hns]
  constructor
  · rintro ⟨hwithin, hbetween⟩
    rintro ⟨⟨id, k⟩, ⟨id', l⟩, p, q, hne, ⟨hr, n, i, hn, hi, hp⟩, ⟨hr', m, j, hm, hj, hq⟩,
      hname, hdis⟩
    suffices p.Agree q by simp [this hname] at hdis
    by_cases hid : id = id'
    · -- Two inputs of one node.
      subst hid
      obtain rfl : n = m := Option.some.inj (hn.symm.trans hm)
      have hpos := Node.pairwise_parameters.mp (hwithin n
        (h.mem_iff.mpr ⟨id, reaches_rootNodes.mpr hr, hn⟩))
      have hkl : k ≠ l := fun he => hne (congrArg (Prod.mk id) he)
      rcases Nat.lt_or_gt_of_ne hkl with hlt | hlt
      · exact hpos hlt hi hj hp hq
      · exact symm (hpos hlt hj hi hq hp)
    · exact hbetween.forall ((hmem id).mpr hr) ((hmem id').mpr hr') hid
        n hn m hm p (Node.mem_parameters.mpr ⟨i, List.mem_of_getElem? hi, hp⟩)
        q (Node.mem_parameters.mpr ⟨j, List.mem_of_getElem? hj, hq⟩)
  · intro hc
    have hagree : ∀ {a b p q}, a ≠ b → net.ReadsParameter values a p →
        net.ReadsParameter values b q → p.Agree q := by
      intro a b p q hne ha hb hname
      by_contra hdis
      exact hc ⟨a, b, p, q, hne, ha, hb, hname, by simpa using hdis⟩
    refine ⟨fun n hn => ?_, h.order.nodup.imp_of_mem ?_⟩
    · obtain ⟨id, hr, hn⟩ := h.mem_iff.mp hn
      rw [reaches_rootNodes] at hr
      refine Node.pairwise_parameters.mpr fun k l i j p q hlt hi hj hp hq => ?_
      exact hagree (a := (id, k)) (b := (id, l)) (by simp [hlt.ne]) ⟨hr, n, i, hn, hi, hp⟩
        ⟨hr, n, j, hn, hj, hq⟩
    · intro id id' hid hid' hne n hn m hm p hp q hq
      obtain ⟨i, hi, hp⟩ := Node.mem_parameters.mp hp
      obtain ⟨j, hj, hq⟩ := Node.mem_parameters.mp hq
      obtain ⟨k, hk⟩ := List.mem_iff_getElem?.mp hi
      obtain ⟨l, hl⟩ := List.mem_iff_getElem?.mp hj
      exact hagree (a := (id, k)) (b := (id', l)) (fun he => hne (congrArg Prod.fst he))
        ⟨(hmem id).mp hid, n, i, hn, hk, hp⟩
        ⟨(hmem id').mp hid', m, j, hm, hl, hq⟩

theorem exists_reached (hv : ∀ id, net.ReachesFrom values id → (net.node? id).isSome = true) :
    ∃ ids ns, net.reachableNodes (rootNodes values) = .ok ns ∧
      net.Reached (rootNodes values) ids ns :=
  exists_reachableNodes fun id hid => hv id (reaches_rootNodes.mp hid)

theorem exists_parameters (policy : ParameterPolicy)
    (hv : ∀ id, net.ReachesFrom values id → (net.node? id).isSome = true) :
    ∃ c, net.parameters policy (rootNodes values) = .ok c := by
  obtain ⟨_, ns, hns, _⟩ := exists_reached hv
  exact ⟨_, Outcome.bind_eq_ok.mpr ⟨ns, hns, rfl⟩⟩

theorem sums_of_parameters {roots : List NodeId} {c : Collected}
    (h : net.parameters policy roots = .ok c) :
    ∃ ids ns, net.Reached roots ids ns ∧ c.Sums policy (ns.flatMap Node.parameters) := by
  obtain ⟨ns, hns, hc⟩ := Outcome.bind_eq_ok.mp h
  obtain ⟨ids, hr⟩ := reached_of_reachableNodes hns
  exact ⟨ids, ns, hr, Outcome.pure_eq_ok.mp hc ▸ Collected.sums_foldl _ _⟩

theorem mem_parameters_iff {c : Collected} (h : net.parameters policy (rootNodes values) = .ok c)
    {p : Parameter} : p ∈ c.parameters ↔ net.FirstUse values p := by
  obtain ⟨ids, ns, hr, hs⟩ := sums_of_parameters h
  rw [hs.mem_parameters, hr.eq_filterMap]
  constructor
  · exact fun hf => ⟨ids, hr.order, hf⟩
  · rintro ⟨ids', hb, hf⟩
    rwa [hr.order.unique hb]

theorem FirstUse.exists_place {p : Parameter} (h : net.FirstUse values p) :
    ∃ place, net.ReadsParameter values place p := by
  obtain ⟨ids, hb, hf⟩ := h
  obtain ⟨n, hn, hp⟩ := List.mem_flatMap.mp (List.mem_of_find?_eq_some hf)
  obtain ⟨id, hid, hnode⟩ := List.mem_filterMap.mp hn
  obtain ⟨i, hi, hs⟩ := Node.mem_parameters.mp hp
  obtain ⟨k, hk⟩ := List.mem_iff_getElem?.mp hi
  exact ⟨(id, k), reaches_rootNodes.mp ((hb.mem_iff id).mp hid), n, i, hnode, hk, hs⟩

theorem mem_parameter_names {c : Collected}
    (h : net.parameters policy (rootNodes values) = .ok c) {name : Text} :
    name ∈ c.parameters.map (·.name) ↔
      ∃ place p, net.ReadsParameter values place p ∧ p.name = name := by
  obtain ⟨ids, ns, hr, hs⟩ := sums_of_parameters h
  rw [List.mem_map]
  constructor
  · rintro ⟨p, hp, hname⟩
    obtain ⟨place, hplace⟩ := ((mem_parameters_iff h).mp hp).exists_place
    exact ⟨place, p, hplace, hname⟩
  · rintro ⟨place, p, hplace, rfl⟩
    obtain ⟨f, hf⟩ := Parameter.exists_find? (hr.mem_uses.mpr ⟨place, hplace⟩)
    have hname : f.name = p.name := by simpa using List.find?_some hf
    exact ⟨f, hs.mem_parameters.mpr (by rw [hname, hf]), hname⟩

theorem conflicts_eq_nil_iff {c : Collected}
    (h : net.parameters policy (rootNodes values) = .ok c) :
    c.conflicts = [] ↔ policy = .firstWins ∨ ¬ net.Conflicting values := by
  obtain ⟨ids, ns, hr, hs⟩ := sums_of_parameters h
  rw [hs.conflicts_eq_nil, hr.pairwise_agree_iff]

theorem exists_conflict_messages_iff {c : Collected}
    (h : net.parameters policy (rootNodes values) = .ok c) :
    (∃ ms, c.conflicts.mapM Conflict.message = .ok ms) ↔
      policy = .firstWins ∨ ¬ net.Lopsided values := by
  obtain ⟨ids, ns, hr, hs⟩ := sums_of_parameters h
  have hnot : (∃ ms, c.conflicts.mapM Conflict.message = .ok ms) ↔
      ¬ ∃ k ∈ c.conflicts, k.first = none ∨ k.other = none := by
    simp only [Outcome.exists_mapM, Conflict.exists_message, not_exists, not_and, not_or]
  rw [hnot, hs.lopsided_iff, hr.lopsided_iff, not_and_or, not_not]

theorem mem_faults_iff {ms : List Text} (h : net.faults values = .ok ms) {m : Text} :
    m ∈ ms ↔ ∃ v, net.Occurs values v ∧ v.source = .fault m := by
  obtain ⟨ns, hns, hms⟩ := Outcome.bind_eq_ok.mp h
  obtain ⟨_, hr⟩ := reached_of_reachableNodes hns
  rw [← Outcome.pure_eq_ok.mp hms]
  simp only [List.mem_append, List.mem_filterMap, List.mem_flatMap, hr.mem_iff, reaches_rootNodes,
    Node.mem_faults, Value.fault?_eq_some]
  constructor
  · rintro (⟨v, hmem, hm⟩ | ⟨n, ⟨id, hid, hn⟩, i, hi, hm⟩)
    · exact ⟨v, Or.inl hmem, hm⟩
    · exact ⟨i.value, Or.inr ⟨id, n, i, hid, hn, hi, rfl⟩, hm⟩
  · rintro ⟨v, hmem | ⟨id, n, i, hid, hn, hi, rfl⟩, hm⟩
    · exact Or.inl ⟨v, hmem, hm⟩
    · exact Or.inr ⟨n, ⟨id, hid, hn⟩, i, hi, hm⟩

theorem exists_faults
    (hv : ∀ id, net.ReachesFrom values id → (net.node? id).isSome = true) :
    ∃ ms, net.faults values = .ok ms ∧
      ∀ m, m ∈ ms ↔ ∃ v, net.Occurs values v ∧ v.source = .fault m := by
  obtain ⟨_, ns, hns, _⟩ := exists_reached hv
  have hms : net.faults values = .ok _ := Outcome.bind_eq_ok.mpr ⟨ns, hns, rfl⟩
  exact ⟨_, hms, fun _ => mem_faults_iff hms⟩

end Network
end ShaderGraph
