import ShaderGraph.Proofs.Typing

/-!
# The uses of parameters in order

The nodes that roots reach, breadth first, read parameters on their inputs, and this puts the uses of
parameters in an order. `Collected.Exact` says what one pass over the uses makes of them: the first
use of each name, and each clash of a later use with the first one of its name, unless an equal clash
was recorded before it. Equality is that of numbers, so a default that is not a number clashes with
itself, once for every use after the first.
-/
namespace ShaderGraph

theorem eraseDupsBy_loop_concat {α : Type} (r : α → α → Bool) (xs : List α) (x : α)
    (kept : List α) : List.eraseDupsBy.loop r (xs ++ [x]) kept =
      List.eraseDupsBy.loop r xs kept ++
        if (List.eraseDupsBy.loop r xs kept).any (r x) then [] else [x] := by
  induction xs generalizing kept with
  | nil =>
    rw [List.nil_append, List.eraseDupsBy.loop, List.eraseDupsBy.loop, List.any_reverse]
    cases kept.any (r x) <;> simp [List.eraseDupsBy.loop]
  | cons y ys ih =>
    rw [List.cons_append, List.eraseDupsBy.loop, List.eraseDupsBy.loop]
    cases kept.any (r y)
    · exact ih (y :: kept)
    · exact ih kept

theorem eraseDupsBy_concat {α : Type} (r : α → α → Bool) (xs : List α) (x : α) :
    (xs ++ [x]).eraseDupsBy r =
      xs.eraseDupsBy r ++ if (xs.eraseDupsBy r).any (r x) then [] else [x] :=
  eraseDupsBy_loop_concat r xs x []

theorem pairwise_eraseDupsBy {α : Type} {r : α → α → Bool} (hr : ∀ x y, r x y = r y x)
    (xs : List α) : (xs.eraseDupsBy r).Pairwise fun x y => r x y = false := by
  induction xs using List.reverseRecOn with
  | nil => exact .nil
  | append_singleton xs x ih =>
    rw [eraseDupsBy_concat]
    split
    · rwa [List.append_nil]
    · rename_i hany
      refine List.pairwise_append.mpr ⟨ih, List.pairwise_singleton _ _, fun y hy z hz => ?_⟩
      simp only [List.any_eq_true, not_exists, not_and, Bool.not_eq_true] at hany
      rw [List.mem_singleton.mp hz, hr]
      exact hany y hy

theorem mem_of_mem_eraseDupsBy {α : Type} {r : α → α → Bool} {xs : List α} {x : α}
    (h : x ∈ xs.eraseDupsBy r) : x ∈ xs := by
  induction xs using List.reverseRecOn with
  | nil => exact h
  | append_singleton xs y ih =>
    rw [eraseDupsBy_concat] at h
    split at h
    · exact List.mem_append_left _ (ih (by simpa using h))
    · exact List.mem_append.mpr ((List.mem_append.mp h).imp_left ih)

/-! ## First uses and clashes -/

def Parameter.firsts (uses : List Parameter) : List Parameter :=
  uses.eraseDupsBy fun p q => q.name = p.name

/-- The clash of a use with the first one of its name among those before it. -/
def Parameter.clash? (earlier : List Parameter) (p : Parameter) : Option Conflict :=
  match earlier.find? (·.name = p.name) with
  | none => none
  | some first =>
    if Constant.agree? first.default p.default then none
    else some ⟨p.name, first.default, p.default⟩

def clashes (uses : List Parameter) : List Conflict :=
  uses.zipIdx.filterMap fun (p, k) => p.clash? (uses.take k)

theorem clashes_concat (uses : List Parameter) (p : Parameter) :
    clashes (uses ++ [p]) = clashes uses ++ (p.clash? uses).toList := by
  have hearlier : ∀ x ∈ uses.zipIdx,
      x.1.clash? ((uses ++ [p]).take x.2) = x.1.clash? (uses.take x.2) := by
    intro x hx
    rw [List.take_append_of_le_length (List.snd_lt_of_mem_zipIdx hx).le]
  have hlast : ([p].zipIdx uses.length).filterMap
      (fun x => x.1.clash? ((uses ++ [p]).take x.2)) = (p.clash? uses).toList := by
    rw [List.zipIdx_singleton, List.filterMap_cons, List.take_left]
    cases p.clash? uses <;> rfl
  rw [clashes, List.zipIdx_append, List.filterMap_append, List.filterMap_congr hearlier,
    Nat.zero_add, hlast, clashes]

theorem Conflict.agrees_comm (a b : Conflict) : a.agrees b = b.agrees a := by
  rw [agrees, agrees, Constant.agree?_comm a.first, Constant.agree?_comm a.other, Bool.beq_comm]

namespace Collected

theorem foldl_parameters (policy : ParameterPolicy) (uses : List Parameter) :
    (uses.foldl (Collected.add policy) ⟨[], []⟩).parameters = Parameter.firsts uses := by
  induction uses using List.reverseRecOn with
  | nil => rfl
  | append_singleton uses p ih =>
    rw [List.foldl_append, Parameter.firsts, eraseDupsBy_concat, ← Parameter.firsts, ← ih,
      ← List.isSome_find?, List.foldl_cons, List.foldl_nil, Collected.add]
    split
    · rename_i hnone
      simp [hnone]
    · rename_i first hfirst
      dsimp only
      split <;> simp [hfirst]

theorem foldl_conflicts {policy : ParameterPolicy} (hp : policy ≠ .firstWins)
    (uses : List Parameter) : (uses.foldl (Collected.add policy) ⟨[], []⟩).conflicts =
      (clashes uses).eraseDupsBy Conflict.agrees := by
  induction uses using List.reverseRecOn with
  | nil => rfl
  | append_singleton uses p ih =>
    have hfirst := (sums_foldl policy uses).first p.name
    rw [List.foldl_append, List.foldl_cons, List.foldl_nil, clashes_concat, Collected.add, hfirst,
      ih]
    cases hfind : uses.find? (·.name = p.name) with
    | none => simp [Parameter.clash?, hfind]
    | some first =>
      by_cases hagree : Constant.agree? first.default p.default = true
      · simp [Parameter.clash?, hfind, hagree, ih]
      · have hclash : p.clash? uses = some ⟨p.name, first.default, p.default⟩ := by
          simp [Parameter.clash?, hfind, hagree]
        rw [hclash, Option.toList_some, eraseDupsBy_concat]
        simp only [hagree, hp, decide_false, Bool.or_false, Bool.false_or,
          Conflict.agrees_comm _ ⟨p.name, first.default, p.default⟩]
        split <;> simp [ih]

theorem foldl_firstWins (uses : List Parameter) :
    (uses.foldl (Collected.add .firstWins) ⟨[], []⟩).conflicts = [] :=
  (sums_foldl .firstWins uses).conflicts_eq_nil.mpr (Or.inl rfl)

end Collected

theorem first_of_mem_clashes {uses : List Parameter} {k : Conflict} (hk : k ∈ clashes uses) :
    uses.find? (·.name = k.name) = some ⟨k.name, k.first⟩ := by
  induction uses using List.reverseRecOn with
  | nil => simp [clashes] at hk
  | append_singleton uses p ih =>
    rw [clashes_concat, List.mem_append] at hk
    rw [List.find?_append]
    rcases hk with hk | hk
    · rw [ih hk, Option.some_or]
    · rw [Option.mem_toList, Parameter.clash?] at hk
      cases hfind : uses.find? (·.name = p.name) with
      | none => simp [hfind] at hk
      | some first =>
        have hname : first.name = p.name := by simpa using List.find?_some hfind
        simp only [hfind] at hk
        split at hk
        · cases hk
        · cases hk
          rw [hfind, ← hname, Option.some_or]

structure Collected.Exact (policy : ParameterPolicy) (uses : List Parameter) (c : Collected) :
    Prop where
  parameters : c.parameters = Parameter.firsts uses
  lenient : policy = .firstWins → c.conflicts = []
  refused : policy ≠ .firstWins → (c.conflicts ≠ [] ↔ ∃ p q, [p, q].Sublist uses ∧
    p.name = q.name ∧ Constant.agree? p.default q.default = false)
  conflicts : policy ≠ .firstWins → c.conflicts = (clashes uses).eraseDupsBy Conflict.agrees
  distinct : c.conflicts.Pairwise fun a b => a.agrees b = false
  first : ∀ k ∈ c.conflicts, ⟨k.name, k.first⟩ ∈ c.parameters

namespace Collected

variable {policy : ParameterPolicy} {uses : List Parameter} {c : Collected}

theorem Sums.refused_iff (h : Sums policy uses c) (hp : policy ≠ .firstWins) :
    c.conflicts ≠ [] ↔ ∃ p q, [p, q].Sublist uses ∧ p.name = q.name ∧
      Constant.agree? p.default q.default = false := by
  rw [Ne, h.conflicts_eq_nil, or_iff_right hp, List.pairwise_iff_forall_sublist]
  simp only [Parameter.Agree, not_forall, Bool.not_eq_true, exists_prop]

theorem exact_foldl (policy : ParameterPolicy) (uses : List Parameter) :
    Exact policy uses (uses.foldl (Collected.add policy) ⟨[], []⟩) := by
  have hs := sums_foldl policy uses
  by_cases hp : policy = .firstWins
  · subst hp
    have hnone := foldl_firstWins uses
    exact
      { parameters := foldl_parameters _ uses
        lenient := fun _ => hnone
        refused := fun h => absurd rfl h
        conflicts := fun h => absurd rfl h
        distinct := by rw [hnone]; exact .nil
        first := by simp [hnone] }
  · have hconflicts := foldl_conflicts hp uses
    exact
      { parameters := foldl_parameters _ uses
        lenient := fun h => absurd h hp
        refused := hs.refused_iff
        conflicts := fun _ => hconflicts
        distinct := hconflicts ▸ pairwise_eraseDupsBy Conflict.agrees_comm _
        first := fun k hk => hs.mem_parameters.mpr
          (first_of_mem_clashes (mem_of_mem_eraseDupsBy (hconflicts ▸ hk))) }

end Collected

/-! ## Collecting from a network -/

namespace Network

variable {net : Network} {roots ids : List NodeId}

def uses (net : Network) (ids : List NodeId) : List Parameter :=
  (ids.filterMap net.node?).flatMap Node.parameters

theorem parameters_eq_foldl (hids : net.appendReachable [] roots = .ok ids)
    (policy : ParameterPolicy) : net.parameters policy roots =
      .ok ((net.uses ids).foldl (Collected.add policy) ⟨[], []⟩) := by
  obtain ⟨ns, hns, rfl⟩ := reachableNodes_of_appendReachable hids
  exact Outcome.bind_eq_ok.mpr ⟨_, hns, rfl⟩

theorem exists_of_parameters {policy : ParameterPolicy} {c : Collected}
    (h : net.parameters policy roots = .ok c) :
    ∃ ids, net.appendReachable [] roots = .ok ids ∧ c.Exact policy (net.uses ids) := by
  obtain ⟨ns, hns, _⟩ := Outcome.bind_eq_ok.mp h
  obtain ⟨ids, hids, _⟩ := Outcome.bind_eq_ok.mp hns
  rw [parameters_eq_foldl hids] at h
  exact ⟨ids, hids, Except.ok.inj h ▸ Collected.exact_foldl _ _⟩

end Network

namespace Stage

variable {settings : Settings} {net : Network} {mat : Material} {c : Compiled}

theorem check_firstWins {parameters : List Parameter}
    (h : check { settings with policy := .strict } net mat = .ok ([], parameters)) :
    check { settings with policy := .firstWins } net mat = .ok ([], parameters) := by
  obtain ⟨⟨listed, outputs⟩, hlisted, h⟩ := Outcome.bind_eq_ok.mp h
  obtain ⟨unlisted, hunlisted, h⟩ := Outcome.bind_eq_ok.mp h
  obtain ⟨found, hfound, h⟩ := Outcome.bind_eq_ok.mp h
  obtain ⟨collected, hcollected, h⟩ := Outcome.bind_eq_ok.mp h
  obtain ⟨conflicts, _, h⟩ := Outcome.bind_eq_ok.mp h
  obtain ⟨hnone, hparameters⟩ := Prod.mk.inj (Outcome.pure_eq_ok.mp h)
  obtain ⟨ids, hids, hexact⟩ := Network.exists_of_parameters hcollected
  -- Both policies keep the first use of each name, and the second one finds no conflict at all.
  have hfirst := Collected.exact_foldl .firstWins (net.uses ids)
  refine Outcome.bind_eq_ok.mpr ⟨_, hlisted, Outcome.bind_eq_ok.mpr ⟨_, hunlisted,
    Outcome.bind_eq_ok.mpr ⟨_, hfound, Outcome.bind_eq_ok.mpr
      ⟨_, Network.parameters_eq_foldl hids .firstWins, ?_⟩⟩⟩⟩
  rw [hfirst.lenient rfl, hfirst.parameters, ← hexact.parameters, hparameters]
  rw [List.append_eq_nil_iff] at hnone
  rw [List.mapM_nil]
  exact congrArg (fun faults => Except.ok (faults ++ [], parameters)) hnone.1

theorem compile_firstWins (h : compile { settings with policy := .strict } net mat = .ok c) :
    compile { settings with policy := .firstWins } net mat = .ok c := by
  obtain ⟨hn, parameters, hcheck, hbuild⟩ := compile_eq_ok h
  have hsame : (renderer net).build { settings with policy := .firstWins } net mat parameters =
      .ok c := hbuild
  rw [compile_checked hn (check_firstWins hcheck), hsame]
  rfl

theorem source?_eq_some {d : Constant} {source : TextureSource} :
    d.source? = some source ↔ d = .asset (some source) := by
  cases d <;> simp [Constant.source?]

theorem mem_boundTextures {parameters : List Parameter} {name : Text} {source : TextureSource} :
    (name, source) ∈ boundTextures parameters ↔
      ⟨name, some (.asset (some source))⟩ ∈ parameters := by
  simp only [boundTextures, List.mem_filterMap, Option.map_eq_some_iff, Option.bind_eq_some_iff,
    source?_eq_some, Prod.mk.injEq]
  constructor
  · rintro ⟨⟨_, _⟩, hp, _, ⟨_, rfl, rfl⟩, rfl, rfl⟩
    exact hp
  · exact fun hp => ⟨_, hp, source, ⟨_, rfl, rfl⟩, rfl, rfl⟩

theorem boundTextures_names (parameters : List Parameter) :
    ((boundTextures parameters).map Prod.fst).Sublist (parameters.map (·.name)) := by
  induction parameters with
  | nil => exact .slnil
  | cons p ps ih =>
    rw [boundTextures, List.filterMap_cons, ← boundTextures]
    cases p.default.bind Constant.source? with
    | none => exact ih.cons _
    | some source => exact ih.cons_cons _

theorem textures_of_compile (h : compile settings net mat = .ok c) :
    ∃ ids, net.appendReachable [] (materialRoots mat) = .ok ids ∧
      (c.textures.map Prod.fst).Nodup ∧ ∀ name source, (name, source) ∈ c.textures ↔
        (net.uses ids).find? (·.name = name) = some ⟨name, some (.asset (some source))⟩ := by
  obtain ⟨_, parameters, hcheck, hbuild⟩ := compile_eq_ok h
  obtain ⟨_, _, _, _, rfl⟩ := build_eq_ok.mp hbuild
  obtain ⟨collected, hcollected, rfl⟩ := parameters_of_check hcheck
  obtain ⟨ids, hids, _⟩ := Network.exists_of_parameters hcollected
  rw [Network.parameters_eq_foldl hids] at hcollected
  have hs := Except.ok.inj hcollected ▸ Collected.sums_foldl settings.policy (net.uses ids)
  exact ⟨ids, hids, hs.nodup.sublist (boundTextures_names _),
    fun name source => mem_boundTextures.trans hs.mem_parameters⟩

end Stage

/-- Collecting parameters is exact. The parameters are the first uses of their names, the conflicts
are the clashes with them, and the policy decides only whether clashes count. So a material that
compiles where they do compiles to the same document where they do not. -/
theorem Network.parameters_exact (net : Network) :
    (∀ roots, (∀ id, net.Reaches roots id → (net.node? id).isSome = true) →
      ∃ ids, net.appendReachable [] roots = .ok ids ∧
        ∀ policy, ∃ c, net.parameters policy roots = .ok c ∧ c.Exact policy (net.uses ids)) ∧
    (∀ (settings : Stage.Settings) mat c,
      Stage.compile { settings with policy := .strict } net mat = .ok c →
        Stage.compile { settings with policy := .firstWins } net mat = .ok c) ∧
    ∀ settings mat c, Stage.compile settings net mat = .ok c →
      ∃ ids, net.appendReachable [] (Stage.materialRoots mat) = .ok ids ∧
        (c.textures.map Prod.fst).Nodup ∧ ∀ name source, (name, source) ∈ c.textures ↔
          (net.uses ids).find? (·.name = name) = some ⟨name, some (.asset (some source))⟩ := by
  refine ⟨fun roots hv => ?_, fun _ _ _ => Stage.compile_firstWins,
    fun _ _ _ => Stage.textures_of_compile⟩
  obtain ⟨ids, hids, _⟩ := exists_appendReachable hv
  exact ⟨ids, hids, fun policy => ⟨_, parameters_eq_foldl hids policy,
    Collected.exact_foldl policy _⟩⟩

theorem Network.Sound.isSome_of_reaches {net : Network} (hs : net.Sound) {roots : List NodeId}
    (hr : ∀ r ∈ roots, (net.node? r).isSome = true) {id : NodeId} (h : net.Reaches roots id) :
    (net.node? id).isSome = true := by
  refine h.induction (P := fun id => (net.node? id).isSome = true) hr ?_
  intro a b _ ⟨n, hn, hb⟩
  obtain ⟨i, hi, slot, hslot⟩ := Node.mem_sources.mp hb
  have hresolves := (hs.wired n (mem_nodes_of_node? hn) i hi).resolves
  rw [Resolves, hslot] at hresolves
  obtain ⟨m, hm, _⟩ := hresolves
  simp [hm]

def numbered (name : Text) (x : Single) : Input :=
  ⟨name, DataType.scalarFloat, .ofParameter "glow" (.scalar x)⟩

def rivalCalls : List Call :=
  [.node "Base" [numbered "a" .zero] [⟨"out", DataType.scalarFloat⟩],
   .node "Blend" [⟨"base", DataType.scalarFloat, ⟨DataType.scalarFloat, .node 1 "out"⟩⟩,
     numbered "b" ⟨true, 0⟩, numbered "c" .nan, numbered "d" Constant.one, numbered "e" .nan,
     numbered "f" Constant.one] [⟨"out", DataType.token⟩]]

theorem rivals_parameters_exact : ∃ ids c,
    (Network.after rivalCalls).appendReachable [] [2] = .ok ids ∧
    (Network.after rivalCalls).parameters .strict [2] = .ok c ∧
    c.Exact .strict ((Network.after rivalCalls).uses ids) ∧
    c.conflicts.map (·.other) = [.nan, Constant.one, .nan].map fun x => some (.float .one #v[x]) := by
  have hroots : ∀ r ∈ [2], ((Network.after rivalCalls).node? r).isSome = true := by decide +kernel
  obtain ⟨ids, hids, hall⟩ := (Network.after rivalCalls).parameters_exact.1 [2]
    fun _ => (Network.sound_after rivalCalls).isSome_of_reaches hroots
  obtain ⟨c, hc, hexact⟩ := hall .strict
  have hothers : ((Network.after rivalCalls).parameters .strict [2]).map
      (fun c => c.conflicts.map (·.other)) =
        .ok ([.nan, Constant.one, .nan].map fun x => some (.float .one #v[x])) := by
    decide +kernel
  rw [hc] at hothers
  exact ⟨ids, c, hids, hc, hexact, Except.ok.inj hothers⟩

end ShaderGraph
