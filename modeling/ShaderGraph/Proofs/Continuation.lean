import ShaderGraph.Proofs.Embedding
import ShaderGraph.Proofs.Rendering

/-!
# Compiling again after more calls

More calls add nodes, graphs and slots of graphs and touch nothing else. So a network is embedded in
whatever it grows into, with every node under its old handle, provided that the listed graphs have got
no new slots. A compilation then sees the old network in the new one: it comes to the same lines and
textures, or to the same problems.
-/
namespace ShaderGraph

namespace Network

variable {net net' : Network} {listed : List GraphId}

def Keeps (net : Network) (listed : List GraphId) (net' : Network) : Prop :=
  ∀ k ∈ listed, ∀ g, net.graph? k = some g → net'.graph? k = some g

theorem Grows.embeds (h : net.Grows net') (hkept : net.Keeps listed net') :
    net.Embeds id listed net' := by
  refine ⟨Function.injective_id, fun id n hn => ?_, fun k g hg => ?_, fun k hk g hg => ?_⟩
  · rw [n.rename_eq_self id_eq]
    exact h.node? hn
  · obtain ⟨g', hg', _, hname, _⟩ := h.graphs k g hg
    exact ⟨g', hg', hname⟩
  · rw [g.rename_eq_self id_eq]
    exact hkept k hk g hg

theorem graph?_of_addGraph {name : Text} {id : GraphId} (h : net.addGraph name = .ok (id, net'))
    {k : GraphId} {g : NodeGraph} (hg : net.graph? k = some g) : net'.graph? k = some g := by
  obtain ⟨_, _, he⟩ := addGraph_eq_ok.mp h
  obtain ⟨_, rfl⟩ := Prod.mk.inj he
  cases k with
  | zero => cases hg
  | succ k =>
    have hk : k < net.graphs.length := (List.getElem?_eq_some_iff.mp hg).1
    simpa only [graph?, List.getElem?_append_left hk] using hg

end Network

theorem Call.Effect.graph?_of_ne {net net' : Network} {c : Call} (h : c.Effect net net')
    {k : GraphId} {g : NodeGraph} (hk : c.declares ≠ some k) (hg : net.graph? k = some g) :
    net'.graph? k = some g := by
  have hset : ∀ {l : GraphId} {g₀ g' : NodeGraph}, c.declares = some l →
      net.graph? l = some g₀ → (net.setGraph l g').graph? k = some g := by
    intro l g₀ g' hl h₀
    have hne : k ≠ l := fun he => hk (he ▸ hl)
    rw [Network.graph?_setGraph_of_ne g' h₀ hne, hg]
  cases h with
  | nothing => exact hg
  | node he =>
    obtain ⟨_, _, _, _, hr⟩ := Network.addNode_eq_ok.mp he
    obtain ⟨_, rfl⟩ := Prod.mk.inj hr
    exact hg
  | reference he =>
    obtain ⟨_, _, _, hadd⟩ := Network.addReference_eq_ok.mp he
    obtain ⟨_, _, _, _, hr⟩ := Network.addNode_eq_ok.mp hadd
    obtain ⟨_, rfl⟩ := Prod.mk.inj hr
    exact hg
  | graph he => exact Network.graph?_of_addGraph he hg
  | input hl he =>
    obtain ⟨g₀, h₀, _, _, hr⟩ := Network.addGraphInput_eq_ok.mp he
    obtain ⟨_, rfl⟩ := Prod.mk.inj hr
    exact hset hl h₀
  | output hl he =>
    obtain ⟨g₀, h₀, _, _, hr⟩ := Network.addGraphOutput_eq_ok.mp he
    obtain ⟨_, rfl⟩ := Prod.mk.inj hr
    exact hset hl h₀

theorem Network.keeps_run {listed : List GraphId} (calls : List Call)
    (hc : ∀ c ∈ calls, ∀ k ∈ listed, c.declares ≠ some k) (net : Network) :
    net.Keeps listed (calls.foldl Call.apply net) := by
  induction calls generalizing net with
  | nil => exact fun _ _ _ hg => hg
  | cons c calls ih =>
    obtain ⟨hfirst, hrest⟩ := List.forall_mem_cons.mp hc
    intro k hk g hg
    exact ih hrest (c.apply net) k hk g ((c.effect net).graph?_of_ne (hfirst k hk) hg)

namespace Stage

/-- All that the material and its listed graphs refer to exists. -/
structure Material.Over (mat : Material) (net : Network) : Prop where
  listed : ∀ k ∈ mat.nodeGraphs, (net.graph? k).isSome = true
  resolves : ∀ v ∈ rootValues net mat, net.Resolves v

theorem compile_of_grows {net net' : Network} {mat : Material} (settings : Settings)
    (h : net.Grows net') (hkept : net.Keeps mat.nodeGraphs net') :
    (∃ m, m.Dangling ∧ compile settings net mat = .error (.misuse m)) ∨
      compile settings net' mat = compile settings net mat := by
  have hcarried := compile_carried (h.embeds hkept) settings
  rw [mat.rename_eq_self id_eq] at hcarried
  refine hcarried.imp_right fun he => ?_
  rw [he]
  cases compile settings net mat with
  | error e => rfl
  | ok c => exact congrArg Except.ok (c.rename_eq_self id_eq)

theorem appendLines_of_grows {net net' : Network} {mat : Material} (settings : Settings)
    (dst : List Text) (h : net.Grows net') (hkept : net.Keeps mat.nodeGraphs net') :
    (∃ m, m.Dangling ∧ appendLines settings dst net mat = .error m) ∨
      appendLines settings dst net' mat = appendLines settings dst net mat := by
  rcases compile_of_grows settings h hkept with ⟨m, hm, hc⟩ | hc
  · exact Or.inl ⟨m, hm, by rw [appendLines, hc]⟩
  · exact Or.inr (by rw [appendLines, appendLines, hc])

theorem Material.Over.appendLines_cases {net : Network} {mat : Material} (h : mat.Over net)
    (hs : net.Sound) (settings : Settings) : (∃ c, compile settings net mat = .ok c) ∨
      ∃ e, ∀ dst, appendLines settings dst net mat = .ok ⟨dst, [], some e⟩ := by
  unfold appendLines
  rcases @compile_cases_of_resolves settings net mat hs h.resolves h.listed with
    hc | hc | ⟨faults, _, hc⟩
  · exact Or.inl hc
  · exact Or.inr ⟨.emptyName, fun dst => by rw [hc]⟩
  · exact Or.inr ⟨.faults faults, fun dst => by rw [hc]⟩

theorem Material.Over.appendLines_returns {net : Network} {mat : Material} (h : mat.Over net)
    (hs : net.Sound) (settings : Settings) (dst : List Text) :
    ∃ r, appendLines settings dst net mat = .ok r := by
  rcases h.appendLines_cases hs settings with ⟨c, hc⟩ | ⟨e, he⟩
  · exact ⟨_, by rw [appendLines, hc]⟩
  · exact ⟨_, he dst⟩

/-- A session may go on with any calls that leave the slots of the listed graphs alone, as all calls do
that declare nothing on them. What is then added to lines for a material is what was added before, or
the same problems are found. Only a handle that led nowhere before may lead somewhere now, and a
material over the network has none. -/
theorem appendLines_continued (settings : Settings) (dst : List Text) (calls later : List Call)
    (mat : Material) :
    ((∀ c ∈ later, ∀ k ∈ mat.nodeGraphs, c.declares ≠ some k) →
      (Network.after calls).Keeps mat.nodeGraphs (.after (calls ++ later))) ∧
    ((Network.after calls).Keeps mat.nodeGraphs (.after (calls ++ later)) →
      ((∃ m, m.Dangling ∧ appendLines settings dst (.after calls) mat = .error m) ∨
        appendLines settings dst (.after (calls ++ later)) mat =
          appendLines settings dst (.after calls) mat) ∧
      (mat.Over (.after calls) → ∃ r, appendLines settings dst (.after calls) mat = .ok r ∧
        appendLines settings dst (.after (calls ++ later)) mat = .ok r)) := by
  have hrun : Network.after (calls ++ later) = later.foldl Call.apply (.after calls) :=
    List.foldl_append
  rw [hrun]
  refine ⟨fun hc => Network.keeps_run later hc _, fun hkept => ?_⟩
  have hsame := appendLines_of_grows settings dst (Network.grows_run later _) hkept
  refine ⟨hsame, fun hover => ?_⟩
  obtain ⟨r, hr⟩ := hover.appendLines_returns (Network.sound_after calls) settings dst
  rw [hr] at hsame
  rcases hsame with ⟨m, _, he⟩ | he
  · cases he
  · exact ⟨r, hr, he⟩

def glowCalls : List Call :=
  [.graph "Glow", .graphInput 2 "strength" DataType.scalarFloat, .reference 1 [],
   .sin ⟨DataType.scalarFloat, .node 4 "scaled"⟩]

theorem scaled_eq_after : scaled.1 = .after scaledCalls := by decide +kernel

theorem lamp_continued : lamp.Over (.after scaledCalls) ∧
    (∀ c ∈ glowCalls, ∀ k ∈ lamp.nodeGraphs, c.declares ≠ some k) ∧
    ∃ r, appendLines .standard [] (.after scaledCalls) lamp = .ok r ∧
      appendLines .standard [] (.after (scaledCalls ++ glowCalls)) lamp = .ok r := by
  have hsurface : lamp.surface ∈ scaled.2 := by decide +kernel
  have hover : lamp.Over (.after scaledCalls) := by
    rw [← scaled_eq_after]
    exact ⟨by decide +kernel, rootValues_resolve scaled_session (Or.inr hsurface) (Or.inl .absent)⟩
  have hcalls : ∀ c ∈ glowCalls, ∀ k ∈ lamp.nodeGraphs, c.declares ≠ some k := by decide
  obtain ⟨hkeeps, hsame⟩ := appendLines_continued .standard [] scaledCalls glowCalls lamp
  exact ⟨hover, hcalls, (hsame (hkeeps hcalls)).2 hover⟩

end Stage
end ShaderGraph
