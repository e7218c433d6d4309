import Mathlib.Logic.Equiv.Defs
import Mathlib.Order.WellFounded
import ShaderGraph.Proofs.Charts

/-!
# Faithful loads

What a file that is read says of the nodes that are built. The declared nodes of all scopes, the top
level and the graphs, are the nodes of the network one by one, and each slot of a node holds what the
expression in its place stands for in the scope around.
-/
namespace ShaderGraph

/-! ## Types -/

theorem TypeTag.eq_ofDataType {t : TypeTag} {type : DataType} (h : t.dataType? = some type) :
    t = ofDataType type := by
  obtain ⟨code⟩ := t
  unfold dataType? at h
  split at h
  · cases h
  · rename_i n hn
    obtain ⟨hlt, rfl⟩ := List.getElem?_eq_some_iff.mp h
    have hindex : DataType.all.idxOf DataType.all[n] = n :=
      List.Nodup.idxOf_getElem (by decide) n hlt
    have hcode : code.toNat = n + 1 := hn
    rw [ofDataType, hindex, ← hcode]
    exact congrArg TypeTag.mk UInt8.ofNat_toNat.symm

namespace Constant

theorem dataType_withColorSpace (space : Text) (c : Constant) :
    (c.withColorSpace space).dataType = c.dataType := by
  cases c <;> rfl

theorem dataType_defaultOf (type : DataType) : (defaultOf type).dataType = type := by
  cases type <;> rfl

theorem dataType_ofVector {type : DataType} {xs : List Double} {c : Constant}
    (h : ofVector type xs = .ok c) : c.dataType = type := by
  unfold ofVector at h
  cases type with
  | string => cases h
  | token => cases h
  | asset => cases h
  | bool =>
    dsimp only at h
    split at h
    · obtain rfl := Except.ok.inj h
      rfl
    · cases h
  | int lanes =>
    dsimp only at h
    split at h
    · cases h
    · obtain ⟨ns, _, h⟩ := Outcome.bind_eq_ok.mp h
      split at h
      · obtain rfl := Outcome.pure_eq_ok.mp h
        rfl
      · cases h
  | _ =>
    dsimp only at h
    split at h
    · obtain rfl := Except.ok.inj h
      rfl
    · cases h

end Constant

namespace Blueprint

open Config (Expr Span Datum)

theorem dataType_constantOf {type : DataType} {d : Datum} {c : Constant}
    (h : constantOf type d = .ok c) : c.dataType = type := by
  unfold constantOf at h
  split at h
  · cases h
  · split at h
    · cases h
    · cases type with
      | asset => cases h
      | bool | string | token =>
        obtain ⟨x, _, h⟩ := Outcome.bind_eq_ok.mp h
        obtain rfl := Outcome.pure_eq_ok.mp h
        rfl
      | _ =>
        obtain ⟨xs, _, h⟩ := Outcome.bind_eq_ok.mp h
        rw [Outcome.mapError_eq_ok, Constant.ofComponents, TypeTag.dataType?_ofDataType] at h
        exact Constant.dataType_ofVector h

theorem dataType_literal {type : DataType} {e? : Option Expr} {space : Text} {subject : Span}
    {c : Constant} (h : literal type e? space subject = .ok c) : c.dataType = type := by
  unfold literal at h
  split at h
  · cases h
  · split at h
    · obtain rfl := Except.ok.inj h
      rw [Constant.dataType_withColorSpace, Constant.dataType_defaultOf]
    · dsimp only at h
      split at h
      · cases h
      · split at h
        · rename_i d hd
          obtain rfl := Except.ok.inj h
          rw [Constant.dataType_withColorSpace, dataType_constantOf hd]
        · cases h

/-! ## Scopes and references -/

def nodesOf (bp : Blueprint) : Option (Fin bp.graphs.length) → List Node
  | none => bp.nodes
  | some k => (bp.graphs.get k).nodes

structure Site (bp : Blueprint) where
  scope : Option (Fin bp.graphs.length)
  index : Fin (bp.nodesOf scope).length

def Site.node {bp : Blueprint} (site : Site bp) : Node := (bp.nodesOf site.scope).get site.index

inductive Mentions (e : Expr) : Scope.Target → Prop
  | onlyOutput {x : Text} : e.reference? = some (Text.ofString "node", [.attribute x]) →
      Mentions e (.node x none)
  | output {x o : Text} :
      e.reference? = some (Text.ofString "node", [.attribute x, .attribute o]) →
      Mentions e (.node x (some o))
  | parameter {p : Text} : e.reference? = some (Text.ofString "param", [.attribute p]) →
      Mentions e (.parameter p)
  | graphInput {i : Text} : e.reference? = some (Text.ofString "input", [.attribute i]) →
      Mentions e (.graphInput i)

theorem mentions_iff {e : Expr} {t : Scope.Target} : Mentions e t ↔ Refers e t := by
  constructor
  · rintro (h | h | h | h) <;> exact ⟨_, _, h, rfl⟩
  · rintro ⟨root, steps, href, htarget⟩
    unfold Scope.target at htarget
    dsimp only at htarget
    split at htarget
    · split at htarget
      · rename_i hroot
        obtain rfl := Except.ok.inj htarget
        exact .onlyOutput (hroot ▸ href)
      · split at htarget
        · rename_i hroot
          obtain rfl := Except.ok.inj htarget
          exact .parameter (hroot ▸ href)
        · split at htarget
          · rename_i hroot
            obtain rfl := Except.ok.inj htarget
            exact .graphInput (hroot ▸ href)
          · cases htarget
    · split at htarget
      · rename_i hroot
        obtain rfl := Except.ok.inj htarget
        exact .output (hroot ▸ href)
      · cases htarget
    · cases htarget

theorem Picks.unique {net : Network} {id : NodeId} {output? : Option Text} {v v' : Value}
    (h : Picks net id output? v) (h' : Picks net id output? v') : v = v' := by
  obtain ⟨o, ho, hv⟩ := h
  obtain ⟨o', ho', hv'⟩ := h'
  have hsame : o = o' := by
    rcases ho with rfl | ⟨rfl, n, hn, hshows⟩
    · rcases ho' with h | ⟨h, _⟩
      · exact Option.some.inj h
      · cases h
    · rcases ho' with h | ⟨_, n', hn', hshows'⟩
      · cases h
      · obtain rfl := Option.some.inj (hn.symm.trans hn')
        split at hshows
        · rename_i href
          rw [if_pos href] at hshows'
          obtain ⟨g, hg, hnames⟩ := hshows
          obtain ⟨g', hg', hnames'⟩ := hshows'
          obtain rfl := Option.some.inj (hg.symm.trans hg')
          exact List.head_eq_of_cons_eq (hnames.trans hnames'.symm)
        · rename_i href
          rw [if_neg href] at hshows'
          exact List.head_eq_of_cons_eq (hshows.trans hshows'.symm)
  subst hsame
  exact Except.ok.inj (hv.symm.trans hv')

section

variable (bp : Blueprint) (net : Network) (parameters : List (Text × Constant))
  (place : bp.Site ≃ Fin net.nodes.length)

/-- The value that a reference stands for in a scope: an output of a node of the scope, a parameter at
the top level, an input of the graph inside one. -/
inductive Means (scope : Option (Fin bp.graphs.length)) : Scope.Target → Value → Prop
  | node {site : bp.Site} {name : Text} {output? : Option Text} {v : Value} : site.scope = scope →
      site.node.name = name → Picks net ((place site).val + 1) output? v →
      Means scope (.node name output?) v
  | parameter {name : Text} {c : Constant} : scope = none → parameters.lookup name = some c →
      Means scope (.parameter name) (.ofParameter name c)
  | graphInput {k : Fin bp.graphs.length} {g : NodeGraph} {i : ShaderGraph.GraphInput}
      {name : Text} : scope = some k → net.graph? (k.val + 1) = some g → g.input? name = some i →
      Means scope (.graphInput name) ⟨i.type, .graphInput (k.val + 1) name⟩

structure Carries (scope : Option (Fin bp.graphs.length)) (i : Input) (type : DataType)
    (slot : ShaderGraph.Input) : Prop where
  name : slot.name = i.name
  typed : slot.type = type
  omitted : i.value = none → slot.value = .absent
  constant : ∀ e, i.value = some e → e.reference? = none →
    ∃ c, literal type (some e) i.colorSpace e.span = .ok c ∧ c.dataType = type ∧
      slot.value = .ofConstant c
  denotes : ∀ e, i.value = some e → e.reference? ≠ none →
    ∃ t v, Mentions e t ∧ Means bp net parameters place scope t v
  reference : ∀ e t v, i.value = some e → Mentions e t → Means bp net parameters place scope t v →
    (v.type = slot.type → slot.value = v) ∧
      (v.type ≠ slot.type → ∃ message, slot.value = .ofFault slot.type message)

inductive Renders (scope : Option (Fin bp.graphs.length)) (n : Node) (node : ShaderGraph.Node) :
    Prop
  | shader : n.type ≠ [] → n.graph = [] → node.type = n.type → node.graph = 0 →
      List.Forall₂ (fun i slot => ∃ type, DataType.parse i.type = .ok type ∧
        Carries bp net parameters place scope i type slot) n.inputs node.inputs →
      List.Forall₂ Scope.Offers n.outputs node.outputs → Renders scope n node
  | copy {g : NodeGraph} : n.graph ≠ [] → n.type = [] → node.type = Network.referenceType →
      net.graph? node.graph = some g → g.name = n.graph →
      List.Forall₂ (fun i slot => ∃ declared type, g.input? i.name = some declared ∧
        declared.type = TypeTag.ofDataType type ∧
        Carries bp net parameters place scope i type slot) n.inputs node.inputs →
      n.outputs = [] → node.outputs = [] → Renders scope n node

def Instantiates (graph other : GraphId) : Prop :=
  ∃ site k, site.scope = some k ∧ graph = k.val + 1 ∧ other ≠ 0 ∧
    (net.nodes.get (place site)).graph = other

/-- The network is what the blueprint says, with its nodes in the given places. -/
structure Faithful (base : Text) : Prop where
  defaults : List.Forall₂ (fun p entry => entry.1 = p.name ∧ p.constant base = .ok entry.2)
    bp.parameters parameters
  graphs : List.Forall₂ (fun b g => g.name = b.name ∧ List.Forall₂ GraphInput.Gives b.inputs g.inputs)
    bp.graphs net.graphs
  names : ∀ site site' : bp.Site, site.scope = site'.scope → site.node.name = site'.node.name →
    site = site'
  nodes : ∀ site : bp.Site, (net.nodes.get (place site)).id = (place site).val + 1 ∧
    Renders bp net parameters place site.scope site.node (net.nodes.get (place site))
  dependsOnEarlier : ∀ id source, net.Reads id source → source < id
  instantiatesEarlier : ∀ graph other, Instantiates bp net place graph other → other < graph
  dependency : WellFounded fun source id => net.Reads id source
  instantiation : WellFounded fun other graph => Instantiates bp net place graph other

end

variable {bp : Blueprint} {net : Network} {parameters : List (Text × Constant)}

theorem Means.isAbsent {place : bp.Site ≃ Fin net.nodes.length}
    {scope : Option (Fin bp.graphs.length)} {t : Scope.Target} {v : Value}
    (h : Means bp net parameters place scope t v) : v.isAbsent = false := by
  cases h with
  | node _ _ hpicks =>
    obtain ⟨_, _, hv⟩ := hpicks
    obtain ⟨_, _, hv⟩ := Outcome.bind_eq_ok.mp hv
    obtain rfl := Outcome.pure_eq_ok.mp hv
    rfl
  | parameter _ _ => rfl
  | graphInput _ _ _ => rfl

theorem Means.unique {place : bp.Site ≃ Fin net.nodes.length}
    (hnames : ∀ site site' : bp.Site, site.scope = site'.scope → site.node.name = site'.node.name →
      site = site') {scope : Option (Fin bp.graphs.length)} {t : Scope.Target} {v v' : Value}
    (h : Means bp net parameters place scope t v)
    (h' : Means bp net parameters place scope t v') : v = v' := by
  cases h with
  | node hscope hname hpicks =>
    cases h' with
    | node hscope' hname' hpicks' =>
      obtain rfl := hnames _ _ (hscope.trans hscope'.symm) (hname.trans hname'.symm)
      exact hpicks.unique hpicks'
  | parameter _ hlookup =>
    cases h' with
    | parameter _ hlookup' => rw [Option.some.inj (hlookup.symm.trans hlookup')]
  | graphInput hscope hg hinput =>
    cases h' with
    | graphInput hscope' hg' hinput' =>
      obtain rfl := Option.some.inj (hscope.symm.trans hscope')
      obtain rfl := Option.some.inj (hg.symm.trans hg')
      rw [Option.some.inj (hinput.symm.trans hinput')]

/-! ## Places -/

def position : Option (Fin bp.graphs.length) → Nat
  | none => bp.graphs.length
  | some k => k.val

theorem position_injective {scope scope' : Option (Fin bp.graphs.length)}
    (h : position scope = position scope') : scope = scope' := by
  cases scope with
  | none =>
    cases scope' with
    | none => rfl
    | some k => exact absurd h (Nat.ne_of_gt k.isLt)
  | some k =>
    cases scope' with
    | none => exact absurd h (Nat.ne_of_lt k.isLt)
    | some k' => exact congrArg some (Fin.ext h)

theorem exists_position {p : Nat} (h : p < bp.graphs.length + 1) :
    ∃ scope : Option (Fin bp.graphs.length), position scope = p := by
  rcases Nat.lt_succ_iff_lt_or_eq.mp h with hlt | rfl
  · exact ⟨some ⟨p, hlt⟩, rfl⟩
  · exact ⟨none, rfl⟩

variable (bp net parameters) in
def frameOf : Option (Fin bp.graphs.length) → Frame
  | none => ⟨none, parameters⟩
  | some k => ⟨(net.graph? (k.val + 1)).map fun g => (g.id, g.inputs), []⟩

structure Layout (bp : Blueprint) (net : Network) (parameters : List (Text × Constant))
    (bound : Nat → Nat) (handle : Option (Fin bp.graphs.length) → Text → Option NodeId) : Prop where
  sound : net.Sound
  mono : Monotone bound
  first : bound 0 = 0
  last : bound (bp.graphs.length + 1) = net.nodes.length
  charted : ∀ scope, Charted net (frameOf bp net parameters scope) (bp.nodesOf scope)
    (bound (position scope)) (bound (position scope + 1)) (handle scope)

theorem Graph.ChartedAll.declared {bs : List Graph} {gs : List NodeGraph} {low high : Nat}
    (h : Graph.ChartedAll net bs gs low high) : List.Forall₂ (fun b g => g.name = b.name ∧
      List.Forall₂ GraphInput.Gives b.inputs g.inputs) bs gs := by
  induction h with
  | nil _ => exact .nil
  | cons hb _ _ ih => exact .cons ⟨hb.name, hb.inputs⟩ ih

/-- The bounds of ranges, after one more range that starts at `low`. -/
def boundsFrom (low : Nat) (bound : Nat → Nat) : Nat → Nat
  | 0 => low
  | k + 1 => bound k

theorem Graph.ChartedAll.exists_bounds {bs : List Graph} {gs : List NodeGraph} {low high : Nat}
    (h : Graph.ChartedAll net bs gs low high) : ∃ bound : Nat → Nat, Monotone bound ∧
      bound 0 = low ∧ (∀ k, bs.length ≤ k → bound k = high) ∧ ∀ (k : Nat) (b : Graph),
        bs[k]? = some b → ∃ g handle, gs[k]? = some g ∧ b.Charted net g (bound k) (bound (k + 1)) handle := by
  induction h with
  | nil low => exact ⟨fun _ => low, fun _ _ _ => Nat.le_refl low, rfl, fun _ _ => rfl, by simp⟩
  | @cons b g bs gs low mid high handle hb hle _ ih =>
    obtain ⟨bound, hmono, hfirst, hlast, hall⟩ := ih
    refine ⟨boundsFrom low bound, monotone_nat_of_le_succ fun k => ?_, rfl, ?_, ?_⟩
    · cases k with
      | zero => exact hle.trans_eq hfirst.symm
      | succ k => exact hmono (Nat.le_succ k)
    · intro k hk
      cases k with
      | zero => simp at hk
      | succ k => exact hlast k (by simpa using hk)
    · intro k b' hk
      cases k with
      | zero =>
        obtain rfl := Option.some.inj hk
        exact ⟨g, handle, rfl, by simpa only [boundsFrom, hfirst] using hb⟩
      | succ k => exact hall k b' hk

theorem Chart.exists_layout {base : Text} {l : Loaded} {high : Nat} {top : Text → Option NodeId}
    (h : Chart bp base l parameters high top) :
    ∃ bound handle, Layout bp l.network parameters bound handle := by
  obtain ⟨bound, hmono, hfirst, hlast, hall⟩ := h.graphs.exists_bounds
  have hgraph : ∀ k : Fin bp.graphs.length, ∃ handle, Charted l.network
      (frameOf bp l.network parameters (some k)) (bp.nodesOf (some k)) (bound k.val)
      (bound (k.val + 1)) handle := by
    intro k
    obtain ⟨g, handle, hg, hb⟩ := hall k.val _ (List.getElem?_eq_getElem k.isLt)
    refine ⟨handle, ?_⟩
    have hg' : l.network.graph? (k.val + 1) = some g := hg
    rw [frameOf, hg']
    exact hb.nodes
  choose handle hhandle using hgraph
  -- The last range ends where the network does.
  let ends : Nat → Nat := fun k => if k ≤ bp.graphs.length then bound k else l.network.nodes.length
  have hends : ∀ k, k ≤ bp.graphs.length → ends k = bound k := fun k hk => if_pos hk
  have hhigh : bound bp.graphs.length = high := hlast _ (Nat.le_refl _)
  refine ⟨ends, fun | none => top | some k => handle k, h.sound, ?_, ?_, ?_, ?_⟩
  · refine monotone_nat_of_le_succ fun k => ?_
    rcases Nat.lt_trichotomy k bp.graphs.length with hlt | rfl | hgt
    · rw [hends k hlt.le, hends (k + 1) hlt]
      exact hmono (Nat.le_succ k)
    · rw [hends _ (Nat.le_refl _), hhigh, show ends (bp.graphs.length + 1) = _ from if_neg (by omega)]
      exact h.started
    · rw [show ends k = _ from if_neg (by omega), show ends (k + 1) = _ from if_neg (by omega)]
  · rw [hends 0 (Nat.zero_le _), hfirst]
  · exact if_neg (by omega)
  · intro scope
    cases scope with
    | none =>
      rw [position, hends _ (Nat.le_refl _), hhigh,
        show ends (bp.graphs.length + 1) = _ from if_neg (by omega)]
      exact h.nodes
    | some k =>
      rw [position, hends _ k.isLt.le, hends _ k.isLt]
      exact hhandle k

theorem Site.mem {bp : Blueprint} (site : bp.Site) : site.node ∈ bp.nodesOf site.scope :=
  List.get_mem _ _

namespace Layout

variable {bound : Nat → Nat} {handle : Option (Fin bp.graphs.length) → Text → Option NodeId}

theorem names (h : Layout bp net parameters bound handle) (site site' : bp.Site)
    (hscope : site.scope = site'.scope) (hname : site.node.name = site'.node.name) :
    site = site' := by
  obtain ⟨scope, index⟩ := site
  obtain ⟨_, index'⟩ := site'
  obtain rfl : scope = _ := hscope
  have hmap : ((bp.nodesOf scope).map (·.name))[index.val]? =
      ((bp.nodesOf scope).map (·.name))[index'.val]? := by
    simpa [Site.node] using hname
  have hindex : index.val = index'.val :=
    (List.getElem?_inj (by simp) (h.charted scope).names).mp hmap
  rw [Fin.ext hindex]

theorem exists_site (h : Layout bp net parameters bound handle) {scope : Option (Fin bp.graphs.length)}
    {name : Text} {id : NodeId} (hid : handle scope name = some id) :
    ∃ site : bp.Site, site.scope = scope ∧ site.node.name = name := by
  obtain ⟨n, hn, rfl⟩ := (h.charted scope).named name id hid
  obtain ⟨index, rfl⟩ := List.mem_iff_get.mp hn
  exact ⟨⟨scope, index⟩, rfl, rfl⟩

theorem scope_eq (h : Layout bp net parameters bound handle)
    {scope scope' : Option (Fin bp.graphs.length)} {name name' : Text} {id : NodeId}
    (hid : handle scope name = some id) (hid' : handle scope' name' = some id) : scope = scope' := by
  obtain ⟨hlow, hhigh⟩ := (h.charted scope).handle_bounds name id hid
  obtain ⟨hlow', hhigh'⟩ := (h.charted scope').handle_bounds name' id hid'
  apply position_injective
  rcases Nat.lt_trichotomy (position scope) (position scope') with hlt | heq | hgt
  · have hle := h.mono (Nat.succ_le_of_lt hlt)
    exact absurd (hhigh.trans hle) (Nat.not_le_of_lt hlow')
  · exact heq
  · have hle := h.mono (Nat.succ_le_of_lt hgt)
    exact absurd (hhigh'.trans hle) (Nat.not_le_of_lt hlow)

theorem exists_scope (h : Layout bp net parameters bound handle) {id : NodeId} (hpos : 0 < id)
    (hle : id ≤ net.nodes.length) : ∃ scope : Option (Fin bp.graphs.length),
      bound (position scope) < id ∧ id ≤ bound (position scope + 1) := by
  have hcover : ∀ n, id ≤ bound n → ∃ p < n, bound p < id ∧ id ≤ bound (p + 1) := by
    intro n
    induction n with
    | zero =>
      intro hn
      rw [h.first] at hn
      exact absurd hn (Nat.not_le_of_lt hpos)
    | succ n ih =>
      intro hn
      by_cases hbelow : id ≤ bound n
      · obtain ⟨p, hp, hrange⟩ := ih hbelow
        exact ⟨p, Nat.lt_succ_of_lt hp, hrange⟩
      · exact ⟨n, Nat.lt_succ_self n, Nat.lt_of_not_le hbelow, hn⟩
  obtain ⟨p, hp, hrange⟩ := hcover _ (hle.trans_eq h.last.symm)
  obtain ⟨scope, rfl⟩ := exists_position hp
  exact ⟨scope, hrange⟩

theorem exists_place (h : Layout bp net parameters bound handle) (site : bp.Site) :
    ∃ k : Fin net.nodes.length, handle site.scope site.node.name = some (k.val + 1) := by
  obtain ⟨id, node, hid, hlow, _, _, hnode, _⟩ := (h.charted site.scope).described _ site.mem
  cases id with
  | zero => exact absurd hlow (Nat.not_lt_zero _)
  | succ k => exact ⟨⟨k, (List.getElem?_eq_some_iff.mp hnode).1⟩, hid⟩

theorem exists_equiv (h : Layout bp net parameters bound handle) :
    ∃ place : bp.Site ≃ Fin net.nodes.length,
      ∀ site, handle site.scope site.node.name = some ((place site).val + 1) := by
  choose f hf using h.exists_place
  have hinjective : Function.Injective f := by
    intro site site' he
    have hid := hf site
    rw [he] at hid
    have hscope := h.scope_eq hid (hf site')
    refine h.names site site' hscope ?_
    rw [hscope] at hid
    exact (h.charted site'.scope).injective _ _ _ hid (hf site')
  have hsurjective : Function.Surjective f := by
    intro k
    obtain ⟨scope, hlow, hhigh⟩ := h.exists_scope (Nat.succ_pos k.val) (Nat.succ_le_of_lt k.isLt)
    obtain ⟨name, hname⟩ := (h.charted scope).onto _ hlow hhigh
    obtain ⟨site, rfl, rfl⟩ := h.exists_site hname
    refine ⟨site, Fin.ext ?_⟩
    have hid := Option.some.inj ((hf site).symm.trans hname)
    omega
  exact ⟨Equiv.ofBijective f ⟨hinjective, hsurjective⟩, hf⟩

variable {place : bp.Site ≃ Fin net.nodes.length}

/-- What an expression denotes by handles is what it means by places. -/
theorem means (h : Layout bp net parameters bound handle)
    (hplace : ∀ site, handle site.scope site.node.name = some ((place site).val + 1))
    {scope : Option (Fin bp.graphs.length)} {id : NodeId} {e : Expr} {type? : Option DataType}
    {space : Text} {v : Value} (href : e.reference? ≠ none)
    (hv : Denotes net (frameOf bp net parameters scope) (below (handle scope) id) (some e) type? space
      v) :
    ∃ t, Mentions e t ∧ Means bp net parameters place scope t v := by
  cases hv with
  | constant hnone _ => exact absurd hnone href
  | @parameter _ _ _ name c hrefers hgraph hlookup =>
    refine ⟨.parameter name, mentions_iff.mpr hrefers, ?_⟩
    cases scope with
    | none => exact .parameter rfl hlookup
    | some k => simp [frameOf] at hlookup
  | @graphInput _ _ _ name graph inputs i hrefers hgraph hfind =>
    refine ⟨.graphInput name, mentions_iff.mpr hrefers, ?_⟩
    cases scope with
    | none => cases hgraph
    | some k =>
      obtain ⟨g, hg, he⟩ := Option.map_eq_some_iff.mp hgraph
      obtain ⟨rfl, rfl⟩ := Prod.mk.inj he
      rw [h.sound.id_of_graph? hg]
      exact .graphInput rfl hg hfind
  | @node _ _ _ name output? id' _ hrefers hid hpicks =>
    obtain ⟨hhandle, _⟩ := below_eq_some.mp hid
    obtain ⟨site, rfl, hname⟩ := h.exists_site hhandle
    have hsite := hplace site
    rw [hname, hhandle] at hsite
    obtain rfl := Option.some.inj hsite
    exact ⟨.node name output?, mentions_iff.mpr hrefers, .node rfl hname hpicks⟩

theorem carries (h : Layout bp net parameters bound handle)
    (hplace : ∀ site, handle site.scope site.node.name = some ((place site).val + 1))
    {scope : Option (Fin bp.graphs.length)} {id : NodeId} {nodeType : Text} {i : Input}
    {type : DataType} {v : Value}
    (hv : Denotes net (frameOf bp net parameters scope) (below (handle scope) id) i.value (some type)
      i.colorSpace v) :
    Carries bp net parameters place scope i type
      ⟨i.name, type, Network.connect nodeType ⟨i.name, type, v⟩⟩ := by
  refine ⟨rfl, rfl, fun hnone => ?_, fun e he href => ?_, fun e he href => ?_,
    fun e t w he hmentions hmeans => ?_⟩
  · rw [hnone] at hv
    cases hv
    rfl
  · rw [he] at hv
    cases hv with
    | @constant _ _ _ c _ hc =>
      have htype := dataType_literal hc
      refine ⟨c, hc, htype, ?_⟩
      simp [Network.connect, Value.ofConstant, htype]
    | parameter hrefers _ _ => exact absurd href hrefers.reference
    | graphInput hrefers _ _ => exact absurd href hrefers.reference
    | node hrefers _ _ => exact absurd href hrefers.reference
  · rw [he] at hv
    obtain ⟨t, ht⟩ := h.means hplace href hv
    exact ⟨t, v, ht⟩
  · rw [he] at hv
    have hrefers := mentions_iff.mp hmentions
    obtain ⟨t', hmentions', hmeans'⟩ := h.means hplace hrefers.reference hv
    obtain rfl := hrefers.unique (mentions_iff.mp hmentions')
    obtain rfl := hmeans.unique h.names hmeans'
    have habsent := hmeans.isAbsent
    constructor
    · intro htype
      simp only [Network.connect, habsent, Bool.false_or]
      exact if_pos (by simpa using htype)
    · intro htype
      rcases Network.connect_cases nodeType ⟨i.name, type, w⟩ with ⟨_, hkept⟩ | hfault
      · simp only [habsent, Bool.false_eq_true, false_or] at hkept
        exact absurd hkept htype
      · exact hfault

theorem renders (h : Layout bp net parameters bound handle)
    (hplace : ∀ site, handle site.scope site.node.name = some ((place site).val + 1))
    {scope : Option (Fin bp.graphs.length)} {id : NodeId} {n : Node} {node : ShaderGraph.Node}
    (hn : Describes net (frameOf bp net parameters scope) (below (handle scope) id) n node) :
    Renders bp net parameters place scope n node := by
  cases hn with
  | shader hgraph htype _ htype' hgraph' hins _ houts _ =>
    refine .shader htype hgraph htype' hgraph' (hins.imp fun i slot hslot => ?_) houts
    obtain ⟨type, v, hparse, hv, rfl⟩ := hslot
    exact ⟨type, hparse, h.carries hplace hv⟩
  | @copy g hgraph htype houts htype' houts' hg hname _ hins _ =>
    refine .copy hgraph htype htype' hg hname (hins.imp fun i slot hslot => ?_) houts houts'
    obtain ⟨declared, v, hdeclared, _, hv, rfl⟩ := hslot
    have hvalid := h.sound.inputTypes g (Network.mem_graphs_of_graph? hg) declared
      (List.mem_of_find?_eq_some hdeclared)
    obtain ⟨type, htype⟩ := Option.isSome_iff_exists.mp hvalid
    rw [htype] at hv
    rw [TypeTag.eq_ofDataType htype]
    exact ⟨declared, type, hdeclared, TypeTag.eq_ofDataType htype, h.carries hplace hv⟩

theorem described (h : Layout bp net parameters bound handle)
    (hplace : ∀ site, handle site.scope site.node.name = some ((place site).val + 1))
    (site : bp.Site) : Describes net (frameOf bp net parameters site.scope)
      (below (handle site.scope) ((place site).val + 1)) site.node (net.nodes.get (place site)) := by
  obtain ⟨id, node, hid, _, _, _, hnode, hdescribes⟩ :=
    (h.charted site.scope).described _ site.mem
  obtain rfl := Option.some.inj (hid.symm.trans (hplace site))
  obtain ⟨_, rfl⟩ := List.getElem?_eq_some_iff.mp hnode
  exact hdescribes

theorem instantiates_lt (h : Layout bp net parameters bound handle)
    (hplace : ∀ site, handle site.scope site.node.name = some ((place site).val + 1))
    (hgraphs : bp.graphs.length = net.graphs.length) {graph other : GraphId}
    (hother : Instantiates bp net place graph other) : other < graph := by
  obtain ⟨site, k, hscope, rfl, hne, rfl⟩ := hother
  have hk : k.val < net.graphs.length := hgraphs ▸ k.isLt
  have hown : net.graph? (k.val + 1) = some net.graphs[k.val] := List.getElem?_eq_getElem hk
  cases h.described hplace site with
  | shader _ _ _ _ hgraph _ _ _ _ => exact absurd hgraph hne
  | @copy g _ _ _ _ _ hg _ hbefore _ _ =>
    have hframe : (net.graphs[k.val].id, net.graphs[k.val].inputs) ∈
        (frameOf bp net parameters site.scope).graph := by
      rw [hscope, frameOf, hown]
      rfl
    have hlt := hbefore _ hframe
    rwa [h.sound.id_of_graph? hg, h.sound.id_of_graph? hown] at hlt

end Layout

theorem Chart.exists_faithful {base : Text} {l : Loaded} {high : Nat} {top : Text → Option NodeId}
    (h : Chart bp base l parameters high top) :
    ∃ place, Faithful bp l.network parameters place base := by
  obtain ⟨bound, handle, hlayout⟩ := h.exists_layout
  obtain ⟨place, hplace⟩ := hlayout.exists_equiv
  have hgraphs := h.graphs.declared
  have hdepends : ∀ id source, l.network.Reads id source → source < id :=
    fun id source hreads => h.sound.lt_of_reads hreads
  have hinstantiates : ∀ graph other, Instantiates bp l.network place graph other → other < graph :=
    fun graph other hother => hlayout.instantiates_lt hplace hgraphs.length_eq hother
  refine ⟨place,
    { defaults := h.defaults.imp fun p entry hp => hp.2
      graphs := hgraphs
      names := hlayout.names
      nodes := fun site => ⟨?_, hlayout.renders hplace (hlayout.described hplace site)⟩
      dependsOnEarlier := hdepends
      instantiatesEarlier := hinstantiates
      dependency := Subrelation.wf (fun {a b} hab => hdepends b a hab) Nat.lt_wfRel.wf
      instantiation := Subrelation.wf (fun {a b} hab => hinstantiates b a hab) Nat.lt_wfRel.wf }⟩
  exact h.sound.nodeId _ _ (List.getElem?_eq_getElem (place site).isLt)

/-- A blueprint that is loaded is translated faithfully: its declared nodes are the nodes of the
network one by one, with what they declare in every slot. -/
theorem load_faithful {base : Text} {l : Loaded} (h : load bp base = .ok l) :
    ∃ parameters place, Faithful bp l.network parameters place base := by
  obtain ⟨parameters, high, top, hchart⟩ := chart_of_load h
  exact ⟨parameters, hchart.exists_faithful⟩

theorem faithful_of_read {source filename : Text} {l : Loaded} (h : read source filename = .ok l) :
    ∃ body bp parameters place, Config.parseFile source = some body ∧ decode body = .ok bp ∧
      Faithful bp l.network parameters place (Path.directory filename) := by
  obtain ⟨body, bp, hbody, hdecode, hload⟩ := read_eq_ok.mp h
  obtain ⟨parameters, high, top, hchart⟩ := chart_of_load hload
  obtain ⟨place, hfaithful⟩ := hchart.exists_faithful
  exact ⟨body, bp, parameters, place, hbody, hdecode, hfaithful⟩

def mixedSource : Text :=
"parameter \"p\" \x7b type = \"float\" \x7d
node_graph \"G\" \x7b
input \"x\" \x7b type = \"float\" \x7d
node \"u\" \x7b
type = \"U\"
input \"a\" \x7b
type = \"float\"
value = input.x
\x7d
output \"o\" \x7b type = \"float\" \x7d
\x7d
output \"y\" \x7b value = node.u \x7d
\x7d
node \"s\" \x7b
type = \"S\"
input \"a\" \x7b
type = \"bool\"
value = node.g.y
\x7d
input \"b\" \x7b
type = \"float\"
value = param.p
\x7d
input \"c\" \x7b
type = \"float\"
value = 2
\x7d
input \"d\" \x7b type = \"float\" \x7d
\x7d
node \"g\" \x7b
graph = \"G\"
input \"x\" \x7b value = 1 \x7d
\x7d
"

theorem mixed_faithful : ∃ l, read mixedSource "m.hcl" = .ok l ∧ l.network.nodes.length = 3 ∧
    ∃ body bp parameters place, Config.parseFile mixedSource = some body ∧ decode body = .ok bp ∧
      Faithful bp l.network parameters place (Path.directory "m.hcl") := by
  have hread : (match read mixedSource "m.hcl" with
      | .ok l => decide (l.network.nodes.length = 3)
      | .error _ => false) = true := by
    decide +kernel
  split at hread
  · rename_i l hl
    obtain ⟨body, bp, hbody, hdecode, hload⟩ := read_eq_ok.mp hl
    obtain ⟨parameters, place, hfaithful⟩ := load_faithful hload
    exact ⟨l, hl, of_decide_eq_true hread, body, bp, parameters, place, hbody, hdecode, hfaithful⟩
  · cases hread

end Blueprint
end ShaderGraph
