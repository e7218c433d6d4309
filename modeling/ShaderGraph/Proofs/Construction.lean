import ShaderGraph.Proofs.Denotes
import Mathlib.Logic.Relation

/-!
# Building with a stack

A node of a scope is begun when something first refers to it and ended when its inputs have been
read, so the nodes that are being built form a stack in which each refers to the one begun after it.
`Move` says what one event of building can do, and `History` strings events together. A node that is
referred to while it stands on the stack closes a cycle: it is reported and settled as failed at
once, although it is still being built.

`Orderly` is what every event keeps. Each node is begun once, since only nodes without an outcome
are begun and whatever was begun stands on the stack or has an outcome. A node with a handle refers
to nodes with smaller handles. A failed node has left a report.
-/
namespace ShaderGraph.Blueprint

open Config (Expr Span)

def Fault.cycle? : Fault → Option (Text × Place)
  | .cycle name place => some (name, place)
  | _ => none

def cycles (ds : List Diagnostic) : List (Text × Place) := ds.filterMap (·.fault.cycle?)

theorem cycles_append (ds es : List Diagnostic) : cycles (ds ++ es) = cycles ds ++ cycles es :=
  List.filterMap_append

def Node.Needs (n : Node) (name : Text) : Prop :=
  ∃ i ∈ n.inputs, ∃ e output?, i.value = some e ∧ Refers e (.node name output?)

/-! ## Outcomes -/

theorem lookup_settled {name other : Text} {o : Option NodeId}
    {settled : List (Text × Option NodeId)} : ((name, o) :: settled).lookup other =
      if other = name then some o else settled.lookup other := by
  rw [List.lookup_cons]
  by_cases h : other = name
  · simp [h]
  · rw [if_neg h, beq_eq_false_iff_ne.mpr h]

theorem lookup_settled_ne_none {name other : Text} {o : Option NodeId}
    {settled : List (Text × Option NodeId)} : ((name, o) :: settled).lookup other ≠ none ↔
      other = name ∨ settled.lookup other ≠ none := by
  rw [lookup_settled]
  split <;> simp [*]

theorem handle_failed {st : Loading} {name : Text} (h : st.handle name = none)
    (net : Network) (ds : List Diagnostic) :
    (Loading.mk net ds ((name, none) :: st.settled)).handle = st.handle := by
  funext other
  rw [Loading.handle, lookup_settled]
  split
  · rename_i he
    rw [he, h]
    rfl
  · rfl

/-- The node has a reason to fail: there were reports while it was built, or a node that it refers to
has failed. -/
def Node.Excused (n : Node) (start st : Loading) : Prop :=
  start.diagnostics.length < st.diagnostics.length ∨
    ∃ name, n.Needs name ∧ st.settled.lookup name = some none

/-! ## Events -/

inductive Event where
  /-- Something other than a cycle is reported. -/
  | told (ds : List Diagnostic)
  | opened (n : Node)
  | closed (n : Node) (outcome : Option NodeId)
  /-- A node turns out to depend on itself. -/
  | looped (n : Node)

def Event.opened? : Event → Option Text
  | .opened n => some n.name
  | _ => none

def Event.looped? : Event → Option Text
  | .looped n => some n.name
  | _ => none

def Event.outcome? : Event → Option (Text × Option NodeId)
  | .closed n outcome => some (n.name, outcome)
  | .looped n => some (n.name, none)
  | _ => none

def openedNames (events : List Event) : List Text := events.filterMap Event.opened?

def loopedNames (events : List Event) : List Text := events.filterMap Event.looped?

theorem openedNames_snoc (events : List Event) (e : Event) :
    openedNames (events ++ [e]) = openedNames events ++ e.opened?.toList := by
  rw [openedNames, List.filterMap_append]
  cases e <;> rfl

theorem loopedNames_snoc (events : List Event) (e : Event) :
    loopedNames (events ++ [e]) = loopedNames events ++ e.looped?.toList := by
  rw [loopedNames, List.filterMap_append]
  cases e <;> rfl

structure Progress where
  /-- The nodes that are being built, the latest first, each with the state in which it was begun. -/
  stack : List (Node × Loading)
  now : Loading

def Progress.names (a : Progress) : List Text := a.stack.map (·.1.name)

namespace Scope

def Uses (s : Scope) (a b : Text) : Prop := ∃ n ∈ s.nodes, n.name = a ∧ n.Needs b

/-- What one event can do. A node ends in the state that its construction, begun where it was put on
the stack, leads to. No construction goes unnoticed, since each gives an outcome to its node. -/
inductive Move (s : Scope) : Progress → Event → Progress → Prop
  | told {stack : List (Node × Loading)} {st : Loading} {ds : List Diagnostic} : cycles ds = [] →
      Move s ⟨stack, st⟩ (.told ds) ⟨stack, { st with diagnostics := st.diagnostics ++ ds }⟩
  | opened {stack : List (Node × Loading)} {st : Loading} {n : Node} : n ∈ s.nodes →
      n.name ∉ Progress.names ⟨stack, st⟩ → st.settled.lookup n.name = none →
      (∀ f ∈ stack.head?, f.1.Needs n.name) →
      Move s ⟨stack, st⟩ (.opened n) ⟨(n, st) :: stack, st⟩
  | built {stack : List (Node × Loading)} {start st : Loading} {n : Node} {idle : List Node}
      {id : NodeId} {net : Network} :
      s.construct (s.build idle) n start = (.ok (some id), { st with network := net }) →
      id = st.network.nodes.length + 1 → net.nodes.length = id →
      (∀ name, n.Needs name → ∃ id', st.handle name = some id') →
      Move s ⟨(n, start) :: stack, st⟩ (.closed n (some id))
        ⟨stack, ⟨net, st.diagnostics, (n.name, some id) :: st.settled⟩⟩
  | failed {stack : List (Node × Loading)} {start st : Loading} {n : Node} {idle : List Node} :
      s.construct (s.build idle) n start = (.ok none, st) → n.Excused start st →
      Move s ⟨(n, start) :: stack, st⟩ (.closed n none)
        ⟨stack, { st with settled := (n.name, none) :: st.settled }⟩
  | looped {stack : List (Node × Loading)} {st : Loading} {n : Node} : n ∈ s.nodes →
      n.name ∈ Progress.names ⟨stack, st⟩ → st.settled.lookup n.name = none →
      (∀ f ∈ stack.head?, f.1.Needs n.name) →
      Move s ⟨stack, st⟩ (.looped n) ⟨stack, ⟨st.network,
        st.diagnostics ++ [⟨.cycle n.name s.place, some n.extra.span⟩],
        (n.name, none) :: st.settled⟩⟩

inductive History (s : Scope) (a : Progress) : List Event → Progress → Prop
  | nil : History s a [] a
  | snoc {events : List Event} {b c : Progress} {e : Event} : History s a events b → s.Move b e c →
      History s a (events ++ [e]) c

variable {s : Scope} {a b c : Progress} {events more : List Event} {e : Event}

theorem History.single (h : s.Move a e b) : s.History a [e] b := .snoc .nil h

theorem History.trans (h : s.History a events b) (h' : s.History b more c) :
    s.History a (events ++ more) c := by
  induction h' with
  | nil => simpa using h
  | snoc _ hm ih => exact List.append_assoc _ _ _ ▸ ih.snoc hm

theorem History.reports (h : s.History a events b) : ∃ reports,
    b.now.diagnostics = a.now.diagnostics ++ reports ∧
      cycles reports = (loopedNames events).map fun name => (name, s.place) := by
  induction h with
  | nil => exact ⟨[], by simp, rfl⟩
  | snoc _ hm ih =>
    obtain ⟨reports, hds, hcycles⟩ := ih
    rw [loopedNames_snoc, List.map_append, ← hcycles]
    cases hm with
    | @told _ _ ds hnone =>
      refine ⟨reports ++ ds, by rw [← List.append_assoc, ← hds], ?_⟩
      rw [cycles_append, hnone]
      rfl
    | opened => exact ⟨reports, hds, (List.append_nil _).symm⟩
    | built => exact ⟨reports, hds, (List.append_nil _).symm⟩
    | failed => exact ⟨reports, hds, (List.append_nil _).symm⟩
    | @looped _ _ n =>
      refine ⟨reports ++ [⟨.cycle n.name s.place, some n.extra.span⟩], ?_, ?_⟩
      · rw [← List.append_assoc, ← hds]
      · rw [cycles_append]
        rfl

theorem History.settled (h : s.History a events b) :
    b.now.settled = (events.filterMap Event.outcome?).reverse ++ a.now.settled := by
  induction h with
  | nil => rfl
  | snoc _ hm ih =>
    rw [List.filterMap_append, List.reverse_append, List.append_assoc, ← ih]
    cases hm <;> rfl

/-! ## What every event keeps -/

structure Traced (opened looped : List Text) (a : Progress) : Prop where
  opened_nodup : opened.Nodup
  mem_opened : ∀ name, name ∈ opened ↔ name ∈ a.names ∨ a.now.settled.lookup name ≠ none
  looped_nodup : looped.Nodup
  looped_settled : ∀ name ∈ looped, a.now.settled.lookup name ≠ none

structure Stacked (s : Scope) (a : Progress) : Prop where
  declared : ∀ f ∈ a.stack, f.1 ∈ s.nodes
  chain : a.stack.IsChain fun later earlier => earlier.1.Needs later.1.name

structure Ranked (s : Scope) (a : Progress) : Prop where
  unbuilt : ∀ f ∈ a.stack, a.now.handle f.1.name = none
  bounded : ∀ name id, a.now.handle name = some id → id ≤ a.now.network.nodes.length
  needed : ∀ n ∈ s.nodes, ∀ id, a.now.handle n.name = some id → ∀ name, n.Needs name →
    ∃ id', id' < id ∧ a.now.handle name = some id'

/-- Wherever a node has failed, there are more reports than at the start. -/
structure Accounted (count : Nat) (a : Progress) : Prop where
  grown : count ≤ a.now.diagnostics.length
  begun : ∀ f ∈ a.stack, count ≤ f.2.diagnostics.length
  failed : ∀ name, a.now.settled.lookup name = some none → count < a.now.diagnostics.length

theorem nodup_snoc {names : List Text} {name : Text} (h : names.Nodup) (hname : name ∉ names) :
    (names ++ [name]).Nodup :=
  List.concat_eq_append ▸ h.concat hname

-- The node may leave the stack with its outcome or, if it depends on itself, stay there.
theorem Traced.settle {opened looped : List Text} (h : Traced opened looped a) {name : Text}
    {o : Option NodeId} (hnames : ∀ other, other ∈ b.names ∨ other = name ↔ other ∈ a.names)
    (hsettled : b.now.settled = (name, o) :: a.now.settled) : Traced opened looped b := by
  have houtcome : ∀ other, b.now.settled.lookup other ≠ none ↔
      other = name ∨ a.now.settled.lookup other ≠ none :=
    fun other => by rw [hsettled, lookup_settled_ne_none]
  refine ⟨h.opened_nodup, fun other => ?_, h.looped_nodup, fun other hother => ?_⟩
  · rw [h.mem_opened, houtcome, ← hnames]
    tauto
  · exact (houtcome other).mpr (Or.inr (h.looped_settled other hother))

theorem Traced.move {opened looped : List Text} (h : Traced opened looped a) (hm : s.Move a e b) :
    Traced (opened ++ e.opened?.toList) (looped ++ e.looped?.toList) b := by
  cases hm with
  | told =>
    simp only [Event.opened?, Event.looped?, Option.toList, List.append_nil]
    exact ⟨h.opened_nodup, h.mem_opened, h.looped_nodup, h.looped_settled⟩
  | opened _ hidle hfresh _ =>
    simp only [Event.opened?, Event.looped?, Option.toList, List.append_nil]
    have hnew : _ ∉ opened := fun hmem => ((h.mem_opened _).mp hmem).elim hidle (absurd hfresh)
    refine ⟨nodup_snoc h.opened_nodup hnew, fun name => ?_, h.looped_nodup, h.looped_settled⟩
    rw [List.mem_append, List.mem_singleton, h.mem_opened, Progress.names, Progress.names, List.map_cons,
      List.mem_cons]
    tauto
  | built =>
    simp only [Event.opened?, Event.looped?, Option.toList, List.append_nil]
    exact h.settle (by simp [Progress.names, or_comm]) rfl
  | failed =>
    simp only [Event.opened?, Event.looped?, Option.toList, List.append_nil]
    exact h.settle (by simp [Progress.names, or_comm]) rfl
  | @looped stack st n _ hon hfresh _ =>
    simp only [Event.opened?, Event.looped?, Option.toList, List.append_nil]
    have hnew : n.name ∉ looped := fun hmem => h.looped_settled _ hmem hfresh
    have hsettled : Traced opened looped ⟨stack, ⟨st.network,
        st.diagnostics ++ [⟨.cycle n.name s.place, some n.extra.span⟩], (n.name, none) :: st.settled⟩⟩ :=
      h.settle (fun other => ⟨fun ho => ho.elim id fun he => he ▸ hon, Or.inl⟩) rfl
    refine ⟨h.opened_nodup, hsettled.mem_opened, nodup_snoc h.looped_nodup hnew,
      fun name hname => ?_⟩
    rcases List.mem_append.mp hname with hname | hname
    · exact hsettled.looped_settled name hname
    · rw [lookup_settled_ne_none]
      exact Or.inl (List.mem_singleton.mp hname)

theorem Stacked.move (h : s.Stacked a) (hm : s.Move a e b) : s.Stacked b := by
  obtain ⟨hdeclared, hchain⟩ := h
  cases hm with
  | told => exact ⟨hdeclared, hchain⟩
  | opened hn _ _ hasked =>
    refine ⟨List.forall_mem_cons.mpr ⟨hn, hdeclared⟩, ?_⟩
    exact List.isChain_cons.mpr ⟨hasked, hchain⟩
  | built => exact ⟨fun f hf => hdeclared f (List.mem_cons_of_mem _ hf), hchain.tail⟩
  | failed => exact ⟨fun f hf => hdeclared f (List.mem_cons_of_mem _ hf), hchain.tail⟩
  | looped => exact ⟨hdeclared, hchain⟩

theorem Stacked.reaches (h : s.Stacked a) {f : Node × Loading} (hf : f ∈ a.stack) :
    ∃ top ∈ a.stack.head?, Relation.ReflTransGen s.Uses f.1.name top.1.name := by
  obtain ⟨hdeclared, hchain⟩ := h
  generalize a.stack = stack at *
  induction stack with
  | nil => cases hf
  | cons top stack ih =>
    refine ⟨top, rfl, ?_⟩
    rcases List.mem_cons.mp hf with rfl | hf
    · exact .refl
    · obtain ⟨next, hnext, hpath⟩ :=
        ih hf (fun g hg => hdeclared g (List.mem_cons_of_mem _ hg)) hchain.tail
      have hneeds := (List.isChain_cons.mp hchain).1 next hnext
      exact hpath.tail ⟨next.1, hdeclared next (List.mem_cons_of_mem _ (List.mem_of_mem_head? hnext)),
        rfl, hneeds⟩

/-- What is referred to from the stack's top and stands on the stack depends on itself. -/
theorem Stacked.cyclic (h : s.Stacked a) {name : Text} (hon : name ∈ a.names)
    (hasked : ∀ f ∈ a.stack.head?, f.1.Needs name) : Relation.TransGen s.Uses name name := by
  obtain ⟨f, hf, rfl⟩ := List.mem_map.mp hon
  obtain ⟨top, htop, hpath⟩ := h.reaches hf
  exact .tail' hpath ⟨top.1, h.declared top (List.mem_of_mem_head? htop), rfl, hasked top htop⟩

theorem Ranked.failed (h : s.Ranked a) {name : Text} (hname : a.now.handle name = none)
    {stack : List (Node × Loading)} (hstack : ∀ f ∈ stack, f ∈ a.stack) (ds : List Diagnostic) :
    s.Ranked ⟨stack, ⟨a.now.network, ds, (name, none) :: a.now.settled⟩⟩ := by
  have hhandle := handle_failed hname a.now.network ds
  refine ⟨fun f hf => ?_, ?_, ?_⟩
  · exact (congrFun hhandle _).trans (h.unbuilt f (hstack f hf))
  · simpa only [hhandle] using h.bounded
  · simpa only [hhandle] using h.needed

theorem Ranked.built {stack : List (Node × Loading)} {start st : Loading} {n : Node} {net : Network}
    (hnames : (s.nodes.map (·.name)).Nodup) (hn : n ∈ s.nodes)
    (h : s.Ranked ⟨(n, start) :: stack, st⟩) (hstack : n.name ∉ stack.map (·.1.name))
    (hnet : net.nodes.length = st.network.nodes.length + 1)
    (hneeds : ∀ name, n.Needs name → ∃ id', st.handle name = some id') :
    s.Ranked ⟨stack, ⟨net, st.diagnostics,
      (n.name, some (st.network.nodes.length + 1)) :: st.settled⟩⟩ := by
  have hunbuilt : st.handle n.name = none := h.unbuilt _ List.mem_cons_self
  -- The node stood on the stack without a handle, so no other node has relied on one.
  have hold : ∀ {name id}, st.handle name = some id → (Loading.mk net st.diagnostics
      ((n.name, some (st.network.nodes.length + 1)) :: st.settled)).handle name = some id := by
    intro name id hid
    have hne : name ≠ n.name := by
      rintro rfl
      rw [hunbuilt] at hid
      cases hid
    rw [handle_cons, if_neg hne, hid]
  refine ⟨fun f hf => ?_, fun name id hid => ?_, fun m hm id hid name hname => ?_⟩
  · have hne : f.1.name ≠ n.name := fun he => hstack (List.mem_map.mpr ⟨f, hf, he⟩)
    exact (handle_cons net st _ _ _).trans
      ((if_neg hne).trans (h.unbuilt f (List.mem_cons_of_mem _ hf)))
  · dsimp only at hid ⊢
    rw [handle_cons] at hid
    split at hid
    · rw [hnet, Option.some.inj hid]
    · rw [hnet]
      exact (h.bounded name id hid).trans (Nat.le_succ _)
  · dsimp only at hid ⊢
    rw [handle_cons] at hid
    split at hid
    · rename_i he
      obtain rfl : m = n := List.inj_on_of_nodup_map hnames hm hn he
      -- The new handle is the number of all nodes, and the handles before are not larger.
      obtain ⟨id', hid'⟩ := hneeds name hname
      have hle := h.bounded name id' hid'
      exact ⟨id', by rw [← Option.some.inj hid]; exact Nat.lt_succ_of_le hle, hold hid'⟩
    · obtain ⟨id', hlt, hid'⟩ := h.needed m hm id hid name hname
      exact ⟨id', hlt, hold hid'⟩

theorem handle_eq_none {st : Loading} {name : Text} (h : st.settled.lookup name = none) :
    st.handle name = none := by
  rw [Loading.handle, h]
  rfl

theorem Ranked.move (hnames : (s.nodes.map (·.name)).Nodup) (hstack : a.names.Nodup)
    (hs : s.Stacked a) (h : s.Ranked a) (hm : s.Move a e b) : s.Ranked b := by
  cases hm with
  | told => exact ⟨h.unbuilt, h.bounded, h.needed⟩
  | opened _ _ hfresh _ =>
    exact ⟨List.forall_mem_cons.mpr ⟨handle_eq_none hfresh, h.unbuilt⟩, h.bounded, h.needed⟩
  | built _ hid hnet hneeds =>
    subst hid
    exact h.built hnames (hs.declared _ List.mem_cons_self) (List.nodup_cons.mp hstack).1 hnet hneeds
  | failed =>
    exact Ranked.failed h (h.unbuilt _ List.mem_cons_self) (fun f => List.mem_cons_of_mem _) _
  | looped _ _ hfresh _ => exact Ranked.failed h (handle_eq_none hfresh) (fun _ hf => hf) _

theorem Accounted.move {count : Nat} (h : Accounted count a) (hm : s.Move a e b) :
    Accounted count b := by
  obtain ⟨hgrown, hbegun, hfailed⟩ := h
  cases hm with
  | told =>
    refine ⟨?_, hbegun, fun name hname => ?_⟩
    · exact hgrown.trans (by simp)
    · exact (hfailed name hname).trans_le (by simp)
  | opened => exact ⟨hgrown, List.forall_mem_cons.mpr ⟨hgrown, hbegun⟩, hfailed⟩
  | built =>
    refine ⟨hgrown, fun f hf => hbegun f (List.mem_cons_of_mem _ hf), fun name hname => ?_⟩
    dsimp only at hname
    rw [lookup_settled] at hname
    split at hname
    · cases hname
    · exact hfailed name hname
  | failed _ hwhy =>
    refine ⟨hgrown, fun f hf => hbegun f (List.mem_cons_of_mem _ hf), fun name hname => ?_⟩
    rcases hwhy with hmore | ⟨other, _, hother⟩
    · exact (hbegun _ List.mem_cons_self).trans_lt hmore
    · exact hfailed other hother
  | looped =>
    refine ⟨hgrown.trans (by simp), hbegun, fun name hname => ?_⟩
    exact Nat.lt_of_le_of_lt hgrown (by simp)

structure Orderly (s : Scope) (count : Nat) (events : List Event) (a : Progress) : Prop where
  traced : Traced (openedNames events) (loopedNames events) a
  nodup : a.names.Nodup
  stacked : s.Stacked a
  ranked : s.Ranked a
  accounted : Accounted count a
  cyclic : ∀ name ∈ loopedNames events, Relation.TransGen s.Uses name name

theorem Orderly.start {st : Loading} (h : st.settled = []) :
    s.Orderly st.diagnostics.length [] ⟨[], st⟩ := by
  have hhandle : ∀ name, st.handle name = none := fun name => handle_eq_none (by rw [h]; rfl)
  have hlookup : ∀ name, st.settled.lookup name = none := fun name => by rw [h]; rfl
  constructor
  · exact ⟨.nil, by simp [openedNames, Progress.names, h], .nil, by simp [loopedNames]⟩
  · exact .nil
  · exact ⟨by simp, .nil⟩
  · exact ⟨by simp, by simp [hhandle], by simp [hhandle]⟩
  · exact ⟨le_rfl, by simp, by simp [hlookup]⟩
  · simp [loopedNames]

theorem nodup_names_move (h : a.names.Nodup) (hm : s.Move a e b) : b.names.Nodup := by
  cases hm with
  | told => exact h
  | opened _ hidle => exact List.nodup_cons.mpr ⟨hidle, h⟩
  | built => exact (List.nodup_cons.mp h).2
  | failed => exact (List.nodup_cons.mp h).2
  | looped => exact h

theorem Orderly.move {count : Nat} (hnames : (s.nodes.map (·.name)).Nodup)
    (h : s.Orderly count events a) (hm : s.Move a e b) : s.Orderly count (events ++ [e]) b := by
  refine ⟨?_, nodup_names_move h.nodup hm, h.stacked.move hm,
    h.ranked.move hnames h.nodup h.stacked hm, h.accounted.move hm, ?_⟩
  · rw [openedNames_snoc, loopedNames_snoc]
    exact h.traced.move hm
  · intro name hname
    rw [loopedNames_snoc] at hname
    rcases List.mem_append.mp hname with hname | hname
    · exact h.cyclic name hname
    · cases hm with
      | looped _ hon _ hasked =>
        obtain rfl := List.mem_singleton.mp hname
        exact h.stacked.cyclic hon hasked
      | _ => cases hname

theorem History.orderly {count : Nat} (hnames : (s.nodes.map (·.name)).Nodup)
    (h : s.History a events b) (ha : s.Orderly count [] a) : s.Orderly count events b := by
  induction h with
  | nil => exact ha
  | snoc _ hm ih => exact ih.move hnames hm

/-! ## All nodes -/

theorem History.declared (h : s.History a events b) :
    ∀ name ∈ openedNames events, name ∈ s.nodes.map (·.name) := by
  induction h with
  | nil => simp [openedNames]
  | snoc _ hm ih =>
    intro name hname
    rw [openedNames_snoc] at hname
    rcases List.mem_append.mp hname with hname | hname
    · exact ih name hname
    · cases hm with
      | opened hn =>
        obtain rfl := List.mem_singleton.mp hname
        exact List.mem_map.mpr ⟨_, hn, rfl⟩
      | _ => cases hname

structure Built (s : Scope) (start : Loading) (events : List Event) (reports : List Diagnostic)
    (st : Loading) : Prop where
  history : s.History ⟨[], start⟩ events ⟨[], st⟩
  reported : st.diagnostics = start.diagnostics ++ reports
  recorded : st.settled = (events.filterMap Event.outcome?).reverse
  /-- Each node is constructed exactly once. -/
  once : (openedNames events).Perm (s.nodes.map (·.name))
  /-- Handles are issued in order, so a node is built after all nodes that it refers to. -/
  after : ∀ x y id, s.Uses x y → st.handle x = some id → ∃ id', id' < id ∧ st.handle y = some id'
  complete : reports = [] → ∀ n ∈ s.nodes, ∃ id, st.handle n.name = some id
  acyclic : reports = [] → ∀ x, ¬ Relation.TransGen s.Uses x x
  cyclic : ∀ name place, (name, place) ∈ cycles reports →
    place = s.place ∧ Relation.TransGen s.Uses name name
  distinct : ((cycles reports).map Prod.fst).Nodup

theorem Ranked.uses (h : s.Ranked a) {x y : Text} {id : NodeId} (huses : s.Uses x y)
    (hid : a.now.handle x = some id) : ∃ id', id' < id ∧ a.now.handle y = some id' := by
  obtain ⟨n, hn, rfl, hneeds⟩ := huses
  exact h.needed n hn id hid y hneeds

theorem Ranked.transGen (h : s.Ranked a) {x y : Text} {id : NodeId}
    (hxy : Relation.TransGen s.Uses x y) (hid : a.now.handle x = some id) :
    ∃ id', id' < id ∧ a.now.handle y = some id' := by
  induction hxy with
  | single huses => exact h.uses huses hid
  | tail _ huses ih =>
    obtain ⟨id', hlt, hid'⟩ := ih
    obtain ⟨id'', hlt', hid''⟩ := h.uses huses hid'
    exact ⟨id'', hlt'.trans hlt, hid''⟩

theorem Ranked.unbuilt_of_cyclic (h : s.Ranked a) {x : Text}
    (hx : Relation.TransGen s.Uses x x) : a.now.handle x = none := by
  cases hid : a.now.handle x with
  | none => rfl
  | some id =>
    obtain ⟨id', hlt, hid'⟩ := h.transGen hx hid
    rw [hid] at hid'
    exact absurd (Option.some.inj hid') hlt.ne'

theorem exists_uses_of_transGen {x y : Text} (h : Relation.TransGen s.Uses x y) :
    ∃ z, s.Uses x z := by
  obtain ⟨z, hz, _⟩ := Relation.TransGen.head'_iff.mp h
  exact ⟨z, hz⟩

theorem built_of_history {start st : Loading} (hnames : (s.nodes.map (·.name)).Nodup)
    (hstart : start.settled = []) (h : s.History ⟨[], start⟩ events ⟨[], st⟩)
    (hall : ∀ n ∈ s.nodes, st.settled.lookup n.name ≠ none) :
    ∃ reports, s.Built start events reports st := by
  obtain ⟨reports, hreports, hcycles⟩ := h.reports
  have ho := h.orderly hnames (Orderly.start hstart)
  have hcomplete : reports = [] → ∀ n ∈ s.nodes, ∃ id, st.handle n.name = some id := by
    rintro rfl n hn
    have hlength : st.diagnostics.length = start.diagnostics.length := by
      rw [hreports, List.append_nil]
    cases hlookup : st.settled.lookup n.name with
    | none => exact absurd hlookup (hall n hn)
    | some o =>
      cases o with
      | none => exact absurd hlength (ho.accounted.failed _ hlookup).ne'
      | some id => exact ⟨id, Loading.handle_eq_some.mpr hlookup⟩
  have hrecorded := h.settled
  rw [hstart, List.append_nil] at hrecorded
  refine ⟨reports, h, hreports, hrecorded, ?_, fun x y id => ho.ranked.uses, hcomplete, fun hnone x hx => ?_,
    fun name place hmem => ?_, ?_⟩
  · refine (List.perm_ext_iff_of_nodup ho.traced.opened_nodup hnames).mpr fun name => ?_
    refine ⟨h.declared name, fun hname => (ho.traced.mem_opened name).mpr (Or.inr ?_)⟩
    obtain ⟨n, hn, rfl⟩ := List.mem_map.mp hname
    exact hall n hn
  · obtain ⟨_, n, hn, rfl, _⟩ := exists_uses_of_transGen hx
    obtain ⟨id, hid⟩ := hcomplete hnone n hn
    have hunbuilt := ho.ranked.unbuilt_of_cyclic hx
    rw [hid] at hunbuilt
    cases hunbuilt
  · rw [hcycles] at hmem
    obtain ⟨_, hname, he⟩ := List.mem_map.mp hmem
    obtain ⟨rfl, rfl⟩ := Prod.mk.inj he
    exact ⟨rfl, ho.cyclic _ hname⟩
  · rw [hcycles, List.map_map]
    exact ho.traced.looped_nodup.map Function.injective_id

end Scope
end ShaderGraph.Blueprint
