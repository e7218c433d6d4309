import ShaderGraph.Proofs.Alike

/-!
# Decoding bodies in another order

A decoder adds to the problems noted before it and never looks at them, so it has a result and problems
of its own. Two decoders are related if their results are and if both or neither have problems. The
decoders of bodies that differ in places, or in the order of their nodes, are related.
-/
namespace ShaderGraph

namespace Config

def Body.ofType (b : Body) (type : Text) : List Block := b.blocks.filter (·.type = type)

def Body.others (b : Body) : List Block := b.blocks.filter (·.type ≠ ("node" : Text))

structure Body.Shuffled (R : Block → Block → Prop) (b b' : Body) : Prop where
  attributes : b.attributes = b'.attributes
  nodes : (b.ofType "node").Perm (b'.ofType "node")
  others : List.Forall₂ R b.others b'.others

/-- The blocks are equal, or they are node graphs that differ in the order of their nodes. -/
def Block.Reordered (c c' : Block) : Prop :=
  c = c' ∨ c.type = "node_graph" ∧ c'.type = "node_graph" ∧ c.labels = c'.labels ∧
    c.body.Shuffled Eq c'.body

def Body.Reordered (b b' : Body) : Prop := b.Shuffled Block.Reordered b'

theorem Body.Shuffled.symm {R : Block → Block → Prop} (hR : ∀ {c c'}, R c c' → R c' c) {b b' : Body}
    (h : b.Shuffled R b') : b'.Shuffled R b :=
  ⟨h.attributes.symm, h.nodes.symm, h.others.flip.imp fun _ _ hc => hR hc⟩

theorem Body.Reordered.symm {b b' : Body} (h : b.Reordered b') : b'.Reordered b := by
  refine Body.Shuffled.symm (fun {c c'} hc => ?_) h
  rcases hc with rfl | ⟨htype, htype', hlabels, hbody⟩
  · exact Or.inl rfl
  · exact Or.inr ⟨htype', htype, hlabels.symm, hbody.symm Eq.symm⟩

theorem Body.ofType_bare (b : Body) (type : Text) :
    b.bare.ofType type = (b.ofType type).map Block.bare := by
  rw [ofType, ofType, blocks_bare, List.filter_map]
  simp only [Function.comp_def, Block.type_bare]

theorem Body.others_bare (b : Body) : b.bare.others = b.others.map Block.bare := by
  rw [others, others, blocks_bare, List.filter_map]
  simp only [Function.comp_def, Block.type_bare]

end Config

namespace Blueprint

open Config (Attribute Block Body Expr Problem)

namespace Decode

variable {α β γ δ : Type}

def Writes (x : Decode α) (a : α) (problems : List Problem) : Prop :=
  ∀ ps, x.run ps = (a, ps ++ problems)

theorem Writes.pure (a : α) : Writes (pure a) a [] := fun ps =>
  congrArg (Prod.mk a) (List.append_nil ps).symm

theorem Writes.note (problems : List Problem) : Writes (note problems) () problems := fun _ => rfl

theorem Writes.bind {x : Decode α} {f : α → Decode β} {a : α} {b : β} {us vs : List Problem}
    (hx : Writes x a us) (hf : Writes (f a) b vs) : Writes (x >>= f) b (us ++ vs) := by
  intro ps
  have hrun : (x >>= f).run ps = (f (x.run ps).1).run (x.run ps).2 := rfl
  rw [hrun, hx ps, ← List.append_assoc]
  exact hf _

theorem Writes.filterMapM {f : α → Decode (Option β)} {a : α → Option β}
    {problems : α → List Problem} (h : ∀ x, Writes (f x) (a x) (problems x)) (xs : List α) :
    Writes (xs.filterMapM f) (xs.filterMap a) (xs.flatMap problems) := by
  induction xs with
  | nil => exact .pure []
  | cons x xs ih =>
    rw [List.filterMapM_cons, List.filterMap_cons, List.flatMap_cons]
    refine (h x).bind ?_
    cases a x with
    | none => exact ih
    | some b =>
      have hcons : Writes (do return b :: (← xs.filterMapM f)) (b :: xs.filterMap a)
          (xs.flatMap problems ++ []) := ih.bind (.pure _)
      rwa [List.append_nil] at hcons

/-! ## Related decoders -/

/-- The results are related, and both decoders have problems or neither has. -/
def Relates (R : α → β → Prop) (x : Decode α) (y : Decode β) : Prop :=
  ∃ a us b vs, Writes x a us ∧ Writes y b vs ∧ R a b ∧ (us = [] ↔ vs = [])

namespace Relates

theorem pure {R : α → β → Prop} {a : α} {b : β} (h : R a b) :
    Relates R (Pure.pure a) (Pure.pure b) := ⟨a, [], b, [], .pure a, .pure b, h, Iff.rfl⟩

theorem note {ps qs : List Problem} (h : ps = [] ↔ qs = []) :
    Relates Eq (Decode.note ps) (Decode.note qs) := ⟨(), ps, (), qs, .note ps, .note qs, rfl, h⟩

theorem bind {R : α → β → Prop} {S : γ → δ → Prop} {x : Decode α} {y : Decode β}
    {f : α → Decode γ} {g : β → Decode δ} (h : Relates R x y)
    (hf : ∀ a b, R a b → Relates S (f a) (g b)) : Relates S (x >>= f) (y >>= g) := by
  obtain ⟨a, us, b, vs, hx, hy, hr, hproblems⟩ := h
  obtain ⟨c, us', d, vs', hfa, hgb, hs, hproblems'⟩ := hf a b hr
  refine ⟨c, us ++ us', d, vs ++ vs', hx.bind hfa, hy.bind hgb, hs, ?_⟩
  rw [List.append_eq_nil_iff, List.append_eq_nil_iff, hproblems, hproblems']

theorem trans {R : α → β → Prop} {S : β → γ → Prop} {T : α → γ → Prop} {x : Decode α}
    {y : Decode β} {z : Decode γ} (h : Relates R x y) (h' : Relates S y z)
    (hT : ∀ a b c, R a b → S b c → T a c) : Relates T x z := by
  obtain ⟨a, us, b, vs, hx, hy, hr, hproblems⟩ := h
  obtain ⟨b', vs', c, ws, hy', hz, hs, hproblems'⟩ := h'
  -- A decoder has one result and one list of problems.
  obtain ⟨rfl, rfl⟩ : b = b' ∧ vs = vs' := Prod.mk.inj ((hy []).symm.trans (hy' []))
  exact ⟨a, us, c, ws, hx, hz, hT a b c hr hs, hproblems.trans hproblems'⟩

theorem filterMapM {R : β → δ → Prop} {f : α → Decode (Option β)} {g : γ → Decode (Option δ)}
    {xs : List α} {ys : List γ}
    (h : List.Forall₂ (fun x y => Relates (Option.Rel R) (f x) (g y)) xs ys) :
    Relates (List.Forall₂ R) (xs.filterMapM f) (ys.filterMapM g) := by
  induction h with
  | nil => exact .pure .nil
  | cons hxy _ ih =>
    rw [List.filterMapM_cons, List.filterMapM_cons]
    refine hxy.bind fun o o' ho => ?_
    cases ho with
    | none => exact ih
    | some hr => exact ih.bind fun _ _ hall => .pure (.cons hr hall)

theorem perm {f : α → Decode (Option β)} (hf : ∀ x, ∃ a us, Writes (f x) a us) {xs ys : List α}
    (h : xs.Perm ys) : Relates List.Perm (xs.filterMapM f) (ys.filterMapM f) := by
  choose a us hwrites using hf
  refine ⟨_, _, _, _, .filterMapM hwrites xs, .filterMapM hwrites ys, h.filterMap a, ?_⟩
  simp only [List.flatMap_eq_nil_iff, h.mem_iff]

end Relates

/-! ## Bodies with the same items -/

def head (c : Block) : Text × List Text := (c.type, c.labels.map (·.1))

structure Similar (b b' : Body) : Prop where
  attributes : b.attributes.map Attribute.bare = b'.attributes.map Attribute.bare
  heads : ∀ h, h ∈ b.blocks.map head ↔ h ∈ b'.blocks.map head

variable {b b' : Body}

theorem Similar.attribute? (h : Similar b b') (name : Text) :
    (b.attribute? name).map Attribute.bare = (b'.attribute? name).map Attribute.bare := by
  have hfind : ∀ as : List Attribute, (as.find? (·.name = name)).map Attribute.bare =
      (as.map Attribute.bare).find? (·.name = name) := by
    intro as
    rw [List.find?_map]
    rfl
  rw [Body.attribute?, Body.attribute?, hfind, hfind, h.attributes]

theorem Similar.expr? (h : Similar b b') (name : Text) : Same (expr? b name) (expr? b' name) := by
  have hattribute := h.attribute? name
  rw [Decode.expr?, Decode.expr?]
  cases ha : b.attribute? name with
  | none =>
    rw [ha, Option.map_none] at hattribute
    rw [Option.map_eq_none_iff.mp hattribute.symm]
    exact .none
  | some a =>
    rw [ha, Option.map_some] at hattribute
    obtain ⟨a', ha', hbare⟩ := Option.map_eq_some_iff.mp hattribute.symm
    rw [ha']
    exact .some (Config.Expr.agrees_of_bare (congrArg Attribute.expr hbare).symm)

theorem Similar.attributeNames (h : Similar b b') :
    b.attributes.map (·.name) = b'.attributes.map (·.name) := by
  have hnames := congrArg (List.map Attribute.name) h.attributes
  rw [List.map_map, List.map_map] at hnames
  exact hnames

theorem Similar.forall_heads (h : Similar b b') (P : Text → List Text → Prop) :
    (∀ c ∈ b.blocks, P c.type (c.labels.map (·.1))) ↔
      ∀ c ∈ b'.blocks, P c.type (c.labels.map (·.1)) := by
  have hall : ∀ cs : List Block, (∀ c ∈ cs, P c.type (c.labels.map (·.1))) ↔
      ∀ h ∈ cs.map head, P h.1 h.2 := by
    intro cs
    rw [List.forall_mem_map]
    rfl
  rw [hall, hall]
  exact forall_congr' fun x => by rw [h.heads x]

theorem unsupported_eq_nil {s : Schema} {argumentHint blockHint : Text → Config.Hint} :
    s.unsupported b argumentHint blockHint = [] ↔
      (∀ name ∈ b.attributes.map (·.name), name ∈ s.attributes) ∧
        ∀ c ∈ b.blocks, c.type ∈ s.blocks := by
  simp [Schema.unsupported, List.filter_eq_nil_iff]

theorem labelProblem?_eq_none {s : Schema} {c : Block} : s.labelProblem? c = none ↔
    (c.type ∈ s.blocks → (c.labels.map (·.1)).length = 1) := by
  unfold Schema.labelProblem?
  by_cases hknown : c.type ∈ s.blocks
  · rw [if_neg (by simpa using hknown)]
    rcases c.labels with _ | ⟨first, _ | ⟨second, rest⟩⟩ <;> simp [hknown]
  · rw [if_pos (by simpa using hknown)]
    simp [hknown]

theorem problems_eq_nil {s : Schema} : s.problems b = [] ↔
    (∀ name ∈ s.required, (b.attribute? name).isSome = true) ∧
    (∀ c ∈ b.blocks, c.type ∈ s.blocks → (c.labels.map (·.1)).length = 1) ∧
    (s.keepsOthers = false → (∀ name ∈ b.attributes.map (·.name), name ∈ s.attributes) ∧
      ∀ c ∈ b.blocks, c.type ∈ s.blocks) := by
  have hmissing : s.missing b = [] ↔ ∀ name ∈ s.required, (b.attribute? name).isSome = true := by
    simp [Schema.missing, List.filter_eq_nil_iff, Option.isSome_iff_ne_none]
  have hlabels : b.blocks.filterMap s.labelProblem? = [] ↔
      ∀ c ∈ b.blocks, c.type ∈ s.blocks → (c.labels.map (·.1)).length = 1 := by
    rw [List.filterMap_eq_nil_iff]
    exact forall₂_congr fun c _ => labelProblem?_eq_none
  have hothers : (if s.keepsOthers then [] else s.unsupported b (s.argumentHint b) s.blockHint) = [] ↔
      (s.keepsOthers = false → (∀ name ∈ b.attributes.map (·.name), name ∈ s.attributes) ∧
        ∀ c ∈ b.blocks, c.type ∈ s.blocks) := by
    cases s.keepsOthers with
    | true => simp
    | false => simp only [Bool.false_eq_true, if_false, unsupported_eq_nil, true_implies]
  rw [Schema.problems, List.append_eq_nil_iff, List.append_eq_nil_iff, hmissing, hlabels, hothers,
    and_assoc]

theorem Similar.unsupported (h : Similar b b') (s : Schema) : (s.extra b).Alike (s.extra b') := by
  rw [Extra.Alike, Schema.extra, Schema.extra]
  rw [unsupported_eq_nil, unsupported_eq_nil, h.attributeNames,
    h.forall_heads fun type _ => type ∈ s.blocks]

theorem Similar.problems (h : Similar b b') (s : Schema) :
    s.problems b = [] ↔ s.problems b' = [] := by
  have hsome : ∀ name, (b.attribute? name).isSome = (b'.attribute? name).isSome := by
    intro name
    have hmap := congrArg Option.isSome (h.attribute? name)
    simpa only [Option.isSome_map] using hmap
  rw [problems_eq_nil, problems_eq_nil, h.attributeNames,
    h.forall_heads fun type _ => type ∈ s.blocks,
    h.forall_heads fun type labels => type ∈ s.blocks → labels.length = 1]
  simp only [hsome]

/-! ## Decoders of similar bodies -/

theorem Relates.text (h : Similar b b') (name : Text) : Relates Eq (text b name) (text b' name) := by
  have hattribute := h.attribute? name
  unfold Decode.text
  cases ha : b.attribute? name with
  | none =>
    rw [ha, Option.map_none] at hattribute
    rw [Option.map_eq_none_iff.mp hattribute.symm]
    exact .pure rfl
  | some a =>
    rw [ha, Option.map_some] at hattribute
    obtain ⟨a', ha', hbare⟩ := Option.map_eq_some_iff.mp hattribute.symm
    have hexpr := Config.Expr.agrees_of_bare (congrArg Attribute.expr hbare).symm
    rw [ha']
    dsimp only
    cases hs : typed Config.Datum.toText a.expr with
    | ok s =>
      rw [typed_congr hexpr hs]
      exact .pure rfl
    | error problems =>
      cases hs' : typed Config.Datum.toText a'.expr with
      | ok s =>
        rw [typed_congr hexpr.symm hs'] at hs
        cases hs
      | error problems' =>
        have hnote : problems = [] ↔ problems' = [] :=
          ⟨fun h => absurd h (typed_error hs), fun h => absurd h (typed_error hs')⟩
        exact (Relates.note hnote).bind fun _ _ _ => .pure rfl

theorem Relates.one {R : α → α → Prop} {d : Text → Body → Decode α} {c c' : Block}
    (hlabels : c.labels.map (·.1) = c'.labels.map (·.1))
    (h : ∀ name, Relates R (d name c.body) (d name c'.body)) :
    Relates (Option.Rel R) (one d c) (one d c') := by
  unfold Decode.one
  revert hlabels
  generalize c.labels = labels
  generalize c'.labels = labels'
  intro hlabels
  match labels, labels' with
  | [], [] => exact .pure .none
  | [(name, _)], [(name', _)] =>
    obtain rfl : name = name' := by simpa using hlabels
    exact (h name).bind fun _ _ hr => .pure (.some hr)
  | _ :: _ :: _, _ :: _ :: _ => exact .pure .none

theorem Relates.each {R : α → α → Prop} {type : Text} {d : Text → Body → Decode α}
    (h : List.Forall₂ (fun c c' => c.labels.map (·.1) = c'.labels.map (·.1) ∧
        ∀ name, Relates R (d name c.body) (d name c'.body))
      (b.ofType type) (b'.ofType type)) :
    Relates (List.Forall₂ R) (each b type d) (each b' type d) :=
  .filterMapM (h.imp fun _ _ ⟨hlabels, hbody⟩ => .one hlabels hbody)

theorem forall₂_filter {R : Block → Block → Prop} (hR : ∀ c c', R c c' → c.type = c'.type)
    (p : Text → Bool) {cs cs' : List Block} (h : List.Forall₂ R cs cs') :
    List.Forall₂ R (cs.filter fun c => p c.type) (cs'.filter fun c => p c.type) :=
  List.rel_filter (fun c c' hc => by simp only [hR c c' hc]) h

theorem exists_perm_of_map_perm {α β : Type} {f : α → β} {xs ys : List α}
    (h : (xs.map f).Perm (ys.map f)) :
    ∃ mid, xs.Perm mid ∧ List.Forall₂ (fun x y => f x = f y) mid ys := by
  have hcomp : Relation.Comp (fun l m => l = List.map f m) List.Perm (ys.map f) xs := by
    rw [List.eq_map_comp_perm]
    exact h.symm
  obtain ⟨mid, hmid, hperm⟩ := hcomp
  refine ⟨mid, hperm.symm, ?_⟩
  rw [← List.forall₂_map_right_iff, ← List.forall₂_map_left_iff, List.forall₂_eq_eq_eq]
  exact hmid.symm

theorem head_of_same {c c' : Block} (h : c.Same c') : head c = head c' := by
  rw [head, head, h.type, h.labels]

theorem similar_of_bare (h : b.bare = b'.bare) : Similar b b' := by
  have hattributes := congrArg Body.attributes h
  rw [Body.attributes_bare, Body.attributes_bare] at hattributes
  have hheads : b.blocks.map head = b'.blocks.map head :=
    map_eq_of_forall₂ ((Body.blocks_same h).imp fun _ _ hc => head_of_same hc)
  exact ⟨hattributes, fun x => by rw [hheads]⟩

end Decode

open Decode

variable {b b' : Body}

theorem Parameter.relates_decode (h : Similar b b') (name : Text) :
    Relates Parameter.Alike (Parameter.decode name b) (Parameter.decode name b') :=
  (Relates.note (h.problems _)).bind fun _ _ _ =>
    (Relates.text h _).bind fun _ _ hspace => (Relates.text h _).bind fun _ _ htexture =>
    (Relates.text h _).bind fun _ _ htype =>
    .pure ⟨rfl, htype, h.expr? _, hspace, htexture, h.unsupported _⟩

theorem GraphInput.relates_decode (h : Similar b b') (name : Text) :
    Relates GraphInput.Alike (GraphInput.decode name b) (GraphInput.decode name b') :=
  (Relates.note (h.problems _)).bind fun _ _ _ =>
    (Relates.text h _).bind fun _ _ hspace => (Relates.text h _).bind fun _ _ htype =>
    .pure ⟨rfl, htype, h.expr? _, hspace, h.unsupported _⟩

theorem GraphOutput.relates_decode (h : Similar b b') (name : Text) :
    Relates GraphOutput.Alike (GraphOutput.decode name b) (GraphOutput.decode name b') :=
  (Relates.note (h.problems _)).bind fun _ _ _ =>
    (Relates.text h _).bind fun _ _ htype => .pure ⟨rfl, h.expr? _, htype⟩

theorem Input.relates_decode (h : Similar b b') (name : Text) :
    Relates Input.Alike (Input.decode name b) (Input.decode name b') :=
  (Relates.note (h.problems _)).bind fun _ _ _ =>
    (Relates.text h _).bind fun _ _ hspace => (Relates.text h _).bind fun _ _ htype =>
    .pure ⟨rfl, htype, h.expr? _, hspace, h.unsupported _⟩

theorem Output.relates_decode (h : Similar b b') (name : Text) :
    Relates Eq (Output.decode name b) (Output.decode name b') :=
  (Relates.note (h.problems _)).bind fun _ _ _ =>
    (Relates.text h _).bind fun _ _ htype => .pure (by rw [htype])

theorem Material.relates_decode (h : Similar b b') (name : Text) :
    Relates Material.Alike (Material.decode name b) (Material.decode name b') :=
  (Relates.note (h.problems _)).bind fun _ _ _ =>
    .pure ⟨rfl, h.expr? _, h.expr? _, h.expr? _, h.unsupported _⟩

theorem relates_each_of_bare {α : Type} {R : α → α → Prop} {d : Text → Body → Decode α}
    (hd : ∀ {b b' : Body}, b.bare = b'.bare → ∀ name, Relates R (d name b) (d name b'))
    (h : b.bare = b'.bare) (type : Text) :
    Relates (List.Forall₂ R) (each b type d) (each b' type d) := by
  have hblocks := forall₂_filter (fun _ _ hc => hc.type) (fun t => t = type) (Body.blocks_same h)
  exact .each (hblocks.imp fun _ _ hc => ⟨hc.labels, hd hc.body⟩)

theorem Node.relates_decode (h : b.bare = b'.bare) (name : Text) :
    Relates Node.Alike (Node.decode name b) (Node.decode name b') := by
  have hs := similar_of_bare h
  refine (Relates.note (hs.problems _)).bind fun _ _ _ => (Relates.text hs _).bind fun _ _ hgraph =>
    (Relates.text hs _).bind fun _ _ htype => ?_
  refine (relates_each_of_bare (fun h => Input.relates_decode (similar_of_bare h)) h _).bind
    fun inputs inputs' hinputs => ?_
  refine (relates_each_of_bare (fun h => Output.relates_decode (similar_of_bare h)) h _).bind
    fun outputs outputs' houtputs => ?_
  obtain rfl : outputs = outputs' := List.forall₂_eq_eq_eq ▸ houtputs
  exact .pure ⟨rfl, htype, hgraph, hinputs, rfl, hs.unsupported _⟩

/-! ## Bodies with their nodes in another order -/

theorem mem_heads {x : Text × List Text} :
    x ∈ b.blocks.map head ↔ x ∈ (b.ofType "node").map head ∨ x ∈ b.others.map head := by
  have hsplit : ∀ c : Block, c ∈ b.blocks ↔ c ∈ b.ofType "node" ∨ c ∈ b.others := by
    intro c
    simp only [Body.ofType, Body.others, List.mem_filter, decide_eq_true_eq, ← and_or_left]
    exact (and_iff_left (em _)).symm
  simp only [List.mem_map, hsplit, or_and_right, exists_or]

theorem head_bare (c : Block) : head c.bare = head c := by
  simp [head, List.map_map, Function.comp_def]

theorem map_head_bare (cs : List Block) : (cs.map Block.bare).map head = cs.map head := by
  rw [List.map_map]
  exact List.map_congr_left fun c _ => head_bare c

section

variable {R : Block → Block → Prop} (hR : ∀ c c', R c c' → head c = head c')
  (h : b.bare.Shuffled R b'.bare)

include h

theorem others_of_shuffled :
    List.Forall₂ (fun c c' => R c.bare c'.bare) b.others b'.others := by
  have hothers := h.others
  rwa [Body.others_bare, Body.others_bare, List.forall₂_map_left_iff,
    List.forall₂_map_right_iff] at hothers

theorem relates_nodes :
    Relates (Rearranged Node.Alike) (each b "node" Node.decode) (each b' "node" Node.decode) := by
  have hnodes := h.nodes
  rw [Body.ofType_bare, Body.ofType_bare] at hnodes
  obtain ⟨mid, hperm, hsame⟩ := exists_perm_of_map_perm hnodes
  have hwrites : ∀ c : Block, ∃ n us, Writes (one Node.decode c) n us := by
    intro c
    obtain ⟨n, us, _, _, hwrites, _⟩ := Relates.one (c := c) rfl (Node.relates_decode rfl)
    exact ⟨n, us, hwrites⟩
  have hmid : Relates (List.Forall₂ Node.Alike) (mid.filterMapM (one Node.decode))
      (each b' "node" Node.decode) := .filterMapM (hsame.imp fun _ _ (hc : Block.Same _ _) =>
    .one hc.labels (Node.relates_decode hc.body))
  exact (Relates.perm hwrites hperm).trans hmid fun _ _ _ hp hall => ⟨_, hp, hall⟩

include hR

theorem similar_of_shuffled : Similar b b' := by
  have hattributes := h.attributes
  rw [Body.attributes_bare, Body.attributes_bare] at hattributes
  have hnodes := h.nodes.map head
  rw [Body.ofType_bare, Body.ofType_bare, map_head_bare, map_head_bare] at hnodes
  have hothers := map_eq_of_forall₂ (h.others.imp hR)
  rw [Body.others_bare, Body.others_bare, map_head_bare, map_head_bare] at hothers
  exact ⟨hattributes, fun x => by rw [mem_heads, mem_heads, hnodes.mem_iff, hothers]⟩

theorem relates_others {α : Type} {S : α → α → Prop} {type : Text} {d : Text → Body → Decode α}
    (htype : type ≠ "node") (hd : ∀ c c' : Block, c.type = type → R c.bare c'.bare →
      ∀ name, Relates S (d name c.body) (d name c'.body)) :
    Relates (List.Forall₂ S) (each b type d) (each b' type d) := by
  have hheads : ∀ c c' : Block, R c.bare c'.bare → head c = head c' := by
    intro c c' hc
    rw [← head_bare, hR _ _ hc, head_bare]
  have hfilter : ∀ b : Body, b.others.filter (·.type = type) = b.ofType type := by
    intro b
    rw [Body.others, List.filter_filter]
    refine List.filter_congr fun c _ => ?_
    by_cases hc : c.type = type <;> simp [hc, htype]
  have hall := forall₂_filter (fun c c' hc => congrArg Prod.fst (hheads c c' hc))
    (fun t => t = type) (others_of_shuffled h)
  rw [hfilter, hfilter] at hall
  have htyped : ∀ c ∈ b.ofType type, c.type = type :=
    fun c hc => by simpa using (List.mem_filter.mp hc).2
  exact .each (((List.forall₂_and_left _ _).mpr ⟨htyped, hall⟩).imp fun c c' ⟨hc, hr⟩ =>
    ⟨congrArg Prod.snd (hheads c c' hr), hd c c' hc hr⟩)

end

theorem Graph.relates_decode (h : b.bare.Shuffled Eq b'.bare) (name : Text) :
    Relates Graph.Alike (Graph.decode name b) (Graph.decode name b') := by
  have hheads : ∀ c c' : Block, c = c' → head c = head c' := fun _ _ hc => congrArg head hc
  have hs := similar_of_shuffled hheads h
  refine (Relates.note (hs.problems _)).bind fun _ _ _ => ?_
  refine (relates_others hheads h (by decide) fun _ _ _ (hc : Block.Same _ _) =>
    GraphInput.relates_decode (similar_of_bare hc.body)).bind fun _ _ hinputs => ?_
  refine (relates_nodes h).bind fun _ _ hnodes => ?_
  refine (relates_others hheads h (by decide) fun _ _ _ (hc : Block.Same _ _) =>
    GraphOutput.relates_decode (similar_of_bare hc.body)).bind fun _ _ houtputs => ?_
  exact .pure ⟨rfl, hinputs, hnodes, houtputs, hs.unsupported _⟩

theorem head_of_reordered {c c' : Block} (h : c.Reordered c') : head c = head c' := by
  rcases h with rfl | ⟨htype, htype', hlabels, _⟩
  · rfl
  · rw [head, head, htype, htype', hlabels]

theorem shuffled_of_reordered {c c' : Block} (h : c.bare.Reordered c'.bare) :
    c.body.bare.Shuffled Eq c'.body.bare := by
  rcases h with h | ⟨_, _, _, h⟩
  · rw [Block.Same.body h]
    exact ⟨rfl, .refl _, List.forall₂_same.mpr fun _ _ => rfl⟩
  · rwa [Block.body_bare, Block.body_bare] at h

theorem same_of_reordered {c c' : Block} (h : c.bare.Reordered c'.bare)
    (htype : c.type ≠ "node_graph") : c.Same c' :=
  h.resolve_right fun hgraph => htype (c.type_bare ▸ hgraph.1)

theorem relates_decodeFile (h : b.bare.Reordered b'.bare) :
    Relates Alike (decodeFile b) (decodeFile b') := by
  have hheads : ∀ c c' : Block, c.Reordered c' → head c = head c' := fun _ _ => head_of_reordered
  have hs := similar_of_shuffled hheads h
  refine (Relates.note (hs.problems _)).bind fun _ _ _ => ?_
  refine (relates_others hheads h (by decide) fun c c' htype hc => Parameter.relates_decode
    (similar_of_bare (same_of_reordered hc (by rw [htype]; decide)).body)).bind
    fun _ _ hparameters => ?_
  refine (relates_others hheads h (by decide) fun c c' _ hc =>
    Graph.relates_decode (shuffled_of_reordered hc)).bind fun _ _ hgraphs => ?_
  refine (relates_nodes h).bind fun _ _ hnodes => ?_
  refine (relates_others hheads h (by decide) fun c c' htype hc => Material.relates_decode
    (similar_of_bare (same_of_reordered hc (by rw [htype]; decide)).body)).bind
    fun _ _ hmaterials => ?_
  exact .pure ⟨hparameters, hgraphs, hnodes, hmaterials⟩

theorem decode_eq_ok {bp bp' : Blueprint} {problems : List Problem}
    (h : Writes (decodeFile b) bp problems) : decode b = .ok bp' ↔ problems = [] ∧ bp = bp' := by
  have hrun : (decodeFile b).run [] = (bp, problems) := h []
  rw [decode, hrun]
  cases problems <;> simp

/-- A file with its nodes in another order decodes to a blueprint that is alike. -/
theorem decode_of_reordered (h : b.bare.Reordered b'.bare) {bp : Blueprint} (hbp : decode b = .ok bp) :
    ∃ bp', decode b' = .ok bp' ∧ bp.Alike bp' := by
  obtain ⟨_, us, bp', vs, hfile, hfile', halike, hproblems⟩ := relates_decodeFile h
  obtain ⟨hus, rfl⟩ := (decode_eq_ok hfile).mp hbp
  exact ⟨bp', (decode_eq_ok hfile').mpr ⟨hproblems.mp hus, rfl⟩, halike⟩

end Blueprint

end ShaderGraph
