import Mathlib.Data.List.Forall2
import ShaderGraph.Config.Eval

/-!
# Expressions without their places

What an expression stands for does not depend on where it is written. Erasing all spans keeps the
value of an expression, whether it has problems, and what it refers to.
-/
namespace ShaderGraph.Config

def Span.nowhere : Span := .empty ⟨0, 0⟩

def bareSteps (steps : List (Step × Span)) : List (Step × Span) :=
  steps.map fun s => (s.1, .nowhere)

mutual

def Expr.bare : Expr → Expr
  | .literal v _ => .literal v .nowhere
  | .template parts _ => .template (bareAll parts) .nowhere
  | .wrapped e _ => .wrapped e.bare .nowhere
  | .variable root _ steps _ => .variable root .nowhere (bareSteps steps) .nowhere
  | .relative source steps _ => .relative source.bare (bareSteps steps) .nowhere
  | .index collection key _ _ _ => .index collection.bare key.bare .nowhere .nowhere .nowhere
  | .splat source each _ _ => .splat source.bare each.bare .nowhere .nowhere
  | .item _ => .item .nowhere
  | .call _ args _ => .call .nowhere (bareAll args) .nowhere
  | .tuple items _ _ => .tuple (bareAll items) .nowhere .nowhere
  | .object keys values _ _ => .object (bareAll keys) (bareAll values) .nowhere .nowhere
  | .parens e _ => .parens e.bare .nowhere
  | .unary op e _ _ => .unary op e.bare .nowhere .nowhere
  | .binary op left right _ => .binary op left.bare right.bare .nowhere

def bareAll : List Expr → List Expr
  | [] => []
  | e :: es => e.bare :: bareAll es

end

theorem bareSteps_fst (steps : List (Step × Span)) :
    (bareSteps steps).map (·.1) = steps.map (·.1) := by
  rw [bareSteps, List.map_map]
  rfl

theorem Expr.reference?_bare : (e : Expr) → e.bare.reference? = e.reference?
  | .literal v _ => by cases v <;> rfl
  | .variable root _ steps _ => by simp [bare, reference?, bareSteps_fst]
  | .relative source steps _ => by
    simp only [bare, reference?, bareSteps_fst, source.reference?_bare]
  | .template .. | .wrapped .. | .index .. | .splat .. | .item _ | .call .. | .tuple .. | .object ..
  | .parens .. | .unary .. | .binary .. => by simp [bare, reference?]

/-! ## Evaluations -/

theorem isEmpty_append_congr {ps ps' qs qs' : List Problem} (hp : ps.isEmpty = ps'.isEmpty)
    (hq : qs.isEmpty = qs'.isEmpty) : (ps ++ qs).isEmpty = (ps' ++ qs').isEmpty := by
  rw [Bool.eq_iff_iff] at hp hq ⊢
  simp only [List.isEmpty_iff, List.append_eq_nil_iff] at hp hq ⊢
  rw [hp, hq]

structure Evaluation.Agrees (e e' : Evaluation) : Prop where
  value : e.value = e'.value
  problems : e.problems.isEmpty = e'.problems.isEmpty

namespace Evaluation.Agrees

theorem refl (e : Evaluation) : e.Agrees e := ⟨rfl, rfl⟩

theorem map_value {es es' : List Evaluation} (h : List.Forall₂ Agrees es es') :
    es.map (·.value) = es'.map (·.value) := by
  induction h with
  | nil => rfl
  | cons he _ ih => rw [List.map_cons, List.map_cons, he.value, ih]

theorem flatMap_problems {es es' : List Evaluation} (h : List.Forall₂ Agrees es es') :
    (es.flatMap (·.problems)).isEmpty = (es'.flatMap (·.problems)).isEmpty := by
  induction h with
  | nil => rfl
  | cons he _ ih =>
    rw [List.flatMap_cons, List.flatMap_cons]
    exact isEmpty_append_congr he.problems ih

end Evaluation.Agrees

open Evaluation (Agrees)

theorem operand_agrees (side : Side) (type? : Option Scalar) (e e' : Expr) (d : Datum) :
    (operand side type? e d).1 = (operand side type? e' d).1 ∧
      (operand side type? e d).2.isEmpty = (operand side type? e' d).2.isEmpty := by
  unfold operand
  split
  · exact ⟨rfl, rfl⟩
  · split <;> exact ⟨rfl, rfl⟩

theorem applied_agrees (type : Scalar) (span span' : Span) {problems problems' : List Problem}
    (h : problems.isEmpty = problems'.isEmpty) (result : Except OperationError Datum) :
    (applied type span problems result).Agrees (applied type span' problems' result) := by
  unfold applied
  rw [h]
  split
  · exact ⟨rfl, h⟩
  · split <;> exact ⟨rfl, rfl⟩

theorem follow_agrees (d : Datum) (steps : List (Step × Span)) :
    (follow d (bareSteps steps)).Agrees (follow d steps) := by
  induction steps generalizing d with
  | nil => exact .refl _
  | cons step steps ih =>
    obtain ⟨s, span⟩ := step
    simp only [bareSteps, List.map_cons, follow]
    split
    · exact ih _
    · exact ⟨rfl, rfl⟩

/-! Templates -/

structure Joined.Agrees (j j' : Joined) : Prop where
  text : j.text = j'.text
  isKnown : j.isKnown = j'.isKnown
  problems : j.problems.isEmpty = j'.problems.isEmpty

theorem Joined.Agrees.add {j j' : Joined} (h : j.Agrees j') (part part' : Expr) {e e' : Evaluation}
    (he : e.Agrees e') : (j.add part e).Agrees (j'.add part' e') := by
  have hproblems := isEmpty_append_congr h.problems he.problems
  unfold Joined.add
  rw [he.value]
  split
  · exact ⟨h.text, h.isKnown, isEmpty_append_congr hproblems rfl⟩
  · exact ⟨h.text, rfl, hproblems⟩
  · split
    · refine ⟨?_, h.isKnown, hproblems⟩
      dsimp only
      rw [hproblems, h.text]
    · exact ⟨h.text, h.isKnown, hproblems⟩
    · exact ⟨h.text, h.isKnown, isEmpty_append_congr hproblems rfl⟩

theorem joinParts_agrees (parts : List Expr) {es es' : List Evaluation}
    (h : List.Forall₂ Agrees es es') :
    (joinParts (bareAll parts) es).Agrees (joinParts parts es') := by
  have hjoined : ∀ j j' : Joined, j.Agrees j' →
      (((bareAll parts).zip es).foldl (fun acc p => acc.add p.1 p.2) j).Agrees
        ((parts.zip es').foldl (fun acc p => acc.add p.1 p.2) j') := by
    induction h generalizing parts with
    | nil => simp
    | cons he _ ih =>
      cases parts with
      | nil => simp [bareAll]
      | cons part parts =>
        intro j j' hj
        simp only [bareAll, List.zip_cons_cons, List.foldl_cons]
        exact ih parts _ _ (hj.add _ _ he)
  obtain ⟨htext, hknown, hproblems⟩ := hjoined ⟨[], true, []⟩ _ ⟨rfl, rfl, rfl⟩
  unfold joinParts
  dsimp only
  rw [hknown]
  split
  · exact ⟨by rw [htext], hproblems⟩
  · exact ⟨rfl, hproblems⟩

/-! Objects -/

theorem keyOf_agrees (key : Expr) {e e' : Evaluation} (h : e.Agrees e') :
    (keyOf key.bare e).Agrees (keyOf key e') := by
  unfold keyOf
  rw [key.reference?_bare]
  cases key with
  | «variable» root rootSpan steps span =>
    cases steps with
    | nil => exact ⟨rfl, rfl⟩
    | cons step steps => exact ⟨rfl, rfl⟩
  | _ =>
    generalize Expr.reference? _ = r
    rcases r with _ | ⟨name, _ | ⟨step, steps⟩⟩
    · exact h
    · exact .refl _
    · exact h

theorem fieldOf_agrees (key key' value value' : Expr) {k k' v v' : Evaluation} (hk : k.Agrees k')
    (hv : v.Agrees v') : (fieldOf key value k v).1 = (fieldOf key' value' k' v').1 ∧
      (fieldOf key value k v).2.isEmpty = (fieldOf key' value' k' v').2.isEmpty := by
  have hproblems := isEmpty_append_congr hk.problems hv.problems
  unfold fieldOf
  dsimp only
  rw [hk.problems, hk.value, hv.value]
  split
  · exact ⟨rfl, hproblems⟩
  · split
    · exact ⟨rfl, isEmpty_append_congr hproblems rfl⟩
    · split
      · exact ⟨rfl, hproblems⟩
      · exact ⟨rfl, hproblems⟩
      · exact ⟨rfl, isEmpty_append_congr hproblems rfl⟩

theorem joinFields_agrees {fs fs' : List (Option (Text × Datum) × List Problem)}
    (h : List.Forall₂ (fun f f' => f.1 = f'.1 ∧ f.2.isEmpty = f'.2.isEmpty) fs fs') :
    (joinFields fs).Agrees (joinFields fs') := by
  have hproblems : (fs.flatMap (·.2)).isEmpty = (fs'.flatMap (·.2)).isEmpty := by
    induction h with
    | nil => rfl
    | cons hf _ ih =>
      rw [List.flatMap_cons, List.flatMap_cons]
      exact isEmpty_append_congr hf.2 ih
  have hfields : fs.mapM (·.1) = fs'.mapM (·.1) := by
    clear hproblems
    induction h with
    | nil => rfl
    | cons hf _ ih => rw [List.mapM_cons, List.mapM_cons, hf.1, ih]
  unfold joinFields
  dsimp only
  rw [hfields]
  split <;> exact ⟨rfl, hproblems⟩

theorem forall₂_zip {α α' β β' : Type} {R : α → α' → Prop} {S : β → β' → Prop} {as : List α}
    {as' : List α'} {bs : List β} {bs' : List β'} (ha : List.Forall₂ R as as')
    (hb : List.Forall₂ S bs bs') :
    List.Forall₂ (fun p p' => R p.1 p'.1 ∧ S p.2 p'.2) (as.zip bs) (as'.zip bs') := by
  induction ha generalizing bs bs' with
  | nil => exact .nil
  | cons h _ ih =>
    cases hb with
    | nil => exact .nil
    | cons h' hb => exact .cons ⟨h, h'⟩ (ih hb)

theorem bareAll_forall₂ (es : List Expr) :
    List.Forall₂ (fun e' e => e' = Expr.bare e) (bareAll es) es := by
  induction es with
  | nil => exact .nil
  | cons e es ih => exact .cons rfl ih

theorem keys_agree (keys : List Expr) {es es' : List Evaluation} (h : List.Forall₂ Agrees es es') :
    List.Forall₂ (fun p p' : Expr × Evaluation => p.2.Agrees p'.2)
      (((bareAll keys).zip es).map fun (key, e) => (key, keyOf key e))
      ((keys.zip es').map fun (key, e) => (key, keyOf key e)) := by
  rw [List.forall₂_map_left_iff, List.forall₂_map_right_iff]
  refine (forall₂_zip (bareAll_forall₂ keys) h).imp ?_
  rintro ⟨_, e⟩ ⟨key, e'⟩ ⟨rfl, he⟩
  exact keyOf_agrees key he

/-! Splats -/

theorem spread_agrees {each each' : Datum → Evaluation} (h : ∀ d, (each d).Agrees (each' d))
    (items : List Datum) : (spread each items).Agrees (spread each' items) := by
  have hall : List.Forall₂ Agrees (items.map each) (items.map each') := by
    rw [List.forall₂_map_left_iff, List.forall₂_map_right_iff]
    exact List.forall₂_same.mpr fun d _ => h d
  unfold spread
  dsimp only
  rw [Agrees.flatMap_problems hall, Agrees.map_value hall]
  split
  · exact ⟨rfl, rfl⟩
  · refine ⟨?_, Agrees.flatMap_problems hall⟩
    simp only [(h _).value]

theorem splatOf_agrees {source source' : Evaluation} {each each' : Datum → Evaluation}
    (hs : source.Agrees source') (h : ∀ d, (each d).Agrees (each' d)) :
    (splatOf source each).Agrees (splatOf source' each') := by
  unfold splatOf
  rw [hs.problems, hs.value]
  split
  · exact ⟨rfl, hs.problems⟩
  · split
    · exact .refl _
    · exact .refl _
    · exact spread_agrees h _
    · exact ⟨rfl, (spread_agrees h _).problems⟩
    · exact spread_agrees h _

mutual

/-- Erasing spans keeps the value of an expression and whether it has problems. -/
theorem Expr.evalAt_bare : (e : Expr) → (item : Datum) → (e.bare.evalAt item).Agrees (e.evalAt item)
  | .literal v _, item => .refl _
  | .template parts _, item => by
    simp only [Expr.bare, Expr.evalAt]
    exact joinParts_agrees parts (evalAll_bare parts item)
  | .wrapped e _, item => by
    simp only [Expr.bare, Expr.evalAt]
    exact e.evalAt_bare item
  | .variable _ _ _ _, item => ⟨rfl, rfl⟩
  | .relative source steps _, item => by
    have hwhole := source.evalAt_bare item
    have hpart := follow_agrees (source.evalAt item).value steps
    simp only [Expr.bare, Expr.evalAt, hwhole.value]
    exact ⟨hpart.value, isEmpty_append_congr hwhole.problems hpart.problems⟩
  | .index collection key _ brackets _, item => by
    have hc := collection.evalAt_bare item
    have hk := key.evalAt_bare item
    have hpart := follow_agrees (collection.evalAt item).value
      [(.index (key.evalAt item).value, brackets)]
    simp only [Expr.bare, Expr.evalAt, hc.value, hk.value]
    exact ⟨hpart.value,
      isEmpty_append_congr (isEmpty_append_congr hc.problems hk.problems) hpart.problems⟩
  | .splat source each _ _, item => by
    simp only [Expr.bare, Expr.evalAt]
    exact splatOf_agrees (source.evalAt_bare item) fun d => each.evalAt_bare d
  | .item _, item => .refl _
  | .call _ _ _, item => ⟨rfl, rfl⟩
  | .tuple items _ _, item => by
    have hall := evalAll_bare items item
    simp only [Expr.bare, Expr.evalAt]
    exact ⟨by rw [Agrees.map_value hall], Agrees.flatMap_problems hall⟩
  | .object keys values _ _, item => by
    simp only [Expr.bare, Expr.evalAt]
    refine joinFields_agrees ?_
    rw [List.forall₂_map_left_iff, List.forall₂_map_right_iff]
    have hks := keys_agree keys (evalAll_bare keys item)
    have hvs := forall₂_zip (bareAll_forall₂ values) (evalAll_bare values item)
    exact (forall₂_zip hks hvs).imp fun _ _ ⟨hk, _, hv⟩ => fieldOf_agrees _ _ _ _ hk hv
  | .parens e _, item => by
    simp only [Expr.bare, Expr.evalAt]
    exact e.evalAt_bare item
  | .unary op e _ span, item => by
    have he := e.evalAt_bare item
    have hv := operand_agrees .only (some op.type) e.bare e (e.evalAt item).value
    simp only [Expr.bare, Expr.evalAt, he.value, hv.1]
    exact applied_agrees _ _ _ (isEmpty_append_congr he.problems hv.2) _
  | .binary op left right span, item => by
    have hl := left.evalAt_bare item
    have hr := right.evalAt_bare item
    have hx := operand_agrees .left op.operandType? left.bare left (left.evalAt item).value
    have hy := operand_agrees .right op.operandType? right.bare right (right.evalAt item).value
    simp only [Expr.bare, Expr.evalAt, hl.value, hr.value, hx.1, hy.1]
    exact applied_agrees _ _ _ (isEmpty_append_congr (isEmpty_append_congr
      (isEmpty_append_congr hl.problems hr.problems) hx.2) hy.2) _

theorem evalAll_bare : (es : List Expr) → (item : Datum) →
    List.Forall₂ Agrees (evalAll (bareAll es) item) (evalAll es item)
  | [], _ => .nil
  | e :: es, item => .cons (e.evalAt_bare item) (evalAll_bare es item)

end

theorem Expr.reference?_congr {e e' : Expr} (h : e.bare = e'.bare) : e.reference? = e'.reference? := by
  rw [← e.reference?_bare, h, e'.reference?_bare]

theorem Expr.eval_agrees {e e' : Expr} (h : e.bare = e'.bare) : e.eval.Agrees e'.eval := by
  have hbare := e.evalAt_bare (.unknown .dynamic)
  have hbare' := e'.evalAt_bare (.unknown .dynamic)
  rw [h] at hbare
  exact ⟨hbare.value.symm.trans hbare'.value, hbare.problems.symm.trans hbare'.problems⟩

/-- The expressions mean the same wherever they stand: they are the same reference or none, they have
the same value, and both or neither have problems. -/
structure Expr.Agrees (e e' : Expr) : Prop where
  reference : e.reference? = e'.reference?
  eval : e.eval.Agrees e'.eval

theorem Expr.Agrees.symm {e e' : Expr} (h : e.Agrees e') : e'.Agrees e :=
  ⟨h.reference.symm, h.eval.value.symm, h.eval.problems.symm⟩

theorem Expr.agrees_of_bare {e e' : Expr} (h : e.bare = e'.bare) : e.Agrees e' :=
  ⟨reference?_congr h, eval_agrees h⟩

/-! ## Bodies -/

def Attribute.bare (a : Attribute) : Attribute := ⟨a.name, .nowhere, a.expr.bare⟩

mutual

def Block.bare : Block → Block
  | .mk type _ labels _ body =>
    .mk type .nowhere (labels.map fun l => (l.1, .nowhere)) .nowhere body.bare

def Body.bare : Body → Body
  | .mk attributes blocks _ => .mk (attributes.map Attribute.bare) (bareBlocks blocks) ⟨0, 0⟩

def bareBlocks : List Block → List Block
  | [] => []
  | c :: cs => c.bare :: bareBlocks cs

end

theorem bareBlocks_eq_map (cs : List Block) : bareBlocks cs = cs.map Block.bare := by
  induction cs with
  | nil => rfl
  | cons c cs ih => rw [bareBlocks, ih, List.map_cons]

@[simp] theorem Body.attributes_bare (b : Body) :
    b.bare.attributes = b.attributes.map Attribute.bare := by
  obtain ⟨attributes, blocks, start⟩ := b
  rfl

@[simp] theorem Body.blocks_bare (b : Body) : b.bare.blocks = b.blocks.map Block.bare := by
  obtain ⟨attributes, blocks, start⟩ := b
  exact bareBlocks_eq_map blocks

@[simp] theorem Block.type_bare (c : Block) : c.bare.type = c.type := by
  obtain ⟨type, typeSpan, labels, brace, body⟩ := c
  rfl

@[simp] theorem Block.labels_bare (c : Block) :
    c.bare.labels = c.labels.map fun l => (l.1, Span.nowhere) := by
  obtain ⟨type, typeSpan, labels, brace, body⟩ := c
  rfl

@[simp] theorem Block.body_bare (c : Block) : c.bare.body = c.body.bare := by
  obtain ⟨type, typeSpan, labels, brace, body⟩ := c
  rfl

def Block.Same (c c' : Block) : Prop := c.bare = c'.bare

theorem Block.Same.type {c c' : Block} (h : c.Same c') : c.type = c'.type := by
  rw [← c.type_bare, h, c'.type_bare]

theorem Block.Same.labels {c c' : Block} (h : c.Same c') :
    c.labels.map (·.1) = c'.labels.map (·.1) := by
  have hnames := congrArg (fun c => (Block.labels c).map (·.1)) h
  simpa [List.map_map, Function.comp_def] using hnames

theorem Block.Same.body {c c' : Block} (h : c.Same c') : c.body.bare = c'.body.bare := by
  rw [← c.body_bare, h, c'.body_bare]

theorem Body.blocks_same {b b' : Body} (h : b.bare = b'.bare) :
    List.Forall₂ Block.Same b.blocks b'.blocks := by
  have hblocks := congrArg Body.blocks h
  rw [Body.blocks_bare, Body.blocks_bare, ← List.forall₂_eq_eq_eq, List.forall₂_map_left_iff,
    List.forall₂_map_right_iff] at hblocks
  exact hblocks

end ShaderGraph.Config
