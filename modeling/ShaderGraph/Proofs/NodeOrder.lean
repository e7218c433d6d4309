import ShaderGraph.Proofs.Decoding
import ShaderGraph.Proofs.Renaming

/-!
# Files with their nodes in another order

A blueprint that is loaded keeps being loaded when its nodes are declared in another order, and what is
loaded is the same up to the handles of nodes. So it is with a file that is read. Whatever else stands
in the file, such as comments, blanks and places, may differ as well, since only the syntax trees
without places are compared.
-/
namespace ShaderGraph

namespace Blueprint

open Config (Body)

theorem exists_load_of_alike {bp bp' : Blueprint} (h : bp.Alike bp') {base : Text} {l : Loaded}
    (hl : load bp base = .ok l) : ∃ l', load bp' base = .ok l' ∧ l'.Isomorphic l := by
  obtain ⟨parameters, high, handle, hchart⟩ := chart_of_load hl
  exact (hchart.congr h).exists_isomorphic

theorem isomorphic_of_exists {r r' : Except Refusal Loaded}
    (h : ∀ l, r = .ok l → ∃ l', r' = .ok l' ∧ l'.Isomorphic l)
    (h' : ∀ l', r' = .ok l' → ∃ l, r = .ok l ∧ l.Isomorphic l') :
    ((∃ l, r = .ok l) ↔ ∃ l', r' = .ok l') ∧ ∀ l l', r = .ok l → r' = .ok l' → l.Isomorphic l' := by
  refine ⟨⟨fun ⟨l, hl⟩ => ?_, fun ⟨l', hl'⟩ => ?_⟩, fun l l' hl hl' => ?_⟩
  · obtain ⟨l', hl', _⟩ := h l hl
    exact ⟨l', hl'⟩
  · obtain ⟨l, hl, _⟩ := h' l' hl'
    exact ⟨l, hl⟩
  · obtain ⟨l₀, hl₀, hiso⟩ := h' l' hl'
    obtain rfl := Except.ok.inj (hl₀.symm.trans hl)
    exact hiso

/-- The order in which nodes are declared matters neither for whether a blueprint is loaded nor, up to
the handles of nodes, for what is loaded. -/
theorem load_up_to_node_order {bp bp' : Blueprint} (h : bp.Alike bp') (base : Text) :
    ((∃ l, load bp base = .ok l) ↔ ∃ l', load bp' base = .ok l') ∧
      ∀ l l', load bp base = .ok l → load bp' base = .ok l' → l.Isomorphic l' :=
  isomorphic_of_exists (fun _ => exists_load_of_alike h) fun _ => exists_load_of_alike h.symm

theorem exists_read_of_reordered {source source' filename : Text} {b b' : Body}
    (hb : Config.parseFile source = some b) (hb' : Config.parseFile source' = some b')
    (h : b.bare.Reordered b'.bare) {l : Loaded} (hl : read source filename = .ok l) :
    ∃ l', read source' filename = .ok l' ∧ l'.Isomorphic l := by
  obtain ⟨body, bp, hbody, hbp, hload⟩ := read_eq_ok.mp hl
  obtain rfl : b = body := Option.some.inj (hb.symm.trans hbody)
  obtain ⟨bp', hbp', halike⟩ := decode_of_reordered h hbp
  obtain ⟨l', hload', hiso⟩ := exists_load_of_alike halike hload
  exact ⟨l', read_eq_ok.mpr ⟨b', bp', hb', hbp', hload'⟩, hiso⟩

theorem read_up_to_node_order {source source' filename : Text} {b b' : Body}
    (hb : Config.parseFile source = some b) (hb' : Config.parseFile source' = some b')
    (h : b.bare.Reordered b'.bare) :
    ((∃ l, read source filename = .ok l) ↔ ∃ l', read source' filename = .ok l') ∧
      ∀ l l', read source filename = .ok l → read source' filename = .ok l' → l.Isomorphic l' :=
  isomorphic_of_exists (fun _ => exists_read_of_reordered hb hb' h)
    fun _ => exists_read_of_reordered hb' hb h.symm

end Blueprint

/-! ## Reversed nodes

A test that is met by files in which the nodes of one stand in reverse order in the other. -/

namespace Config

def stepNames? : List (Step × Span) → Option (List Text)
  | [] => some []
  | (.attribute name, _) :: steps => (stepNames? steps).map (name :: ·)
  | (.index _, _) :: _ => none

def Expr.words? : Expr → Option (Text ⊕ Text × List Text)
  | .template [.literal (.string s) _] _ => some (.inl s)
  | .variable root _ steps _ => (stepNames? steps).map fun names => .inr (root, names)
  | _ => none

def Expr.ofWords : Text ⊕ Text × List Text → Expr
  | .inl s => .template [.literal (.string s) .nowhere] .nowhere
  | .inr (root, names) =>
    .variable root .nowhere (names.map fun name => (.attribute name, .nowhere)) .nowhere

theorem bareSteps_of_stepNames {steps : List (Step × Span)} {names : List Text}
    (h : stepNames? steps = some names) :
    bareSteps steps = names.map fun name => (.attribute name, .nowhere) := by
  fun_induction stepNames? steps generalizing names with
  | case1 =>
    cases h
    rfl
  | case2 name span steps ih =>
    obtain ⟨rest, hrest, rfl⟩ := Option.map_eq_some_iff.mp h
    rw [List.map_cons, ← ih hrest]
    rfl
  | case3 => cases h

theorem Expr.bare_of_words {e : Expr} {w : Text ⊕ Text × List Text} (h : e.words? = some w) :
    e.bare = ofWords w := by
  unfold words? at h
  split at h
  · cases h
    rfl
  · obtain ⟨names, hnames, rfl⟩ := Option.map_eq_some_iff.mp h
    simp only [bare, bareSteps_of_stepNames hnames, ofWords]
  · cases h

def Attribute.echoes (a a' : Attribute) : Bool :=
  a.name = a'.name ∧ a.expr.words?.isSome ∧ a.expr.words? = a'.expr.words?

theorem Attribute.bare_eq_of_echoes {a a' : Attribute} (h : a.echoes a') : a.bare = a'.bare := by
  obtain ⟨hname, hsome, hwords⟩ := of_decide_eq_true h
  obtain ⟨w, hw⟩ := Option.isSome_iff_exists.mp hsome
  rw [bare, bare, hname, Expr.bare_of_words hw, Expr.bare_of_words (hwords.symm.trans hw)]

mutual

/-- The blocks are equal but for their places, a test for blocks with simple arguments. -/
def Block.echoes : Block → Block → Bool
  | .mk type _ labels _ body, .mk type' _ labels' _ body' =>
    decide (type = type') && decide (labels.map (·.1) = labels'.map (·.1)) && body.echoes body'

def Body.echoes : Body → Body → Bool
  | .mk attributes blocks _, .mk attributes' blocks' _ =>
    decide (List.Forall₂ (fun a a' => Attribute.echoes a a' = true) attributes attributes') &&
      echoBlocks blocks blocks'

def echoBlocks : List Block → List Block → Bool
  | [], [] => true
  | c :: cs, c' :: cs' => c.echoes c' && echoBlocks cs cs'
  | _, _ => false

end

theorem map_bare_of_echoes {as as' : List Attribute}
    (h : List.Forall₂ (fun a a' => Attribute.echoes a a' = true) as as') :
    as.map Attribute.bare = as'.map Attribute.bare := by
  rw [← List.forall₂_eq_eq_eq, List.forall₂_map_left_iff, List.forall₂_map_right_iff]
  exact h.imp fun _ _ => Attribute.bare_eq_of_echoes

mutual

theorem Block.same_of_echoes : (c c' : Block) → c.echoes c' = true → c.Same c'
  | .mk type _ labels _ body, .mk type' _ labels' _ body', h => by
    simp only [Block.echoes, Bool.and_eq_true, decide_eq_true_eq] at h
    obtain ⟨⟨rfl, hlabels⟩, hbody⟩ := h
    have hspans := congrArg (List.map fun l => (l, Span.nowhere)) hlabels
    rw [List.map_map, List.map_map] at hspans
    rw [Block.Same, Block.bare, Block.bare, Body.bare_eq_of_echoes body body' hbody]
    exact congrArg (Block.mk type .nowhere · .nowhere body'.bare) hspans

theorem Body.bare_eq_of_echoes : (b b' : Body) → b.echoes b' = true → b.bare = b'.bare
  | .mk attributes blocks _, .mk attributes' blocks' _, h => by
    simp only [Body.echoes, Bool.and_eq_true, decide_eq_true_eq] at h
    rw [Body.bare, Body.bare, map_bare_of_echoes h.1, bareBlocks_of_echoes blocks blocks' h.2]

theorem bareBlocks_of_echoes :
    (cs cs' : List Block) → echoBlocks cs cs' = true → bareBlocks cs = bareBlocks cs'
  | [], [], _ => rfl
  | [], _ :: _, h => by simp [echoBlocks] at h
  | _ :: _, [], h => by simp [echoBlocks] at h
  | c :: cs, c' :: cs', h => by
    simp only [echoBlocks, Bool.and_eq_true] at h
    rw [bareBlocks, bareBlocks, Block.same_of_echoes c c' h.1, bareBlocks_of_echoes cs cs' h.2]

end

def Body.reverses (R : Block → Block → Bool) (b b' : Body) : Bool :=
  List.Forall₂ (fun a a' => Attribute.echoes a a' = true) b.attributes b'.attributes ∧
    List.Forall₂ (fun c c' => Block.echoes c c' = true) (b.ofType "node") (b'.ofType "node").reverse ∧
    List.Forall₂ (fun c c' => R c c' = true) b.others b'.others

theorem Body.shuffled_of_reverses {R : Block → Block → Bool} {S : Block → Block → Prop}
    (hR : ∀ c c', R c c' = true → S c.bare c'.bare) {b b' : Body} (h : b.reverses R b' = true) :
    b.bare.Shuffled S b'.bare := by
  obtain ⟨hattributes, hnodes, hothers⟩ := of_decide_eq_true h
  refine ⟨?_, ?_, ?_⟩
  · rw [attributes_bare, attributes_bare]
    exact map_bare_of_echoes hattributes
  · have hbare : (b.ofType "node").map Block.bare = (b'.ofType "node").reverse.map Block.bare := by
      rw [← List.forall₂_eq_eq_eq, List.forall₂_map_left_iff, List.forall₂_map_right_iff]
      exact hnodes.imp Block.same_of_echoes
    rw [ofType_bare, ofType_bare, hbare]
    exact (List.reverse_perm _).map _
  · rw [others_bare, others_bare, List.forall₂_map_left_iff, List.forall₂_map_right_iff]
    exact hothers.imp hR

def Block.reverses (c c' : Block) : Bool :=
  c.echoes c' || decide (c.type = "node_graph" ∧ c'.type = "node_graph" ∧
    c.labels.map (·.1) = c'.labels.map (·.1)) && c.body.reverses Block.echoes c'.body

theorem Block.reordered_of_reverses (c c' : Block) (h : c.reverses c' = true) :
    c.bare.Reordered c'.bare := by
  rw [reverses, Bool.or_eq_true, Bool.and_eq_true, decide_eq_true_eq] at h
  rcases h with h | ⟨⟨htype, htype', hlabels⟩, hbody⟩
  · exact Or.inl (same_of_echoes c c' h)
  · refine Or.inr ⟨?_, ?_, ?_, ?_⟩
    · rw [type_bare, htype]
    · rw [type_bare, htype']
    · have hspans := congrArg (List.map fun l => (l, Span.nowhere)) hlabels
      rw [List.map_map, List.map_map] at hspans
      rw [labels_bare, labels_bare]
      exact hspans
    · rw [body_bare, body_bare]
      exact Body.shuffled_of_reverses same_of_echoes hbody

end Config

namespace Blueprint

open Config (Body)

def forwardSource : Text :=
"node_graph \"G\" \x7b
node \"u\" \x7b
type = \"U\"
input \"a\" \x7b
type = \"float\"
value = node.v
\x7d
output \"o\" \x7b type = \"float\" \x7d
\x7d
node \"v\" \x7b
type = \"V\"
output \"o\" \x7b type = \"float\" \x7d
\x7d
output \"y\" \x7b value = node.u \x7d
\x7d
node \"w\" \x7b type = \"W\" \x7d
node \"s\" \x7b
type = \"S\"
input \"a\" \x7b
type = \"float\"
value = node.g
\x7d
output \"o\" \x7b type = \"token\" \x7d
\x7d
node \"g\" \x7b graph = \"G\" \x7d
material \"M\" \x7b surface = node.s \x7d
"

def backwardSource : Text :=
"node \"g\" \x7b graph = \"G\" \x7d
node \"s\" \x7b
type = \"S\"
input \"a\" \x7b
type = \"float\"
value = node.g
\x7d
output \"o\" \x7b type = \"token\" \x7d
\x7d
node \"w\" \x7b type = \"W\" \x7d
node_graph \"G\" \x7b
output \"y\" \x7b value = node.u \x7d
node \"v\" \x7b
type = \"V\"
output \"o\" \x7b type = \"float\" \x7d
\x7d
node \"u\" \x7b
type = \"U\"
input \"a\" \x7b
type = \"float\"
value = node.v
\x7d
output \"o\" \x7b type = \"float\" \x7d
\x7d
\x7d
material \"M\" \x7b surface = node.s \x7d
"

theorem backward_read_as_forward : ∃ l l', read forwardSource "m.hcl" = .ok l ∧
    read backwardSource "m.hcl" = .ok l' ∧ l.network ≠ l'.network ∧ l.Isomorphic l' := by
  have hparse : ((Config.parseFile forwardSource).any fun b =>
      (Config.parseFile backwardSource).any fun b' => b.reverses Config.Block.reverses b') = true := by
    decide +kernel
  have hread : ((read forwardSource "m.hcl").toOption.any fun l =>
      (read backwardSource "m.hcl").toOption.any fun l' =>
        l.network.nodes.map (·.type) ≠ l'.network.nodes.map (·.type)) = true := by
    decide +kernel
  obtain ⟨b, hb, hparse⟩ := (Option.any_eq_true _ _).mp hparse
  obtain ⟨b', hb', hreverses⟩ := (Option.any_eq_true _ _).mp hparse
  obtain ⟨l, hl, hread⟩ := Outcome.exists_of_any hread
  obtain ⟨l', hl', htypes⟩ := Outcome.exists_of_any hread
  have hreordered : b.bare.Reordered b'.bare :=
    Body.shuffled_of_reverses Config.Block.reordered_of_reverses hreverses
  obtain ⟨body, bp, hbody, hbp, hload⟩ := read_eq_ok.mp hl
  obtain ⟨body', bp', hbody', hbp', hload'⟩ := read_eq_ok.mp hl'
  obtain rfl : b = body := Option.some.inj (hb.symm.trans hbody)
  obtain rfl : b' = body' := Option.some.inj (hb'.symm.trans hbody')
  obtain ⟨bp₀, hbp₀, halike⟩ := decode_of_reordered hreordered hbp
  obtain rfl : bp₀ = bp' := Except.ok.inj (hbp₀.symm.trans hbp')
  refine ⟨l, l', hl, hl', fun hnet => ?_, (load_up_to_node_order halike _).2 l l' hload hload'⟩
  rw [hnet] at htypes
  simp at htypes

end Blueprint
end ShaderGraph
