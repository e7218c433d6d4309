import ShaderGraph.Proofs.Construction
import ShaderGraph.Proofs.ScopeSafety

/-!
# Reference cycles

`Follows` says that a step of loading, if it has a result, is a history of events on a given stack:
nodes may be begun and ended on the way, but in the end the stack is as before, and nothing that had
an outcome got another one. Reading the inputs of the node on top of the stack follows this pattern,
building a node adds its beginning and its end, and building all nodes of a scope is a history from
an empty stack to an empty stack.

So reference cycles are found, and nothing else is taken for one: building ends, constructs each node
once, and reports each node that depends on itself at most once. If nothing is reported, then no
node depends on itself, and each was built after all nodes that it refers to.
-/
namespace ShaderGraph.Blueprint

open Config (Expr Span Step)
open Load

structure Loading.Kept (st st' : Loading) : Prop where
  outcome : ∀ {name o}, st.settled.lookup name = some o → st'.settled.lookup name = some o
  reports : st.diagnostics.length ≤ st'.diagnostics.length

namespace Loading.Kept

variable {st st' st'' : Loading}

theorem refl (st : Loading) : st.Kept st := ⟨fun h => h, le_rfl⟩

theorem trans (h : st.Kept st') (h' : st'.Kept st'') : st.Kept st'' :=
  ⟨fun ho => h'.outcome (h.outcome ho), h.reports.trans h'.reports⟩

theorem handle (h : st.Kept st') {name : Text} {id : NodeId} (hid : st.handle name = some id) :
    st'.handle name = some id :=
  Loading.handle_eq_some.mpr (h.outcome (Loading.handle_eq_some.mp hid))

end Loading.Kept

theorem Node.Excused.kept {n : Node} {start st st' : Loading} (h : n.Excused start st)
    (hkept : st.Kept st') : n.Excused start st' := by
  rcases h with hmore | ⟨name, hneeds, hfailed⟩
  · exact Or.inl (hmore.trans_le hkept.reports)
  · exact Or.inr ⟨name, hneeds, hkept.outcome hfailed⟩

namespace Scope

variable {α β : Type} {s : Scope} {stack : List (Node × Loading)} {st : Loading}

/-- If the step has a result, it is a history that ends on the same stack, and the property holds of
the result and the state then. -/
def Follows (s : Scope) (stack : List (Node × Loading)) (x : Load α) (st : Loading)
    (Q : α → Loading → Prop) : Prop :=
  match x st with
  | (.ok a, st') => (∃ events, s.History ⟨stack, st⟩ events ⟨stack, st'⟩) ∧ st.Kept st' ∧ Q a st'
  | (.error _, _) => True

namespace Follows

variable {P Q : α → Loading → Prop}

theorem pure {a : α} (h : Q a st) : s.Follows stack (pure a) st Q := ⟨⟨[], .nil⟩, .refl st, h⟩

theorem bind {x : Load α} {f : α → Load β} {R : β → Loading → Prop} (hx : s.Follows stack x st Q)
    (hf : ∀ a st', st.Kept st' → Q a st' → s.Follows stack (f a) st' R) :
    s.Follows stack (x >>= f) st R := by
  unfold Follows at hx ⊢
  rw [bind_apply]
  rcases hxs : x st with ⟨_ | a, st'⟩ <;> rw [hxs] at hx
  · trivial
  · obtain ⟨⟨events, hrun⟩, hkept, ha⟩ := hx
    have hfa := hf a st' hkept ha
    unfold Follows at hfa
    dsimp only
    rcases hfs : f a st' with ⟨_ | b, st''⟩ <;> rw [hfs] at hfa
    · trivial
    · obtain ⟨⟨more, hrun'⟩, hkept', hb⟩ := hfa
      exact ⟨⟨events ++ more, hrun.trans hrun'⟩, hkept.trans hkept', hb⟩

theorem imp {x : Load α} (hx : s.Follows stack x st P)
    (h : ∀ a st', st.Kept st' → P a st' → Q a st') : s.Follows stack x st Q := by
  unfold Follows at hx ⊢
  split at hx
  · exact ⟨hx.1, hx.2.1, h _ _ hx.2.1 hx.2.2⟩
  · trivial

theorem get_bind {f : Loading → Load α} (h : s.Follows stack (f st) st Q) :
    s.Follows stack (get >>= f) st Q := h

theorem reportAll {ds : List Diagnostic} (hds : cycles ds = []) {Q : Unit → Loading → Prop}
    (h : ∀ st', st.Kept st' → (ds ≠ [] → st.diagnostics.length < st'.diagnostics.length) →
      Q () st') : s.Follows stack (reportAll ds) st Q := by
  have hkept : st.Kept { st with diagnostics := st.diagnostics ++ ds } := ⟨fun ho => ho, by simp⟩
  refine ⟨⟨_, .single (.told hds)⟩, hkept, h _ hkept fun hne => ?_⟩
  simpa using List.length_pos_iff.mpr hne

theorem report {fault : Fault} {subject : Span} (hfault : fault.cycle? = none)
    {Q : Unit → Loading → Prop}
    (h : ∀ st', st.Kept st' → st.diagnostics.length < st'.diagnostics.length → Q () st') :
    s.Follows stack (report fault subject) st Q := by
  have hds : cycles [⟨fault, some subject⟩] = [] := by simp [cycles, hfault]
  exact reportAll hds fun st' hkept hmore => h st' hkept (hmore (by simp))

theorem refuse {fault : Fault} {subject : Span} (hfault : fault.cycle? = none)
    {Q : Option α → Loading → Prop}
    (h : ∀ st', st.Kept st' → st.diagnostics.length < st'.diagnostics.length → Q none st') :
    s.Follows stack (refuse fault subject) st Q :=
  .bind (report hfault (Q := fun _ st' => Q none st') h) fun _ _ _ hq => .pure hq

theorem inspect {f : Network → Except Misuse α} (h : ∀ a, Q a st) :
    s.Follows stack (perform (.inspect f)) st Q := by
  change match (f st.network, st) with
    | (.ok a, st') => (∃ events, s.History ⟨stack, st⟩ events ⟨stack, st'⟩) ∧ st.Kept st' ∧ Q a st'
    | (.error _, _) => True
  cases f st.network with
  | error => trivial
  | ok a => exact ⟨⟨[], .nil⟩, .refl st, h a⟩

theorem forM {f : α → Load Unit} {xs : List α} {I : Loading → Prop}
    (hf : ∀ a ∈ xs, ∀ st, I st → s.Follows stack (f a) st fun _ => I) (h : I st) :
    s.Follows stack (xs.forM f) st fun _ => I := by
  induction xs generalizing st with
  | nil => exact .pure h
  | cons x xs ih =>
    refine .bind (hf x List.mem_cons_self st h) fun _ st' _ h' => ?_
    exact ih (fun a ha => hf a (List.mem_cons_of_mem _ ha)) h'

end Follows

/-! ## Values -/

def Builds (s : Scope) (stack : List (Node × Loading)) (build : Text → Load (Option NodeId)) :
    Prop :=
  ∀ name st, s.Declares name → (∀ f ∈ stack.head?, f.1.Needs name) →
    s.Follows stack (build name) st fun o st' => st'.settled.lookup name = some o

def Supplied (e? : Option Expr) (st : Loading) : Prop :=
  ∀ e name output?, e? = some e → Refers e (.node name output?) → ∃ id, st.handle name = some id

theorem Supplied.kept {e? : Option Expr} {st st' : Loading} (h : Supplied e? st)
    (hkept : st.Kept st') : Supplied e? st' := by
  intro e name output? he href
  obtain ⟨id, hid⟩ := h e name output? he href
  exact ⟨id, hkept.handle hid⟩

theorem supplied_of_refers {e : Expr} {t : Target} (h : Refers e t)
    (ht : ∀ name output?, t = .node name output? → ∃ id, st.handle name = some id) :
    Supplied (some e) st := by
  intro e' name output? he href
  obtain rfl := Option.some.inj he
  exact ht name output? (h.unique href)

theorem target_error {root : Text} {steps : List Step} {fault : Fault}
    (h : target root steps = .error fault) : fault.cycle? = none := by
  unfold target at h
  dsimp only at h
  split at h
  · split at h
    · cases h
    · split at h
      · cases h
      · split at h
        · cases h
        · obtain rfl := Except.error.inj h
          rfl
  · split at h
    · cases h
    · obtain rfl := Except.error.inj h
      rfl
  · obtain rfl := Except.error.inj h
    rfl

theorem follows_output {id : NodeId} {output : Text} :
    s.Follows stack (do return some (← perform (.output id output))) st fun o st' =>
      o = none → st.diagnostics.length < st'.diagnostics.length :=
  .bind (Q := fun _ _ => True) (.inspect fun _ => trivial) fun _ _ _ _ => .pure nofun

theorem follows_nodeOutput {name : Text} {id : NodeId} {output? : Option Text} {subject : Span} :
    s.Follows stack (nodeOutput name id output? subject) st fun o st' =>
      o = none → st.diagnostics.length < st'.diagnostics.length := by
  refine .bind (Q := fun _ st' => st' = st) (.inspect fun _ => rfl) ?_
  rintro names _ _ rfl
  split
  · exact follows_output
  · exact .refuse rfl fun _ _ hmore _ => hmore
  · split
    · exact follows_output
    · exact .refuse rfl fun _ _ hmore _ => hmore

section

variable {n : Node} {start : Loading} {build : Text → Load (Option NodeId)}

/-- What is known of an input of the node: it has a value and all that it refers to is built, or the
node has a reason to fail. -/
def Answers (n : Node) (start : Loading) (e? : Option Expr) (o : Option Value) (st : Loading) :
    Prop :=
  (o = none → n.Excused start st) ∧ (o ≠ none → Supplied e? st)

theorem excused_of_reports (hst : start.Kept st) {st' : Loading}
    (h : st.diagnostics.length < st'.diagnostics.length) : n.Excused start st' :=
  Or.inl (hst.reports.trans_lt h)

theorem answers_of_reports (hst : start.Kept st) {e? : Option Expr} {st' : Loading}
    (h : st.diagnostics.length < st'.diagnostics.length) : Answers n start e? none st' :=
  ⟨fun _ => excused_of_reports hst h, fun hne => absurd rfl hne⟩

theorem follows_resolve (hb : s.Builds ((n, start) :: stack) build) (hst : start.Kept st)
    {i : Input} (hi : i ∈ n.inputs) {e : Expr} (he : i.value = some e) {root : Text}
    {steps : List Step} (href : e.reference? = some (root, steps)) :
    s.Follows ((n, start) :: stack) (s.resolve build root steps e.span) st
      (Answers n start (some e)) := by
  have hsupplied : ∀ {t v st'}, target root steps = .ok t → (∀ name output?, t ≠ .node name output?) →
      Answers n start (some e) (some v) st' := by
    intro t v st' ht hnode
    refine ⟨nofun, fun _ => supplied_of_refers ⟨root, steps, href, ht⟩ fun name output? h => ?_⟩
    exact absurd h (hnode name output?)
  unfold resolve
  split
  · rename_i fault hfault
    exact .refuse (target_error hfault) fun _ _ => answers_of_reports hst
  · rename_i name htarget
    split
    · exact .refuse rfl fun _ _ => answers_of_reports hst
    · split
      · exact .refuse rfl fun _ _ => answers_of_reports hst
      · exact .pure (hsupplied htarget nofun)
  · rename_i name htarget
    split
    · exact .refuse rfl fun _ _ => answers_of_reports hst
    · split
      · exact .refuse rfl fun _ _ => answers_of_reports hst
      · exact .pure (hsupplied htarget nofun)
  · rename_i name output? htarget
    have hrefers : Refers e (.node name output?) := ⟨root, steps, href, htarget⟩
    have hneeds : n.Needs name := ⟨i, hi, e, output?, he, hrefers⟩
    split
    · exact .refuse rfl fun _ _ => answers_of_reports hst
    · rename_i hdeclared
      refine .bind (hb name st (declares_iff.mp (by simpa using hdeclared)) ?_) ?_
      · rintro f hf
        obtain rfl := Option.some.inj hf
        exact hneeds
      · intro o st' hkept hlookup
        split
        · exact .pure ⟨fun _ => Or.inr ⟨name, hneeds, hlookup⟩, fun hne => absurd rfl hne⟩
        · rename_i id
          refine follows_nodeOutput.imp fun v st'' hkept' hv => ⟨fun hnone => ?_, fun _ => ?_⟩
          · exact excused_of_reports (hst.trans hkept) (hv hnone)
          · refine supplied_of_refers hrefers fun other output' h => ?_
            obtain ⟨rfl, _⟩ := Target.node.inj h
            exact ⟨id, Loading.handle_eq_some.mpr (hkept'.outcome hlookup)⟩

theorem cycles_ofProblem (ps : List Config.Problem) : cycles (ps.map .ofProblem) = [] := by
  rw [cycles, List.filterMap_map]
  exact List.filterMap_eq_nil_iff.mpr fun _ _ => rfl

theorem checkColorSpace_error {type : DataType} {space : Text} {fault : Fault}
    (h : checkColorSpace type space = .error fault) : fault.cycle? = none := by
  unfold checkColorSpace at h
  split at h
  · cases h
  · split at h
    · obtain rfl := Except.error.inj h
      rfl
    · split at h
      · obtain rfl := Except.error.inj h
        rfl
      · cases h

theorem literal_cycles {type : DataType} {e? : Option Expr} {space : Text} {subject : Span}
    {ds : List Diagnostic} (h : literal type e? space subject = .error ds) : cycles ds = [] := by
  unfold literal at h
  split at h
  · rename_i fault hfault
    obtain rfl := Except.error.inj h
    simp [cycles, checkColorSpace_error hfault]
  · split at h
    · cases h
    · dsimp only at h
      split at h
      · obtain rfl := Except.error.inj h
        exact cycles_ofProblem _
      · split at h
        · cases h
        · obtain rfl := Except.error.inj h
          rfl

theorem follows_value (hb : s.Builds ((n, start) :: stack) build) (hst : start.Kept st)
    {i : Input} (hi : i ∈ n.inputs) {type? : Option DataType} {space : Text} :
    s.Follows ((n, start) :: stack) (s.value build i.value type? space) st
      (Answers n start i.value) := by
  unfold value
  split
  · rename_i hvalue
    refine .pure ⟨nofun, fun _ e _ _ he => ?_⟩
    rw [hvalue] at he
    cases he
  · rename_i e he
    rw [he]
    split
    · rename_i href
      exact follows_resolve hb hst hi he href
    · rename_i href
      have hliteral : ∀ st', Supplied (some e) st' := by
        rintro st' e' name output? he' hrefers
        obtain rfl := Option.some.inj he'
        exact absurd href hrefers.reference
      split
      · exact .refuse rfl fun _ _ => answers_of_reports hst
      · rename_i type
        cases hl : literal type (some e) space e.span with
        | ok c => exact .pure ⟨nofun, fun _ => hliteral _⟩
        | error ds =>
          refine .bind (Q := fun o st' => o = none ∧ st.diagnostics.length < st'.diagnostics.length)
            (.bind (.reportAll (literal_cycles hl) fun st' _ hmore => hmore (literal_error hl))
              fun _ _ _ hmore => .pure ⟨rfl, hmore⟩) ?_
          rintro _ st' _ ⟨rfl, hmore⟩
          exact .pure (answers_of_reports hst hmore)

/-! ## Nodes -/

/-- What is known after the given inputs of the node: all that they refer to is built, or the node has a
reason to fail. A failure before is not forgotten. -/
structure Gathered (n : Node) (start : Loading) (is : List Input) (before after : Bool)
    (st : Loading) : Prop where
  excused : after = false → n.Excused start st
  supplied : after = true → ∀ i ∈ is, Supplied i.value st
  failed : before = false → after = false

def Gathers (s : Scope) (stack : List (Node × Loading)) (n : Node) (start : Loading)
    (is : List Input) (loop : List ShaderGraph.Input → Bool → Load (List ShaderGraph.Input × Bool)) :
    Prop :=
  ∀ done ok st, start.Kept st → (ok = false → n.Excused start st) →
    s.Follows ((n, start) :: stack) (loop done ok) st fun r => Gathered n start is ok r.2

variable {is : List Input}
  {loop : List ShaderGraph.Input → Bool → Load (List ShaderGraph.Input × Bool)}

theorem Gathers.skip (h : s.Gathers stack n start is loop) (hst : start.Kept st) {fault : Fault}
    (hfault : fault.cycle? = none) (subject : Span) (i : Input) (done : List ShaderGraph.Input)
    (ok : Bool) : s.Follows ((n, start) :: stack) (do
        report fault subject
        loop done false) st fun r => Gathered n start (i :: is) ok r.2 := by
  refine .bind (.report (Q := fun _ st' => n.Excused start st') hfault
    fun _ _ => excused_of_reports hst) fun _ st' hkept hexcused => ?_
  refine (h done false st' (hst.trans hkept) fun _ => hexcused).imp ?_
  intro r st'' hkept' hr
  have hfalse : r.2 = false := hr.failed rfl
  exact ⟨fun _ => hexcused.kept hkept', fun htrue => absurd (hfalse.symm.trans htrue) nofun,
    fun _ => hfalse⟩

theorem Gathers.take (h : s.Gathers stack n start is loop)
    (hb : s.Builds ((n, start) :: stack) build) (hst : start.Kept st) {i : Input}
    (hi : i ∈ n.inputs) (type? : Option DataType) (done : Option Value → List ShaderGraph.Input)
    {ok : Bool} (hok : ok = false → n.Excused start st) : s.Follows ((n, start) :: stack) (do
        let v ← s.value build i.value type? i.colorSpace
        loop (done v) (ok && v.isSome)) st fun r => Gathered n start (i :: is) ok r.2 := by
  refine .bind (follows_value hb hst hi) fun o st' hkept ho => ?_
  have hok' : (ok && o.isSome) = false → n.Excused start st' := by
    intro hfalse
    rcases Bool.and_eq_false_iff.mp hfalse with hfalse | hnone
    · exact (hok hfalse).kept hkept
    · exact ho.1 (by simpa using hnone)
  refine (h _ _ st' (hst.trans hkept) hok').imp fun r st'' hkept' hr => ?_
  refine ⟨hr.excused, fun htrue => ?_, fun hfalse => hr.failed (by simp [hfalse])⟩
  refine List.forall_mem_cons.mpr ⟨(ho.2 fun hnone => ?_).kept hkept', hr.supplied htrue⟩
  exact absurd ((hr.failed (by simp [hnone])).symm.trans htrue) nofun

theorem gathers_inputs (hb : s.Builds ((n, start) :: stack) build) (node : Text)
    (his : ∀ i ∈ is, i ∈ n.inputs) :
    s.Gathers stack n start is fun done ok => s.inputs build node done ok is := by
  induction is with
  | nil => exact fun done ok st _ hok => .pure ⟨hok, by simp, id⟩
  | cons i is ih =>
    have hrest := ih fun j hj => his j (List.mem_cons_of_mem _ hj)
    intro done ok st hst hok
    dsimp only
    unfold inputs
    split
    · exact hrest.skip hst rfl _ i done ok
    · split
      · exact hrest.skip hst rfl _ i done ok
      · rename_i type _
        exact hrest.take hb hst (his i List.mem_cons_self) _
          (fun v => done ++ [⟨i.name, type, v.getD .absent⟩]) hok

theorem gathers_graphInputs (hb : s.Builds ((n, start) :: stack) build) (g : NodeGraph) (node : Text)
    (his : ∀ i ∈ is, i ∈ n.inputs) :
    s.Gathers stack n start is fun done ok => s.graphInputs build g node done ok is := by
  induction is with
  | nil => exact fun done ok st _ hok => .pure ⟨hok, by simp, id⟩
  | cons i is ih =>
    have hrest := ih fun j hj => his j (List.mem_cons_of_mem _ hj)
    intro done ok st hst hok
    dsimp only
    unfold graphInputs
    split
    · exact hrest.skip hst rfl _ i done ok
    · rename_i declared _
      split
      · exact hrest.skip hst rfl _ i done ok
      · split
        · exact hrest.skip hst rfl _ i done ok
        · exact hrest.take hb hst (his i List.mem_cons_self) _
            (fun v => done ++ [⟨i.name, declared.type, v.getD .absent⟩]) hok

theorem follows_outputs {node : Text} {subject : Span} {done : List ShaderGraph.Output} {ok : Bool}
    {os : List Output} (hst : start.Kept st) (hok : ok = false → n.Excused start st) :
    s.Follows ((n, start) :: stack) (outputs node subject done ok os) st fun r st' =>
      (r.2 = false → n.Excused start st') ∧ (ok = false → r.2 = false) := by
  induction os generalizing st done ok with
  | nil => exact .pure ⟨hok, id⟩
  | cons o os ih =>
    have hskip : ∀ {fault : Fault}, fault.cycle? = none → s.Follows ((n, start) :: stack) (do
        report fault subject
        outputs node subject done false os) st fun r st' =>
          (r.2 = false → n.Excused start st') ∧ (ok = false → r.2 = false) := by
      intro fault hfault
      refine .bind (.report (Q := fun _ st' => n.Excused start st') hfault
        fun _ _ => excused_of_reports hst) fun _ st' hkept hexcused => ?_
      exact (ih (hst.trans hkept) fun _ => hexcused).imp fun r st'' _ hr => ⟨hr.1, fun _ => hr.2 rfl⟩
    unfold outputs
    split
    · exact hskip rfl
    · split
      · exact hskip rfl
      · exact ih hst hok

def Ended (n : Node) (start mid : Loading) (o : Option NodeId) (st : Loading) : Prop :=
  match o with
  | some id => ∃ net, st = { mid with network := net } ∧ id = mid.network.nodes.length + 1 ∧
      net.nodes.length = id ∧ ∀ name, n.Needs name → ∃ id', mid.handle name = some id'
  | none => st = mid ∧ n.Excused start mid

def Closes (s : Scope) (stack : List (Node × Loading)) (n : Node) (start : Loading)
    (x : Load (Option NodeId)) (st : Loading) : Prop :=
  match x st with
  | (.ok o, st') => ∃ events mid, s.History ⟨(n, start) :: stack, st⟩ events
      ⟨(n, start) :: stack, mid⟩ ∧ st.Kept mid ∧ Ended n start mid o st'
  | (.error _, _) => True

theorem Follows.closes {x : Load α} {f : α → Load (Option NodeId)} {Q : α → Loading → Prop}
    (hx : s.Follows ((n, start) :: stack) x st Q)
    (hf : ∀ a st', st.Kept st' → Q a st' → s.Closes stack n start (f a) st') :
    s.Closes stack n start (x >>= f) st := by
  unfold Follows at hx
  unfold Closes
  rw [bind_apply]
  rcases hxs : x st with ⟨_ | a, st'⟩ <;> rw [hxs] at hx
  · trivial
  · obtain ⟨⟨events, hrun⟩, hkept, ha⟩ := hx
    have hfa := hf a st' hkept ha
    unfold Closes at hfa
    dsimp only
    rcases hfs : f a st' with ⟨_ | o, st''⟩ <;> rw [hfs] at hfa
    · trivial
    · obtain ⟨more, mid, hrun', hkept', hend⟩ := hfa
      exact ⟨events ++ more, mid, hrun.trans hrun', hkept.trans hkept', hend⟩

theorem Closes.get_bind {f : Loading → Load (Option NodeId)} (h : s.Closes stack n start (f st) st) :
    s.Closes stack n start (get >>= f) st := h

theorem closes_none (h : n.Excused start st) : s.Closes stack n start (pure none) st :=
  ⟨[], st, .nil, .refl st, rfl, h⟩

theorem closes_refuse (hst : start.Kept st) {fault : Fault} (hfault : fault.cycle? = none)
    (subject : Span) : s.Closes stack n start (refuse fault subject) st :=
  Follows.closes (.report (Q := fun _ st' => n.Excused start st') hfault
    fun _ _ => excused_of_reports hst) fun _ _ _ h => closes_none h

theorem closes_added {f : Network → Except Misuse (NodeId × Network)}
    (hf : ∀ r, f st.network = .ok r → r.1 = st.network.nodes.length + 1 ∧ r.2.nodes.length = r.1)
    (h : ∀ i ∈ n.inputs, Supplied i.value st) :
    s.Closes stack n start (do return some (← perform (.extend f))) st := by
  have happly : perform (.extend f) st =
      (((Build.extend f) st.network).1, { st with network := ((Build.extend f) st.network).2 }) := rfl
  unfold Closes
  rw [bind_apply, happly, Build.extend]
  cases hr : f st.network with
  | error => trivial
  | ok r =>
    obtain ⟨hid, hnet⟩ := hf r hr
    refine ⟨[], st, .nil, .refl st, r.2, rfl, hid, hnet, ?_⟩
    rintro name ⟨i, hi, e, output?, he, hrefers⟩
    exact h i hi e name output? he hrefers

theorem addNode_handle {net : Network} {type : Text} {ins : List ShaderGraph.Input}
    {outs : List ShaderGraph.Output} {graph : GraphId} {r : NodeId × Network}
    (h : net.addNode type ins outs graph = .ok r) :
    r.1 = net.nodes.length + 1 ∧ r.2.nodes.length = r.1 := by
  obtain ⟨_, _, _, _, rfl⟩ := Network.addNode_eq_ok.mp h
  exact ⟨rfl, by simp⟩

theorem closes_shader (hb : s.Builds ((n, start) :: stack) build) (hst : start.Kept st) :
    s.Closes stack n start (s.shader build n) st := by
  refine Follows.closes (gathers_inputs hb n.name (fun _ h => h) [] true st hst nofun) ?_
  rintro ⟨ins, ok⟩ st' hkept hins
  refine Follows.closes (follows_outputs (hst.trans hkept) hins.excused) ?_
  rintro ⟨outs, ok'⟩ st'' hkept' ⟨hexcused, hfalse⟩
  dsimp only
  split
  · rename_i htrue
    refine closes_added (fun r hr => addNode_handle hr) fun i hi => ?_
    have hok : ok = true := by
      by_contra hok
      exact absurd ((hfalse (by simpa using hok)).symm.trans htrue) nofun
    exact (hins.supplied hok i hi).kept hkept'
  · rename_i hnot
    exact closes_none (hexcused (by simpa using hnot))

theorem closes_instantiate (hb : s.Builds ((n, start) :: stack) build) (hst : start.Kept st) :
    s.Closes stack n start (s.instantiate build n) st := by
  unfold instantiate
  refine .get_bind ?_
  split
  · exact closes_refuse hst rfl _
  · rename_i g _
    split
    · exact closes_refuse hst rfl _
    · split
      · exact closes_refuse hst rfl _
      · refine Follows.closes (gathers_graphInputs hb g n.name (fun _ h => h) [] true st hst nofun) ?_
        rintro ⟨ins, ok⟩ st' hkept hins
        dsimp only
        split
        · rename_i htrue
          refine closes_added (fun r hr => ?_) (hins.supplied htrue)
          obtain ⟨_, _, _, hadd⟩ := Network.addReference_eq_ok.mp hr
          exact addNode_handle hadd
        · rename_i hnot
          exact closes_none (hins.excused (by simpa using hnot))

theorem closes_construct (hb : s.Builds ((n, start) :: stack) build) :
    s.Closes stack n start (s.construct build n) start := by
  have hunsupported : ∀ (extra : Extra) (st : Loading), start.Kept st →
      s.Follows ((n, start) :: stack) (reportUnsupported extra) st fun _ => start.Kept :=
    fun extra st hst => .reportAll (cycles_ofProblem _) fun _ hkept _ => hst.trans hkept
  refine Follows.closes (hunsupported n.extra start (.refl start)) fun _ st₁ _ hst₁ => ?_
  refine Follows.closes (.forM (fun i _ => hunsupported i.extra) hst₁) fun _ st hkept hst => ?_
  split
  · split
    · exact closes_refuse hst rfl _
    · exact closes_instantiate hb hst
  · split
    · exact closes_refuse hst rfl _
    · split
      · exact closes_refuse hst rfl _
      · exact closes_shader hb hst

end

/-! ## Building -/

def Rests (s : Scope) (stack : List (Node × Loading)) (idle : List Node) : Prop :=
  ∀ n, n ∈ idle ↔ n ∈ s.nodes ∧ n.name ∉ stack.map (·.1.name)

theorem Rests.without {idle : List Node} (h : s.Rests stack idle) (n : Node) (start : Loading) :
    s.Rests ((n, start) :: stack) (without idle n.name) := by
  intro m
  rw [Scope.without, List.mem_filter, h m, List.map_cons, List.mem_cons]
  simp only [decide_eq_true_eq]
  tauto

theorem kept_settled {mid st' : Loading} {name : Text} {o : Option NodeId}
    (hfresh : st.settled.lookup name = none) (hkept : st.Kept mid)
    (hsettled : st'.settled = (name, o) :: mid.settled)
    (hreports : mid.diagnostics.length ≤ st'.diagnostics.length) : st.Kept st' := by
  refine ⟨fun {other o'} ho => ?_, hkept.reports.trans hreports⟩
  have hne : other ≠ name := by
    rintro rfl
    rw [hfresh] at ho
    cases ho
  rw [hsettled, lookup_settled, if_neg hne, hkept.outcome ho]

theorem follows_construct {idle : List Node} {n : Node} (hn : n ∈ s.nodes)
    (hidle : n.name ∉ stack.map (·.1.name)) (hfresh : st.settled.lookup n.name = none)
    (hasked : ∀ f ∈ stack.head?, f.1.Needs n.name) (hb : s.Builds ((n, st) :: stack) (s.build idle)) :
    s.Follows stack (do
      let outcome ← s.construct (s.build idle) n
      settle n.name outcome
      return outcome) st fun o st' => st'.settled.lookup n.name = some o := by
  have hcloses := closes_construct hb
  unfold Closes at hcloses
  unfold Follows
  rw [bind_apply]
  rcases hrun : s.construct (s.build idle) n st with ⟨_ | o, st'⟩ <;> rw [hrun] at hcloses
  · trivial
  obtain ⟨events, mid, hhistory, hkept, hend⟩ := hcloses
  -- The node may have got an outcome in between, but it had none before it was begun, so nothing
  -- that was settled then has changed.
  have hopened := (History.single (.opened hn hidle hfresh hasked)).trans hhistory
  cases o with
  | none =>
    obtain ⟨rfl, hexcused⟩ := hend
    exact ⟨⟨_, hopened.snoc (.failed hrun hexcused)⟩, kept_settled hfresh hkept rfl le_rfl,
      List.lookup_cons_self⟩
  | some id =>
    obtain ⟨net, rfl, hid, hnet, hneeds⟩ := hend
    exact ⟨⟨_, hopened.snoc (.built hrun hid hnet hneeds)⟩, kept_settled hfresh hkept rfl le_rfl,
      List.lookup_cons_self⟩

theorem builds_build (s : Scope) {idle : List Node} (hidle : s.Rests stack idle) :
    s.Builds stack (s.build idle) := by
  -- Every node on the stack is one idle node less.
  induction hk : idle.length using Nat.strongRecOn generalizing stack idle with
  | ind k ih =>
    subst hk
    intro name st hdeclared hasked
    rw [build]
    refine .get_bind ?_
    split
    · rename_i o hlookup
      exact .pure hlookup
    · rename_i hfresh
      split
      · rename_i n hfind
        obtain rfl : n.name = name := by simpa using List.find?_some hfind
        obtain ⟨hn, hnot⟩ := (hidle n).mp (List.mem_of_find?_eq_some hfind)
        exact follows_construct hn hnot hfresh hasked
          (ih _ (length_without_lt hfind) (hidle.without n st) rfl)
      · rename_i hfind
        split
        · rename_i n hfind'
          obtain rfl : n.name = name := by simpa using List.find?_some hfind'
          have hn := List.mem_of_find?_eq_some hfind'
          -- It is neither settled nor idle, so it is being built.
          have hon : n.name ∈ stack.map (·.1.name) := by
            by_contra hnot
            exact absurd (List.find?_eq_none.mp hfind n ((hidle n).mpr ⟨hn, hnot⟩)) (by simp)
          exact ⟨⟨_, .single (.looped hn hon hfresh hasked)⟩,
            kept_settled hfresh (.refl st) rfl (by simp), List.lookup_cons_self⟩
        · rename_i hfind'
          obtain ⟨n, hn, hname⟩ := hdeclared
          exact absurd (List.find?_eq_none.mp hfind' n hn) (by simp [hname])

theorem follows_visits {nodes : List Node} (hnodes : ∀ n ∈ nodes, n ∈ s.nodes) :
    s.Follows [] (nodes.forM fun n => do let _ ← s.build s.nodes n.name) st fun _ st' =>
      ∀ n ∈ nodes, st'.settled.lookup n.name ≠ none := by
  induction nodes generalizing st with
  | nil => exact .pure (by simp)
  | cons n nodes ih =>
    have hn : s.Declares n.name := ⟨n, hnodes n List.mem_cons_self, rfl⟩
    have hrests : s.Rests [] s.nodes := fun m => by simp
    refine .bind (.bind (builds_build s hrests n.name st hn (by simp)) fun o st' _ ho =>
      .pure (Q := fun _ st' => ∃ o, st'.settled.lookup n.name = some o) ⟨o, ho⟩) ?_
    rintro _ st' _ ⟨o, ho⟩
    refine (ih fun m hm => hnodes m (List.mem_cons_of_mem _ hm)).imp fun _ st'' hkept hall => ?_
    exact List.forall_mem_cons.mpr ⟨by rw [hkept.outcome ho]; simp, hall⟩

/-- The first node of each name is kept, in order. -/
structure Selects (nodes kept : List Node) : Prop where
  nodup : (kept.map (·.name)).Nodup
  sublist : kept.Sublist nodes
  first : ∀ name, kept.find? (·.name = name) = nodes.find? (·.name = name)

theorem Selects.skip {done nodes kept : List Node} {n : Node}
    (hn : done.any (·.name = n.name) = true) (h : Selects (done ++ nodes) kept) :
    Selects (done ++ n :: nodes) kept := by
  refine ⟨h.nodup, h.sublist.trans ((List.sublist_cons_self n nodes).append_left done),
    fun name => ?_⟩
  rw [h.first, List.find?_append, List.find?_append]
  cases hfind : done.find? (·.name = name) with
  | some _ => rfl
  | none =>
    have hne : n.name ≠ name := by
      rintro rfl
      obtain ⟨m, hm, hname⟩ := List.any_eq_true.mp hn
      exact List.find?_eq_none.mp hfind m hm hname
    rw [List.find?_cons_of_neg (by simpa using hne)]

theorem distinct_eq (place : Place) (done nodes : List Node) (st : Loading)
    (hdone : (done.map (·.name)).Nodup) : ∃ kept taken, distinct place done nodes st =
      (.ok kept, { st with diagnostics := st.diagnostics ++ taken }) ∧ cycles taken = [] ∧
        Selects (done ++ nodes) kept := by
  induction nodes generalizing done st with
  | nil => exact ⟨done, [], by rw [List.append_nil]; rfl, rfl, hdone, by simp, by simp⟩
  | cons n nodes ih =>
    by_cases hn : done.any (·.name = n.name) = true
    · obtain ⟨kept, taken, hrun, htaken, hselects⟩ := ih done { st with diagnostics :=
        st.diagnostics ++ [⟨.nodeTaken n.name place, some n.extra.span⟩] } hdone
      refine ⟨kept, ⟨.nodeTaken n.name place, some n.extra.span⟩ :: taken, ?_, htaken,
        hselects.skip hn⟩
      rw [distinct, if_pos hn]
      refine Eq.trans hrun ?_
      simp
    · have hnew : ((done ++ [n]).map (·.name)).Nodup := by
        rw [List.map_append]
        refine nodup_snoc hdone fun hmem => hn ?_
        obtain ⟨m, hm, hname⟩ := List.mem_map.mp hmem
        exact List.any_eq_true.mpr ⟨m, hm, by simpa using hname⟩
      obtain ⟨kept, taken, hrun, htaken, hselects⟩ := ih (done ++ [n]) st hnew
      refine ⟨kept, taken, ?_, htaken, by simpa using hselects⟩
      rw [distinct, if_neg hn, hrun]

/-- Entering a scope finds reference cycles. It ends with the first node of each name constructed
once. What it reports to depend on itself does, and is reported once; and if it reports nothing, then
nothing depends on itself. -/
theorem enter_finds_cycles (graph : Option NodeGraph) (parameters : List (Text × Constant))
    (nodes : List Node) (st : Loading) (hsound : st.network.Sound)
    (hgraph : ∀ own ∈ graph, ∃ g, st.network.graph? own.id = some g ∧ g.inputs = own.inputs) :
    ∃ kept st' taken events reports,
      enter graph parameters nodes st = (.ok ⟨graph, parameters, kept⟩, st') ∧
      Selects nodes kept ∧ cycles taken = [] ∧ Scope.Built ⟨graph, parameters, kept⟩
        ⟨st.network, st.diagnostics ++ taken, []⟩ events reports st' := by
  obtain ⟨kept, taken, hdistinct, htaken, hselects⟩ :=
    distinct_eq (Scope.mk graph parameters []).place [] nodes st .nil
  have hends : Ends (fun _ => False) (enter graph parameters nodes) st _ := ends_enter hsound hgraph
  have hvisits : Follows _ _ _ ⟨st.network, st.diagnostics ++ taken, []⟩ _ :=
    follows_visits (s := ⟨graph, parameters, kept⟩) fun n (hn : n ∈ kept) => hn
  -- After the names are sorted out, entering is nothing but visiting the nodes one by one.
  have henter : enter graph parameters nodes st = ((kept.forM fun n => do
      let _ ← (Scope.mk graph parameters kept).build kept n.name) >>= fun _ =>
        (pure (Scope.mk graph parameters kept) : Load Scope))
          ⟨st.network, st.diagnostics ++ taken, []⟩ := by
    rw [enter, bind_apply, hdistinct]
    rfl
  rw [bind_apply] at henter
  unfold Ends at hends
  unfold Follows at hvisits
  split at henter
  · rename_i st' hrun
    rw [hrun] at hvisits
    obtain ⟨⟨events, hhistory⟩, _, hall⟩ := hvisits
    obtain ⟨reports, hbuilt⟩ := built_of_history hselects.nodup rfl hhistory hall
    exact ⟨kept, st', taken, events, reports, henter, hselects, htaken, hbuilt⟩
  · rw [henter] at hends
    exact hends.elim

def link (name target : Text) : Node :=
  let span := Span.empty ⟨1, 1⟩
  ⟨name, "Mix", [], [⟨"in", "float", some (.variable "node" span [(.attribute target, span)] span), [],
    ⟨span, []⟩⟩], [⟨"out", "float"⟩], ⟨span, []⟩⟩

def tangledNodes : List Node :=
  [link "x" "b", link "a" "b", link "b" "a", link "c" "c", link "c" "x", link "y" "c"]

theorem tangled_finds_cycles : ∃ kept st' taken events reports,
    enter none [] tangledNodes ⟨.empty, [], []⟩ = (.ok ⟨none, [], kept⟩, st') ∧
    Selects tangledNodes kept ∧ Scope.Built ⟨none, [], kept⟩ ⟨.empty, taken, []⟩ events reports st' ∧
    (cycles reports).map Prod.fst = ["b", "c"].map Text.ofString := by
  obtain ⟨kept, st', taken, events, reports, henter, hselects, htaken, hbuilt⟩ :=
    enter_finds_cycles none [] tangledNodes ⟨.empty, [], []⟩ .empty (by simp)
  refine ⟨kept, st', taken, events, reports, henter, hselects, hbuilt, ?_⟩
  have hcycles : (cycles (enter none [] tangledNodes ⟨.empty, [], []⟩).2.diagnostics).map Prod.fst =
      ["b", "c"].map Text.ofString := by
    decide +kernel
  rw [henter, hbuilt.reported, cycles_append, List.nil_append, htaken, List.nil_append] at hcycles
  exact hcycles

end Scope
end ShaderGraph.Blueprint
