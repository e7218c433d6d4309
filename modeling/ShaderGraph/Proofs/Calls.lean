import ShaderGraph.Network.Operations
import ShaderGraph.Proofs.Growth

/-!
# Calls

The operations that build a network, as data, with any arguments. A session applies calls one after
the other to the empty network; a call that is misused is over at that point and the session goes
on. One call is at most one addition, so whatever additions preserve holds after every session.
-/
namespace ShaderGraph

inductive Call where
  | node (type : Text) (inputs : List Input) (outputs : List Output)
  | reference (graph : GraphId) (inputs : List Input)
  | graph (name : Text)
  | graphInput (graph : GraphId) (name : Text) (type : TypeTag)
  | graphInputDefault (graph : GraphId) (name : Text) (default : Option Constant)
  | graphOutput (graph : GraphId) (name : Text) (v : Value)
  | output (id : NodeId) (name : Text)
  | arithmetic (op : Build.Arithmetic) (a b : Value)
  | mix (fg bg amount : Value)
  | dot (a b : Value)
  | sin (a : Value)
  | time
  | texcoord
  | image (file uv : Value) (outType : TypeTag)
  | pbrSurface (i : Build.PbrInputs)
  | unlitSurface (color opacity : Value)
  | geometryModifier (i : Build.ModifierInputs)

namespace Call

def build : Call → Build (Option Value)
  | .node type inputs outputs => do
    let _ ← Build.newNode type inputs outputs
    return none
  | .reference g inputs => do
    let _ ← Build.reference g inputs
    return none
  | .graph name => do
    let _ ← Build.newGraph name
    return none
  | .graphInput g name type => some <$> Build.graphInput g name type
  | .graphInputDefault g name default => do
    let c ← Build.inspect fun _ => required default
    some <$> Build.graphInputDefault g name c
  | .graphOutput g name v => do
    Build.graphOutput g name v
    return none
  | .output id name => some <$> Build.output id name
  | .arithmetic op a b => some <$> Build.arithmetic op a b
  | .mix fg bg amount => some <$> Build.mix fg bg amount
  | .dot a b => some <$> Build.dot a b
  | .sin a => some <$> Build.sin a
  | .time => some <$> Build.time
  | .texcoord => some <$> Build.texcoord
  | .image file uv outType => some <$> Build.image file uv outType
  | .pbrSurface i => some <$> Build.pbrSurface i
  | .unlitSurface color opacity => some <$> Build.unlitSurface color opacity
  | .geometryModifier i => some <$> Build.geometryModifier i

def apply (net : Network) (c : Call) : Network := (c.build net).2

end Call

def Network.after (calls : List Call) : Network := calls.foldl Call.apply .empty

namespace Build

variable {α β : Type} {given : List Value}

def Reads (b : Build α) : Prop := ∀ net, (b net).2 = net

def Adds (given : List Value) (b : Build α) : Prop :=
  ∀ net, (b net).2 = net ∨ net.Extends given (b net).2

theorem pure_apply (a : α) (net : Network) : (pure a : Build α) net = (.ok a, net) := rfl

theorem bind_apply (b : Build α) (f : α → Build β) (net : Network) :
    (b >>= f) net = match b net with
      | (.ok a, net') => f a net'
      | (.error e, net') => (.error e, net') := by
  change (ExceptT.bind b f) net = _
  simp only [ExceptT.bind, ExceptT.mk, bind, StateT.bind]
  rcases b net with ⟨_ | _, net'⟩ <;> rfl

theorem map_snd (f : α → β) (b : Build α) (net : Network) : ((f <$> b) net).2 = (b net).2 := by
  have hmap : (f <$> b) net = (b >>= fun a => pure (f a)) net := rfl
  rw [hmap, bind_apply]
  rcases b net with ⟨_ | _, net'⟩ <;> rfl

theorem Reads.inspect (f : Network → Except Misuse α) : Reads (inspect f) := fun _ => rfl

theorem Reads.pure (a : α) : Reads (pure a : Build α) := fun _ => rfl

theorem Reads.adds {b : Build α} (h : Reads b) : Adds given b := fun net => Or.inl (h net)

theorem Adds.extend {f : Network → Except Misuse (α × Network)}
    (h : ∀ net a net', f net = .ok (a, net') → net.Extends given net') : Adds given (extend f) := by
  intro net
  unfold Build.extend
  split
  next a net' hf => exact Or.inr (h net a net' hf)
  next e hf => exact Or.inl rfl

theorem Adds.bind {b : Build α} {f : α → Build β} (h : Adds given b) (hf : ∀ a, Reads (f a)) :
    Adds given (b >>= f) := by
  intro net
  have hb := h net
  rw [bind_apply]
  split
  next a net' he =>
    rw [hf a net']
    rwa [he] at hb
  next e net' he => rwa [he] at hb

theorem Adds.map {b : Build α} (f : α → β) (h : Adds given b) : Adds given (f <$> b) :=
  h.bind fun a => Reads.pure (f a)

theorem Reads.bind {b : Build α} {f : α → Build β} (h : Reads b) (hf : ∀ a, Adds given (f a)) :
    Adds given (b >>= f) := by
  intro net
  have hb := h net
  rw [bind_apply]
  split
  next a net' he =>
    rw [he] at hb
    obtain rfl : net' = net := hb
    exact hf a net'
  next e net' he =>
    rw [he] at hb
    exact Or.inl hb

theorem extend_bind_cases {f : Network → Except Misuse (α × Network)} {k : α → Build β}
    (hk : ∀ a, Reads (k a)) (net : Network) :
    ((extend f >>= k) net).2 = net ∨ ∃ a, f net = .ok (a, ((extend f >>= k) net).2) := by
  rw [bind_apply, Build.extend]
  cases hf : f net with
  | error e => exact Or.inl rfl
  | ok r => exact Or.inr ⟨r.1, congrArg (fun net' => Except.ok (r.1, net')) (hk r.1 r.2).symm⟩

structure Uses (given : List Value) (inputs : List Input) : Prop where
  types : ∀ i ∈ inputs, i.type.isValid = true
  values : ∀ i ∈ inputs, i.value ∈ given
  present : ∀ v ∈ given, v.isAbsent = true ∨ v ∈ inputs.map (·.value)

theorem Uses.all {inputs : List Input} (hg : inputs.map (·.value) = given)
    (ht : ∀ i ∈ inputs, i.type.isValid = true) : Uses given inputs := by
  subst hg
  exact ⟨ht, fun _ hi => List.mem_map_of_mem hi, fun _ hv => Or.inr hv⟩

theorem Uses.connected {inputs : List Input} (hg : inputs.map (·.value) = given)
    (ht : ∀ i ∈ inputs, i.type.isValid = true) : Uses given (connected inputs) := by
  subst hg
  have hsub : ∀ i ∈ Build.connected inputs, i ∈ inputs := fun i hi => (List.mem_filter.mp hi).1
  refine ⟨fun i hi => ht i (hsub i hi), fun i hi => List.mem_map_of_mem (hsub i hi), fun v hv => ?_⟩
  obtain ⟨i, hi, rfl⟩ := List.mem_map.mp hv
  cases ha : i.value.isAbsent with
  | true => exact Or.inl rfl
  | false => exact Or.inr (List.mem_map_of_mem (List.mem_filter.mpr ⟨hi, by simp [ha]⟩))

theorem Uses.append {given' : List Value} {inputs inputs' : List Input} (h : Uses given inputs)
    (h' : Uses given' inputs') : Uses (given ++ given') (inputs ++ inputs') := by
  refine ⟨List.forall_mem_append.mpr ⟨h.types, h'.types⟩, fun i hi => ?_, fun v hv => ?_⟩
  · exact List.mem_append.mpr ((List.mem_append.mp hi).imp (h.values i) (h'.values i))
  · rw [List.map_append, List.mem_append]
    rcases List.mem_append.mp hv with hv | hv
    · exact (h.present v hv).imp_right Or.inl
    · exact (h'.present v hv).imp_right Or.inr

/-- What a standard node comes to: a fault, or one node that uses the given values and whose output
is answered. -/
inductive Standard (given : List Value) : Build Value → Prop
  | fault (type : TypeTag) (message : Text) : Standard given (pure (.ofFault type message))
  | operation (type : Text) (outType : TypeTag) (inputs : List Input) : type ≠ [] →
      outType.isValid = true → Uses given inputs → Standard given (operation type outType inputs)

theorem Standard.adds {b : Build Value} (h : Standard given b) : Adds given b := by
  cases h with
  | fault type message => exact (Reads.pure _).adds
  | operation type outType inputs _ _ hu =>
    exact Adds.bind (.extend fun _ _ _ => Network.addNode_extends hu.values) fun _ => .inspect _

theorem Standard.addNode_cases {b : Build Value} (h : Standard given b) (net : Network) :
    (b net).2 = net ∨
      ∃ type inputs outputs id, net.addNode type inputs outputs 0 = .ok (id, (b net).2) := by
  cases h with
  | fault type message => exact Or.inl rfl
  | operation type outType inputs _ _ _ =>
    rcases extend_bind_cases (fun id => Reads.inspect (·.output id "out")) net with he | ⟨id, he⟩
    · exact Or.inl he
    · exact Or.inr ⟨type, inputs, _, id, he⟩

theorem isValid_of_any {t : TypeTag} {p : DataType → Bool} (h : t.dataType?.any p = true) :
    t.isValid = true := by
  rw [TypeTag.isValid]
  cases hd : t.dataType? with
  | none => simp [hd] at h
  | some d => rfl

theorem isValid_of_isPlainVector {t : TypeTag} (h : isPlainVector t = true) :
    t.isValid = true := by
  unfold isPlainVector at h
  split at h
  · rename_i hd
    simp [TypeTag.isValid, hd]
  · cases h

theorem isValid_of_isSampled {t : TypeTag} (h : isSampled t = true) : t.isValid = true := by
  unfold isSampled at h
  split at h
  · rename_i hd
    simp [TypeTag.isValid, hd]
  · rename_i hd
    simp [TypeTag.isValid, hd]
  · cases h

theorem arithmetic_standard (op : Arithmetic) (a b : Value) :
    Standard [a, b] (arithmetic op a b) := by
  have hname : ∀ s : Text, ("ND_" ++ op.name ++ "_" ++ s : Text) ≠ [] := by
    intro s
    have hstart : Text.ofString "ND_" ≠ [] := by decide
    simp [hstart]
  unfold arithmetic
  split_ifs with habsent hsame hfloat
  · exact .fault _ _
  · simp only [Bool.and_eq_true, decide_eq_true_eq] at hsame
    have ha := isValid_of_any hsame.2
    have hb : b.type.isValid = true := hsame.1 ▸ ha
    refine .operation _ _ _ (hname _) ha (.all rfl ?_)
    exact List.forall_mem_cons.mpr ⟨ha, List.forall_mem_singleton.mpr hb⟩
  · simp only [Bool.and_eq_true, decide_eq_true_eq] at hfloat
    have ha := isValid_of_any hfloat.2
    have hb : b.type.isValid = true := hfloat.1 ▸ TypeTag.isValid_ofDataType _
    refine .operation _ _ _ (List.append_ne_nil_of_left_ne_nil (hname _) _) ha (.all rfl ?_)
    exact List.forall_mem_cons.mpr ⟨ha, List.forall_mem_singleton.mpr hb⟩
  · exact .fault _ _

theorem mix_standard (fg bg amount : Value) :
    Standard [fg, bg, amount] (mix fg bg amount) := by
  unfold mix
  split_ifs with habsent htypes hamount
  · exact .fault _ _
  · exact .fault _ _
  · exact .fault _ _
  · simp only [Bool.or_eq_true, decide_eq_true_eq, Bool.not_eq_true', not_or, not_not,
      Bool.not_eq_false] at htypes hamount
    have hfg := isValid_of_any htypes.2
    have hbg : bg.type.isValid = true := htypes.1 ▸ hfg
    have hm : amount.type.isValid = true := hamount ▸ TypeTag.isValid_ofDataType _
    refine .operation _ _ _ (List.append_ne_nil_of_left_ne_nil (by decide) _) hfg (.all rfl ?_)
    exact List.forall_mem_cons.mpr
      ⟨hfg, List.forall_mem_cons.mpr ⟨hbg, List.forall_mem_singleton.mpr hm⟩⟩

theorem dot_standard (a b : Value) : Standard [a, b] (dot a b) := by
  unfold dot
  split_ifs with htypes
  · simp only [Bool.and_eq_true, decide_eq_true_eq] at htypes
    have ha := isValid_of_isPlainVector htypes.1
    have hb : b.type.isValid = true := htypes.2 ▸ ha
    refine .operation _ _ _ (List.append_ne_nil_of_left_ne_nil (by decide) _)
      (TypeTag.isValid_ofDataType _) (.all rfl ?_)
    exact List.forall_mem_cons.mpr ⟨ha, List.forall_mem_singleton.mpr hb⟩
  · exact .fault _ _

theorem sin_standard (a : Value) : Standard [a] (sin a) := by
  unfold sin
  split_ifs with htype
  · exact .fault _ _
  · have ha : a.type.isValid = true := by
      by_cases hfloat : a.type = DataType.scalarFloat
      · exact hfloat ▸ TypeTag.isValid_ofDataType _
      · exact isValid_of_any (p := DataType.isFloatVector)
          (by simpa [hfloat, TypeTag.isFloatVector] using htype)
    exact .operation _ _ _ (List.append_ne_nil_of_left_ne_nil (by decide) _) ha
      (Uses.all rfl (List.forall_mem_singleton.mpr ha))

theorem time_standard : Standard [] time :=
  .operation _ _ [] (by decide) (TypeTag.isValid_ofDataType _) (.all rfl (by simp))

theorem texcoord_standard : Standard [] texcoord :=
  .operation _ _ [] (by decide) (TypeTag.isValid_ofDataType _) (.all rfl (by simp))

theorem image_standard (file uv : Value) (outType : TypeTag) :
    Standard [file, uv] (image file uv outType) := by
  unfold image
  split_ifs with hsampled hfile
  · exact .fault _ _
  · exact .fault _ _
  · have hf : (slot "file" file).type.isValid = true := by
      rw [slot, not_not.mp hfile]
      exact TypeTag.isValid_ofDataType _
    refine .operation _ _ _ (List.append_ne_nil_of_left_ne_nil (by decide) _)
      (isValid_of_isSampled (by simpa using hsampled)) ?_
    have hfile : Uses [file] [slot "file" file] := .all rfl (List.forall_mem_singleton.mpr hf)
    exact hfile.append
      (.connected rfl (List.forall_mem_singleton.mpr (TypeTag.isValid_ofDataType _)))

theorem pbrSurface_standard (i : PbrInputs) :
    Standard (i.slots.map (·.value)) (pbrSurface i) := by
  refine .operation _ _ _ (by decide) (TypeTag.isValid_ofDataType _) (.connected rfl ?_)
  simp [PbrInputs.slots, TypeTag.isValid_ofDataType]

theorem unlitSurface_standard (color opacity : Value) :
    Standard [color, opacity] (unlitSurface color opacity) := by
  refine .operation _ _ _ (by decide) (TypeTag.isValid_ofDataType _) ?_
  have hcolor : Uses [color] [⟨"color", DataType.color3, color⟩] :=
    .all rfl (List.forall_mem_singleton.mpr (TypeTag.isValid_ofDataType _))
  exact hcolor.append
    (.connected rfl (List.forall_mem_singleton.mpr (TypeTag.isValid_ofDataType _)))

theorem geometryModifier_standard (i : ModifierInputs) :
    Standard (i.slots.map (·.value)) (geometryModifier i) := by
  refine .operation _ _ _ (by decide) (TypeTag.isValid_ofDataType _) (.connected rfl ?_)
  simp [ModifierInputs.slots, TypeTag.isValid_ofDataType]

end Build

def Call.values : Call → List Value
  | .node _ inputs _ | .reference _ inputs => inputs.map (·.value)
  | .graph _ | .graphInput .. | .graphInputDefault .. | .output .. | .time | .texcoord => []
  | .graphOutput _ _ v | .sin v => [v]
  | .arithmetic _ a b | .dot a b | .image a b _ | .unlitSurface a b => [a, b]
  | .mix fg bg amount => [fg, bg, amount]
  | .pbrSurface i => i.slots.map (·.value)
  | .geometryModifier i => i.slots.map (·.value)

theorem Call.build_adds (c : Call) : c.build.Adds c.values := by
  cases c with
  | node type inputs outputs =>
    have hv : ∀ i ∈ inputs, i.value ∈ inputs.map (·.value) := fun _ hi => List.mem_map_of_mem hi
    exact Build.Adds.bind (.extend fun _ _ _ => Network.addNode_extends hv) fun _ => .pure _
  | reference g inputs =>
    have hv : ∀ i ∈ inputs, i.value ∈ inputs.map (·.value) := fun _ hi => List.mem_map_of_mem hi
    exact Build.Adds.bind (.extend fun _ _ _ => Network.addReference_extends hv) fun _ => .pure _
  | graph name =>
    exact Build.Adds.bind (.extend fun _ _ _ => Network.addGraph_extends) fun _ => .pure _
  | graphInput g name type =>
    exact .map some (.extend fun _ _ _ => Network.addGraphInput_extends)
  | graphInputDefault g name default =>
    refine Build.Reads.bind (.inspect _) fun c => ?_
    exact .map some (.extend fun _ _ _ => Network.addGraphInput_extends)
  | graphOutput g name v =>
    exact Build.Adds.bind (.extend fun _ _ _ => Network.addGraphOutput_extends) fun _ => .pure _
  | output id name => exact .map some (Build.Reads.inspect _).adds
  | arithmetic op a b => exact .map some (Build.arithmetic_standard op a b).adds
  | mix fg bg amount => exact .map some (Build.mix_standard fg bg amount).adds
  | dot a b => exact .map some (Build.dot_standard a b).adds
  | sin a => exact .map some (Build.sin_standard a).adds
  | time => exact .map some Build.time_standard.adds
  | texcoord => exact .map some Build.texcoord_standard.adds
  | image file uv outType => exact .map some (Build.image_standard file uv outType).adds
  | pbrSurface i => exact .map some (Build.pbrSurface_standard i).adds
  | unlitSurface color opacity => exact .map some (Build.unlitSurface_standard color opacity).adds
  | geometryModifier i => exact .map some (Build.geometryModifier_standard i).adds

def Call.declares : Call → Option GraphId
  | .graphInput k _ _ | .graphInputDefault k _ _ | .graphOutput k _ _ => some k
  | _ => none

/-- What a call does to a network: nothing, or the addition that it names. -/
inductive Call.Effect (net : Network) : Call → Network → Prop
  | nothing {c : Call} : Effect net c net
  | node {c : Call} {net' : Network} {type : Text} {inputs : List Input} {outputs : List Output}
      {id : NodeId} : net.addNode type inputs outputs 0 = .ok (id, net') → Effect net c net'
  | reference {net' : Network} {g : GraphId} {inputs : List Input} {id : NodeId} :
      net.addReference g inputs = .ok (id, net') → Effect net (.reference g inputs) net'
  | graph {c : Call} {net' : Network} {name : Text} {id : GraphId} :
      net.addGraph name = .ok (id, net') → Effect net c net'
  | input {c : Call} {net' : Network} {k : GraphId} {i : GraphInput} {v : Value} :
      c.declares = some k → net.addGraphInput k i = .ok (v, net') → Effect net c net'
  | output {c : Call} {net' : Network} {k : GraphId} {name : Text} {v : Value} :
      c.declares = some k → net.addGraphOutput k name v = .ok ((), net') → Effect net c net'

theorem Build.Standard.effect {given : List Value} {b : Build Value} (h : b.Standard given)
    {c : Call} (hc : c.build = some <$> b) (net : Network) : c.Effect net (c.apply net) := by
  have hb : c.apply net = (b net).2 := by rw [Call.apply, hc, map_snd]
  rw [hb]
  rcases h.addNode_cases net with he | ⟨type, inputs, outputs, id, he⟩
  · rw [he]
    exact .nothing
  · exact .node he

theorem Call.effect (c : Call) (net : Network) : c.Effect net (c.apply net) := by
  -- A call that fails leaves the network as it is.
  have hidle : ∀ {c : Call}, c.apply net = net → c.Effect net (c.apply net) := by
    intro c he
    rw [he]
    exact .nothing
  cases c with
  | node type inputs outputs =>
    rcases Build.extend_bind_cases (fun _ => .pure none) net with he | ⟨id, he⟩
    · exact hidle he
    · exact .node he
  | reference g inputs =>
    rcases Build.extend_bind_cases (fun _ => .pure none) net with he | ⟨id, he⟩
    · exact hidle he
    · exact .reference he
  | graph name =>
    rcases Build.extend_bind_cases (fun _ => .pure none) net with he | ⟨id, he⟩
    · exact hidle he
    · exact .graph he
  | graphInput g name type =>
    rcases Build.extend_bind_cases (fun v => .pure (some v)) net with he | ⟨v, he⟩
    · exact hidle he
    · exact .input rfl he
  | graphInputDefault g name default =>
    cases default with
    | none => exact hidle rfl
    | some d =>
      rcases Build.extend_bind_cases (fun v => .pure (some v)) net with he | ⟨v, he⟩
      · exact hidle he
      · exact .input rfl he
  | graphOutput g name v =>
    rcases Build.extend_bind_cases (fun _ => .pure none) net with he | ⟨u, he⟩
    · exact hidle he
    · exact .output rfl he
  | output id name => exact hidle (Build.map_snd some _ net)
  | arithmetic op a b => exact (Build.arithmetic_standard op a b).effect rfl net
  | mix fg bg amount => exact (Build.mix_standard fg bg amount).effect rfl net
  | dot a b => exact (Build.dot_standard a b).effect rfl net
  | sin a => exact (Build.sin_standard a).effect rfl net
  | time => exact Build.time_standard.effect rfl net
  | texcoord => exact Build.texcoord_standard.effect rfl net
  | image file uv outType => exact (Build.image_standard file uv outType).effect rfl net
  | pbrSurface i => exact (Build.pbrSurface_standard i).effect rfl net
  | unlitSurface color opacity => exact (Build.unlitSurface_standard color opacity).effect rfl net
  | geometryModifier i => exact (Build.geometryModifier_standard i).effect rfl net

theorem Call.grows (c : Call) (net : Network) : net.Grows (c.apply net) := by
  rcases c.build_adds net with he | he
  · rw [Call.apply, he]
    exact .refl net
  · exact he.grows

theorem Network.grows_run (calls : List Call) (net : Network) :
    net.Grows (calls.foldl Call.apply net) := by
  induction calls generalizing net with
  | nil => exact .refl net
  | cons c calls ih => exact (c.grows net).trans (ih (c.apply net))

/-- What holds of the empty network and is kept by every addition holds after every session. -/
theorem Network.after_induction {P : Network → Prop} (start : P .empty)
    (step : ∀ given net net', Extends given net net' → P net → P net') (calls : List Call) :
    P (after calls) := by
  -- A session may go on from any network with the property, not only from the empty one.
  have hrun : ∀ net, P net → P (calls.foldl Call.apply net) := by
    induction calls with
    | nil => exact fun net h => h
    | cons c calls ih =>
      intro net h
      refine ih (c.apply net) ?_
      rcases c.build_adds net with he | he
      · rw [Call.apply, he]
        exact h
      · exact step _ net _ he h
  exact hrun .empty start

end ShaderGraph
