import ShaderGraph.Proofs.Inscriptions
import ShaderGraph.Proofs.Publication

/-!
# Only names can break the encoding

An export refuses a document that is not in UTF-8. Whether it is depends on the names that stand in the
document as they are and on nothing else: constants, types of nodes, color spaces and the up axis may
hold any bytes. No other failure is reported as one of the encoding.
-/
namespace ShaderGraph.Export

/-! ## Failures of workers -/

namespace Pool

variable {p : Pool} {limit : Nat}

def Blamed (p : Pool) : Prop := ∀ f, p.failure = some f → f.isWorker = true

theorem Blamed.fail (h : p.Blamed) {f : Failure} (hf : f.isWorker = true) (i : Nat) :
    (p.fail i f).Blamed := by
  intro g hg
  change p.failure.or (some f) = some g at hg
  cases hp : p.failure with
  | none =>
    rw [hp] at hg
    exact Option.some.inj hg ▸ hf
  | some first =>
    rw [hp] at hg
    exact h g (hp.trans hg)

theorem Blamed.work (h : p.Blamed) (i : Nat) : (p.work limit i).Blamed := by
  unfold Pool.work
  split
  · exact h
  · rename_i job phase _
    cases phase with
    | queued =>
      dsimp only
      split
      · exact h
      · exact h
    | started =>
      dsimp only
      split
      · exact h.fail rfl i
      · exact h.fail rfl i
      · exact h
    | loaded image =>
      dsimp only
      split
      · exact h.fail rfl i
      · exact h
    | created image =>
      dsimp only
      split
      · exact h.fail rfl i
      · split
        · exact h.fail rfl i
        · exact h
    | done => exact h
    | failed => exact h

theorem Blamed.breakOff (h : p.Blamed) (i : Nat) (reason left : Text) :
    (p.breakOff i reason left).Blamed := by
  unfold Pool.breakOff
  split
  · exact h
  · rename_i job phase _
    cases phase with
    | started => exact h.fail rfl i
    | loaded image => exact h.fail rfl i
    | created image =>
      dsimp only
      split
      · exact h.fail rfl i
      · exact h.fail rfl i
    | queued => exact h
    | done => exact h
    | failed => exact h

theorem Blamed.step (h : p.Blamed) (e : Event) : (p.step limit e).Blamed := by
  cases e with
  | step i => exact h.work i
  | fault i reason left => exact h.breakOff i reason left
  | cancel => exact h

theorem Blamed.run (h : p.Blamed) (events : List Event) : (p.run limit events).Blamed := by
  induction events generalizing p with
  | nil => exact h
  | cons e events ih => exact ih (h.step e)

end Pool

theorem writeTextures_ne_encoding (tree : FileTree) (cancelled : Bool) (directory : Text)
    (concurrency : Int) (textures : List (Text × TextureSource)) (schedule : List Event) :
    (writeTextures tree cancelled directory concurrency textures schedule).failure ≠
      some .encoding := by
  unfold writeTextures
  dsimp only
  split
  · simp
  · split
    · simp
    · split
      · simp
      · split
        · simp
        · rename_i made _
          have hstart : (Pool.start made cancelled (jobs directory textures)).Blamed := by
            intro f hf
            cases hf
          intro hencoding
          have hworker := hstart.run _ _ hencoding
          cases hworker

/-! ## The document -/

theorem run_encoding_iff (options : Options) {net : Network} {mat : Stage.Material}
    {c : Stage.Compiled} (hcompile : Stage.compile options.settings net mat = .ok c)
    (out : Stage.Sink) (tree : FileTree) (schedule : List Event) :
    (run options net mat (some out) tree schedule).failure = some .encoding ↔
      ¬ c.text.isUtf8 = true := by
  by_cases hutf : c.text.isUtf8 = true
  · refine iff_of_false ?_ (not_not.mpr hutf)
    cases hfailure : (writeTextures tree options.cancelled options.directory options.concurrency
        c.textures schedule).failure with
    | some f =>
      simp only [run, hcompile, hutf, hfailure, Bool.not_true, Bool.false_eq_true, if_false]
      intro hf
      exact writeTextures_ne_encoding _ _ _ _ _ _ (hfailure.trans hf)
    | none =>
      rw [(run_of_none options hcompile hutf hfailure out).2.2.1]
      split
      · simp
      · simp
  · refine iff_of_true ?_ hutf
    simp only [run, hcompile, hutf, Bool.not_false, if_true]

theorem text_isUtf8_iff {settings : Stage.Settings} {net : Network} {mat : Stage.Material}
    {c : Stage.Compiled} (hcompile : Stage.compile settings net mat = .ok c) :
    c.text.isUtf8 = true ↔
      ∀ name, Stage.Inscribed settings.root net mat name → name.isUtf8 = true := by
  rw [← Stage.lines_iff_of_compile Text.seamed_isUtf8 hcompile, Stage.Compiled.text,
    Stage.joinLines, Stage.feed_eq]
  exact Text.join_iff (P := fun t => t.isUtf8 = true) rfl (Text.isUtf8_cut (by decide)) c.lines

/-- An export of a material that compiles fails for the encoding exactly if a name that stands in the
document as it is, is not in UTF-8. -/
theorem encoding_fails_iff (options : Options) {net : Network} {mat : Stage.Material}
    {c : Stage.Compiled} (hcompile : Stage.compile options.settings net mat = .ok c)
    (out : Stage.Sink) (tree : FileTree) (schedule : List Event) :
    (run options net mat (some out) tree schedule).failure = some .encoding ↔
      ∃ name, Stage.Inscribed options.settings.root net mat name ∧ name.isUtf8 = false := by
  rw [run_encoding_iff options hcompile, text_isUtf8_iff hcompile]
  simp only [not_forall, Bool.not_eq_true, exists_prop]

def stained (parameter : Text) : Network :=
  .after [.node [0xff]
    [⟨"label", DataType.string, .ofConstant (.string [0xfe])⟩,
     ⟨"tint", DataType.color3, .ofConstant (.color .rgb (.replicate 3 .zero) [0xc0])⟩,
     ⟨"gain", DataType.bool, .ofParameter parameter (.bool true)⟩] [⟨"out", DataType.token⟩]]

def stainedOptions : Options := ⟨⟨"Root", Constant.one, [0x80], .strict⟩, "tex", 1, false⟩

def stainedMaterial : Stage.Material := ⟨"Stained", ⟨DataType.token, .node 1 "out"⟩, .absent, []⟩

theorem stained_encoding :
    (run stainedOptions (stained "gain") stainedMaterial (some ⟨none, []⟩) .empty []).failure ≠
      some .encoding ∧
    (run stainedOptions (stained [0xff]) stainedMaterial (some ⟨none, []⟩) .empty []).failure =
      some .encoding := by
  obtain ⟨c, hclean, hnames⟩ := Outcome.exists_of_any
    (x := Stage.compile stainedOptions.settings (stained "gain") stainedMaterial)
    (q := fun c => c.document.names.all Text.isUtf8) (by decide +kernel)
  obtain ⟨_, hdamaged, _⟩ := Outcome.exists_of_any
    (x := Stage.compile stainedOptions.settings (stained [0xff]) stainedMaterial)
    (q := fun _ => true) (by decide +kernel)
  refine ⟨fun hf => ?_, ?_⟩
  · obtain ⟨name, hname, hbad⟩ :=
      (encoding_fails_iff stainedOptions hclean ⟨none, []⟩ .empty []).mp hf
    have hgood := List.all_eq_true.mp hnames name ((Stage.mem_document_names hclean).mpr (Or.inl hname))
    rw [hbad] at hgood
    cases hgood
  · have hreads : (stained [0xff]).ReadsParameter
        [stainedMaterial.surface, stainedMaterial.geometryModifier] (1, 2)
        ⟨[0xff], some (.bool true)⟩ := ⟨.root (by decide), _, _, rfl, rfl, rfl⟩
    exact (encoding_fails_iff stainedOptions hdamaged ⟨none, []⟩ .empty []).mpr
      ⟨[0xff], .parameter hreads, by decide⟩

end ShaderGraph.Export
