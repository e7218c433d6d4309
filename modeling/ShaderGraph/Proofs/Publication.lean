import ShaderGraph.Export.Run
import ShaderGraph.Proofs.Uses
import ShaderGraph.Proofs.WorkerFiles

/-!
# Publication after success

An export hands its document to the sink only when the material has compiled, the document is UTF-8 and
every texture has been loaded and written. This holds whatever the workers do in whatever order, and the
files that a successful export names do not depend on that order.
-/
namespace ShaderGraph

/-! ## The order of names -/

theorem Text.le_iff {s t : Text} : Text.le s t = true ↔ s ≤ t := by
  induction s generalizing t with
  | nil => simp [Text.le]
  | cons a s ih =>
    cases t with
    | nil => simp [Text.le]
    | cons b t =>
      rw [Text.le, List.cons_le_cons_iff]
      by_cases hab : a = b
      · simp [hab, ih]
      · simp [hab]

theorem Text.le_antisymm {s t : Text} (hst : Text.le s t = true) (hts : Text.le t s = true) : s = t :=
  List.le_antisymm (Text.le_iff.mp hst) (Text.le_iff.mp hts)

namespace Export

theorem pairwise_sort {α : Type} (l : List (Text × α)) :
    (l.mergeSort fun a b => Text.le a.1 b.1).Pairwise fun a b => Text.le a.1 b.1 = true := by
  refine List.pairwise_mergeSort (fun a b c => ?_) (fun a b => ?_) l
  · simp only [Text.le_iff]
    exact List.le_trans
  · simp only [Bool.or_eq_true, Text.le_iff]
    exact List.le_total a.1 b.1

/-- Sorting forgets the order when the name says which file it is. -/
theorem sort_of_perm {α : Type} {files : List (Text × Text)} {l : List (Text × α)}
    {place : Text → Text} (h : files.Perm (l.map fun t => (t.1, place t.1))) :
    (files.mergeSort fun a b => Text.le a.1 b.1) =
      (l.map fun t => (t.1, place t.1)).mergeSort fun a b => Text.le a.1 b.1 := by
  have hplace : ∀ x ∈ l.map fun t => (t.1, place t.1), x.2 = place x.1 := by
    intro x hx
    obtain ⟨t, _, rfl⟩ := List.mem_map.mp hx
    rfl
  refine List.Perm.eq_of_pairwise (fun a b ha hb hab hba => ?_) (pairwise_sort _) (pairwise_sort _)
    ((List.mergeSort_perm _ _).trans (h.trans (List.mergeSort_perm _ _).symm))
  have hname := Text.le_antisymm hab hba
  rw [Prod.ext_iff, hplace a (h.mem_iff.mp (List.mem_mergeSort.mp ha)),
    hplace b (List.mem_mergeSort.mp hb), hname]
  exact ⟨rfl, rfl⟩

/-! ## Textures -/

/-- A texture was loaded to an image by its worker, at some time during the events, and its file holds
that image at the end. -/
def Fulfils (options : Options) (tree final : FileTree) (textures : List (Text × TextureSource))
    (schedule : List Event) (name : Text) (source : TextureSource) : Prop :=
  ∃ made image, tree.makeDirectories options.directory = .ok made ∧
    Pool.Loads (workerLimit options.concurrency textures.length)
      (pool made options.cancelled options.directory textures)
      ((pool made options.cancelled options.directory textures).events schedule)
      ⟨name, source, texturePath options.directory name⟩ image ∧
    Depicts final (.file (texturePath options.directory name)) image

variable {options : Options} {tree : FileTree} {textures : List (Text × TextureSource)}
  {schedule : List Event}

theorem fulfils_of_none (hnodup : (textures.map Prod.fst).Nodup)
    (h : (writeTextures tree options.cancelled options.directory options.concurrency textures
      schedule).failure = none) {name : Text} {source : TextureSource}
    (hmem : (name, source) ∈ textures) :
    Fulfils options tree (writeTextures tree options.cancelled options.directory
      options.concurrency textures schedule).tree textures schedule name source := by
  have hne := List.ne_nil_of_mem hmem
  obtain ⟨made, hmade, hparallel, htree, hnone⟩ := (writeTextures_of_none hnodup h).2 hne
  have hlimit := workerLimit_pos options.concurrency (List.length_pos_iff.mpr hne)
  have hkeeps := Pool.keeps_run made options.cancelled hparallel
    (workerLimit options.concurrency textures.length)
    ((pool made options.cancelled options.directory textures).events schedule)
  have hdone := (Pool.finish_of_none hlimit hnone).1
    ⟨name, source, texturePath options.directory name⟩ (mem_jobs.mpr ⟨hmem, rfl⟩)
  obtain ⟨image, hloads, hcontains⟩ := hkeeps.holds _ hdone
  exact ⟨made, image, hmade, hloads, htree ▸ hcontains.depicts hkeeps.ways⟩

/-! ## The document -/

theorem received_of_write {s : Stage.Sink} {t : Text} (h : (s.write t).2.1 = true) :
    (s.write t).2.2 = { s with received := s.received ++ t } := by
  unfold Stage.Sink.write at h ⊢
  cases hlimit : s.limit with
  | none => rfl
  | some limit =>
    simp only [hlimit] at h ⊢
    by_cases hroom : t.length ≤ limit - s.received.length
    · rw [if_pos hroom]
    · rw [if_neg hroom] at h
      cases h

theorem run_of_none (options : Options) {net : Network} {mat : Stage.Material} {c : Stage.Compiled}
    (hcompile : Stage.compile options.settings net mat = .ok c) (hutf : c.text.isUtf8 = true)
    (hnone : (writeTextures tree options.cancelled options.directory options.concurrency c.textures
      schedule).failure = none) (out : Stage.Sink) :
    (run options net mat (some out) tree schedule).tree = (writeTextures tree options.cancelled
      options.directory options.concurrency c.textures schedule).tree ∧
    (run options net mat (some out) tree schedule).sink = some (out.write c.text).2.2 ∧
    (run options net mat (some out) tree schedule).failure =
      (if (out.write c.text).2.1 then none else some .document) ∧
    (run options net mat (some out) tree schedule).files =
      if (out.write c.text).2.1 then some ((writeTextures tree options.cancelled options.directory
        options.concurrency c.textures schedule).files.mergeSort fun a b => Text.le a.1 b.1)
      else none := by
  unfold run
  simp only [hcompile, hutf, hnone, Bool.not_true, Bool.false_eq_true, if_false]
  obtain ⟨n, complete, after⟩ := out.write c.text
  cases complete with
  | false => exact ⟨rfl, rfl, rfl, rfl⟩
  | true => exact ⟨rfl, rfl, rfl, rfl⟩

theorem files_of_run {net : Network} {mat : Stage.Material} {c : Stage.Compiled} {out : Stage.Sink}
    (hcompile : Stage.compile options.settings net mat = .ok c) (hutf : c.text.isUtf8 = true)
    (hnone : (writeTextures tree options.cancelled options.directory options.concurrency c.textures
      schedule).failure = none)
    (h : (run options net mat (some out) tree schedule).failure = none) :
    (out.write c.text).2.1 = true ∧ (run options net mat (some out) tree schedule).files =
      some ((c.textures.map fun t => (t.1, texturePath options.directory t.1)).mergeSort
        fun a b => Text.le a.1 b.1) := by
  obtain ⟨_, _, hnodup, _⟩ := Stage.textures_of_compile hcompile
  obtain ⟨_, _, hfailure, hfiles⟩ := run_of_none options hcompile hutf hnone out
  rw [hfailure] at h
  split at h
  · rename_i hwrite
    rw [if_pos hwrite, sort_of_perm (writeTextures_of_none hnodup hnone).1] at hfiles
    exact ⟨hwrite, hfiles⟩
  · cases h

theorem run_cases (options : Options) (net : Network) (mat : Stage.Material)
    (sink : Option Stage.Sink) (tree : FileTree) (schedule : List Event) :
    ((run options net mat sink tree schedule).sink = sink ∧
      (run options net mat sink tree schedule).files = none ∧
      ∃ f, (run options net mat sink tree schedule).failure = some f) ∨
    ∃ out c, sink = some out ∧ Stage.compile options.settings net mat = .ok c ∧
      c.text.isUtf8 = true ∧ (writeTextures tree options.cancelled options.directory
        options.concurrency c.textures schedule).failure = none := by
  cases sink with
  | none => exact Or.inl ⟨rfl, rfl, _, rfl⟩
  | some out =>
    cases hcompile : Stage.compile options.settings net mat with
    | error e =>
      simp only [run, hcompile]
      exact Or.inl ⟨trivial, trivial, _, rfl⟩
    | ok c =>
      by_cases hutf : c.text.isUtf8 = true
      · cases hfailure : (writeTextures tree options.cancelled options.directory
            options.concurrency c.textures schedule).failure with
        | some f =>
          simp only [run, hcompile, hutf, hfailure, Bool.not_true, Bool.false_eq_true, if_false]
          exact Or.inl ⟨trivial, trivial, _, rfl⟩
        | none => exact Or.inr ⟨out, c, rfl, rfl, hutf, hfailure⟩
      · simp only [run, hcompile, hutf, Bool.not_false, if_true]
        exact Or.inl ⟨trivial, trivial, _, rfl⟩

/-- The sink receives nothing unless the material compiles to a document in UTF-8 and every texture is
loaded and written. A successful export has handed over the document as it was compiled and names the
file of every texture. A failed one names none, and only a failure of the sink itself comes after the
textures. -/
theorem publishes_after_success (options : Options) (net : Network) (mat : Stage.Material)
    (sink : Option Stage.Sink) (tree : FileTree) (schedule : List Event) :
    ((run options net mat sink tree schedule).sink ≠ sink →
      ∃ c, Stage.compile options.settings net mat = .ok c ∧ c.text.isUtf8 = true ∧
        ∀ name source, (name, source) ∈ c.textures →
          Fulfils options tree (run options net mat sink tree schedule).tree c.textures schedule
            name source) ∧
    ((run options net mat sink tree schedule).failure = none →
      ∃ out c, sink = some out ∧ Stage.compile options.settings net mat = .ok c ∧
        c.text.isUtf8 = true ∧
        (∀ name source, (name, source) ∈ c.textures →
          Fulfils options tree (run options net mat sink tree schedule).tree c.textures schedule
            name source) ∧
        (run options net mat sink tree schedule).sink =
          some { out with received := out.received ++ c.text } ∧
        (run options net mat sink tree schedule).files = some ((c.textures.map fun t =>
          (t.1, Path.join options.directory (t.1 ++ ".png"))).mergeSort
            fun a b => Text.le a.1 b.1)) ∧
    ∀ f, (run options net mat sink tree schedule).failure = some f →
      (run options net mat sink tree schedule).files = none ∧
        ((run options net mat sink tree schedule).sink = sink ∨ f = .document) := by
  rcases run_cases options net mat sink tree schedule with
    ⟨hsink, hfiles, f, hf⟩ | ⟨out, c, rfl, hcompile, hutf, hnone⟩
  · refine ⟨fun hne => absurd hsink hne, fun h => ?_, fun g hg => ⟨hfiles, Or.inl hsink⟩⟩
    rw [hf] at h
    cases h
  · obtain ⟨htree, hsink, hfailure, hfiles⟩ := run_of_none options hcompile hutf hnone out
    obtain ⟨_, _, hnodup, _⟩ := Stage.textures_of_compile hcompile
    have hfulfils : ∀ name source, (name, source) ∈ c.textures →
        Fulfils options tree (run options net mat (some out) tree schedule).tree c.textures schedule
          name source :=
      fun name source hmem => htree ▸ fulfils_of_none hnodup hnone hmem
    refine ⟨fun _ => ⟨c, hcompile, hutf, hfulfils⟩, fun h => ?_, fun g hg => ?_⟩
    · obtain ⟨hwrite, hfiles⟩ := files_of_run hcompile hutf hnone h
      exact ⟨out, c, rfl, hcompile, hutf, hfulfils, by rw [hsink, received_of_write hwrite], hfiles⟩
    · rw [hfailure] at hg
      split at hg
      · cases hg
      · rename_i hwrite
        exact ⟨hfiles.trans (if_neg hwrite), Or.inr (Option.some.inj hg).symm⟩

def pixel (shade : UInt8) : Image := ⟨1, 1, [shade, shade, shade, 0xff]⟩

def paneTextures : List (Text × TextureSource) :=
  [("a", .memory "left" (some (pixel 1))), ("b", .file "tex/a.png")]

def panes : Network :=
  .after [.node "Panes" (paneTextures.map fun t =>
    ⟨t.1, DataType.asset, .ofParameter t.1 (.asset (some t.2))⟩) [⟨"out", DataType.token⟩]]

def panesMaterial : Stage.Material := ⟨"Panes", ⟨DataType.token, .node 1 "out"⟩, .absent, []⟩

def panesTree : FileTree := FileTree.empty.addFile "tex/a.png" (.picture (pixel 2))

theorem panes_compile : ∃ c, Stage.compile .standard panes panesMaterial = .ok c ∧
    c.text.isUtf8 = true ∧ c.textures = paneTextures := by
  have hall : ((Stage.compile .standard panes panesMaterial).toOption.map fun c =>
      (c.text.isUtf8, c.textures)) = some (true, paneTextures) := by
    decide +kernel
  cases hc : Stage.compile .standard panes panesMaterial with
  | error e =>
    rw [hc] at hall
    cases hall
  | ok c =>
    rw [hc] at hall
    have hboth := Option.some.inj hall
    exact ⟨c, rfl, congrArg Prod.fst hboth, congrArg Prod.snd hboth⟩

theorem jobs_of_sorted (directory : Text) {textures : List (Text × TextureSource)}
    (h : textures.Pairwise fun a b => Text.le a.1 b.1 = true) :
    jobs directory textures = textures.map fun t => ⟨t.1, t.2, texturePath directory t.1⟩ := by
  rw [jobs, List.mergeSort_of_pairwise h]
  rfl

def overtaking : List Event := [.step 0, .step 1, .step 1, .step 0, .step 1, .step 1]

theorem panes_published : ∃ c, Stage.compile .standard panes panesMaterial = .ok c ∧
    (run ⟨.standard, "tex", 2, false⟩ panes panesMaterial (some ⟨none, []⟩) panesTree
      overtaking).sink = some ⟨none, c.text⟩ ∧
    (run ⟨.standard, "tex", 2, false⟩ panes panesMaterial (some ⟨none, []⟩) panesTree
      overtaking).files =
        some ([("a", "tex/a.png"), ("b", "tex/b.png")] : List (Text × Text)) := by
  obtain ⟨c, hcompile, hutf, htextures⟩ := panes_compile
  have hnone : (writeTextures panesTree false "tex" 2 paneTextures overtaking).failure = none := by
    unfold writeTextures
    rw [jobs_of_sorted "tex" (by decide)]
    decide +kernel
  rw [← htextures] at hnone
  have hok := (run_of_none ⟨.standard, "tex", 2, false⟩ hcompile hutf hnone ⟨none, []⟩).2.2.1
  obtain ⟨out, c', hout, hcompile', _, _, hsink, hfiles⟩ :=
    (publishes_after_success ⟨.standard, "tex", 2, false⟩ panes panesMaterial (some ⟨none, []⟩)
      panesTree overtaking).2.1 hok
  obtain rfl := Option.some.inj hout
  obtain rfl := Except.ok.inj (hcompile.symm.trans hcompile')
  refine ⟨c, hcompile, hsink, hfiles.trans (congrArg some ?_)⟩
  rw [htextures, List.mergeSort_of_pairwise (by decide)]
  decide

end Export
end ShaderGraph
