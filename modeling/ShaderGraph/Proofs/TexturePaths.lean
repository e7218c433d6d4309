import ShaderGraph.Proofs.CleanPaths
import ShaderGraph.Proofs.Publication

/-!
# Textures stay in their directory

The file of a texture is directly below the texture directory, under the name of its parameter, and no
two textures share a file. This is so for every directory, however it is spelled, and whatever the
workers do in whatever order. A name that cannot be the name of a file ends the export before anything
is made.
-/
namespace ShaderGraph.Export

def Unfit (name : Text) : Prop :=
  name = [] ∨ name = "." ∨ name = ".." ∨ 0x2f ∈ name ∨ 0x5c ∈ name ∨ name.isUtf8 = false

instance (name : Text) : Decidable (Unfit name) :=
  inferInstanceAs (Decidable (_ ∨ _ ∨ _ ∨ _ ∨ _ ∨ _))

theorem isFileName_eq_true {name : Text} : isFileName name = true ↔ ¬ Unfit name := by
  simp only [isFileName, Unfit, not_or, Bool.and_eq_true, Bool.not_eq_true', bne_iff_ne,
    List.isEmpty_eq_false_iff, List.contains_eq_mem, decide_eq_false_iff_not, and_assoc, ne_eq,
    Bool.not_eq_false]

variable {cancelled : Bool} {directory : Text} {textures : List (Text × TextureSource)}

theorem child_texturePath (hdir : directory ≠ []) {name : Text} (hname : ¬ Unfit name) :
    Path.Child directory (name ++ ".png") (texturePath directory name) :=
  Path.child_join hdir (isElement_of_isFileName (isFileName_eq_true.mpr hname))

theorem texturePath_inj (hdir : directory ≠ []) {name other : Text} (hname : ¬ Unfit name)
    (hother : ¬ Unfit other) (h : texturePath directory name = texturePath directory other) :
    name = other := by
  have helements := (child_texturePath hdir hname).elements
  rw [h, (child_texturePath hdir hother).elements] at helements
  exact (List.append_cancel_right (List.cons.inj (List.append_cancel_left helements)).1).symm

/-! ## Names that are refused -/

theorem find_unfit (directory : Text) (textures : List (Text × TextureSource)) :
    ((jobs directory textures).find? fun j => !isFileName j.name) = none ∧
      (∀ t ∈ textures, ¬ Unfit t.1) ∨
    ∃ j, ((jobs directory textures).find? fun j => !isFileName j.name) = some j ∧
      j.name ∈ textures.map Prod.fst ∧ Unfit j.name := by
  cases hfind : (jobs directory textures).find? fun j => !isFileName j.name with
  | none =>
    refine Or.inl ⟨rfl, fun t ht => ?_⟩
    have hjob : (⟨t.1, t.2, texturePath directory t.1⟩ : Job) ∈ jobs directory textures :=
      mem_jobs.mpr ⟨ht, rfl⟩
    have hname := List.find?_eq_none.mp hfind _ hjob
    exact isFileName_eq_true.mp (by simpa using hname)
  | some j =>
    have hmem := (mem_jobs.mp (List.mem_of_find?_eq_some hfind)).1
    have hbad := List.find?_some hfind
    refine Or.inr ⟨j, rfl, List.mem_map.mpr ⟨_, hmem, rfl⟩, ?_⟩
    by_contra hfit
    rw [isFileName_eq_true.mpr hfit] at hbad
    cases hbad

theorem writeTextures_of_unfit (tree : FileTree) (cancelled : Bool) (directory : Text)
    (concurrency : Int) (schedule : List Event) (h : ∃ t ∈ textures, Unfit t.1) :
    let w := writeTextures tree cancelled directory concurrency textures schedule
    w.files = [] ∧ w.tree = tree ∧ (directory = [] ∧ w.failure = some (.noDirectory textures.length) ∨
      directory ≠ [] ∧
        ∃ name ∈ textures.map Prod.fst, Unfit name ∧ w.failure = some (.fileName name)) := by
  obtain ⟨t, ht, hunfit⟩ := h
  have hne : textures.isEmpty = false := by simpa using List.ne_nil_of_mem ht
  obtain ⟨j, hfind, hmem, hbad⟩ := (find_unfit directory textures).resolve_left
    fun hnone => hnone.2 t ht hunfit
  unfold writeTextures
  simp only [hne, hfind, Bool.false_eq_true, if_false]
  by_cases hdir : directory = []
  · rw [if_pos (by simpa using hdir)]
    exact ⟨rfl, rfl, Or.inl ⟨hdir, rfl⟩⟩
  · rw [if_neg (by simpa using hdir)]
    exact ⟨rfl, rfl, Or.inr ⟨hdir, j.name, hmem, hbad, rfl⟩⟩

theorem run_of_unfit (options : Options) {net : Network} {mat : Stage.Material} {c : Stage.Compiled}
    (hcompile : Stage.compile options.settings net mat = .ok c)
    (h : ∃ t ∈ c.textures, Unfit t.1) (sink : Option Stage.Sink) (tree : FileTree)
    (schedule : List Event) :
    (∃ f, (run options net mat sink tree schedule).failure = some f) ∧
      (run options net mat sink tree schedule).sink = sink ∧
      (run options net mat sink tree schedule).tree = tree := by
  cases sink with
  | none => exact ⟨⟨_, rfl⟩, rfl, rfl⟩
  | some out =>
    by_cases hutf : c.text.isUtf8 = true
    · obtain ⟨_, htree, hfailure⟩ := writeTextures_of_unfit tree options.cancelled options.directory
        options.concurrency schedule h
      have hsome : ∃ f, (writeTextures tree options.cancelled options.directory options.concurrency
          c.textures schedule).failure = some f := by
        rcases hfailure with ⟨_, hf⟩ | ⟨_, name, _, _, hf⟩
        · exact ⟨_, hf⟩
        · exact ⟨_, hf⟩
      obtain ⟨f, hf⟩ := hsome
      simp only [run, hcompile, hutf, hf, htree, Bool.not_true, Bool.false_eq_true, if_false]
      exact ⟨⟨f, rfl⟩, trivial, trivial⟩
    · simp only [run, hcompile, hutf, Bool.not_false, if_true]
      exact ⟨⟨_, rfl⟩, trivial, trivial⟩

/-! ## Names that are accepted -/

/-- What the workers leave: the files that they name are files of textures, and every other file is
as it was. -/
structure Confined (directory : Text) (textures : List (Text × TextureSource)) (tree : FileTree)
    (w : Written) : Prop where
  named : w.files ⊆ textures.map fun t => (t.1, texturePath directory t.1)
  elsewhere : ∀ l, (∀ t ∈ textures, l ≠ Path.place directory ++ [t.1 ++ Text.ofString ".png"]) →
    ∀ content, w.tree.entry? l = some (.file content) ↔ tree.entry? l = some (.file content)

theorem mem_files_of_mem_bindings {made : FileTree} {limit : Nat} {events : List Event}
    {file : Text × Text}
    (h : file ∈ ((pool made cancelled directory textures).run limit events).bindings) :
    file ∈ textures.map fun t => (t.1, texturePath directory t.1) := by
  have htallied := Pool.run_invariant limit
    (Pool.tallied_start made cancelled (jobs directory textures))
    (fun _ _ hq hmove => hmove.tallied hq) events
  obtain ⟨w, hw, rfl⟩ := List.mem_map.mp (htallied.mem_iff.mp h)
  have hjobs := Pool.jobs_run limit (pool made cancelled directory textures) events
  rw [pool, Pool.jobs_start] at hjobs
  have hjob : w.job ∈ jobs directory textures :=
    hjobs ▸ List.mem_map_of_mem (List.mem_of_mem_filter hw)
  obtain ⟨hmem, hpath⟩ := mem_jobs.mp hjob
  exact List.mem_map.mpr ⟨_, hmem, by rw [hpath]⟩

theorem confined_writeTextures (hdir : directory ≠ []) (hnodup : (textures.map Prod.fst).Nodup)
    (hfit : ∀ t ∈ textures, ¬ Unfit t.1) (tree : FileTree) (cancelled : Bool) (concurrency : Int)
    (schedule : List Event) :
    Confined directory textures tree
      (writeTextures tree cancelled directory concurrency textures schedule) := by
  have hidle : ∀ failure, Confined directory textures tree ⟨[], failure, tree⟩ :=
    fun _ => ⟨List.nil_subset _, fun _ _ _ => .rfl⟩
  unfold writeTextures
  dsimp only
  split
  · exact hidle _
  · rw [if_neg (by simpa using hdir)]
    have hfind := (find_unfit directory textures).resolve_right (by
      rintro ⟨j, _, hmem, hbad⟩
      obtain ⟨t, ht, hname⟩ := List.mem_map.mp hmem
      exact hfit t ht (hname ▸ hbad))
    rw [hfind.1]
    dsimp only
    split
    · exact hidle _
    · rename_i made hmade
      have hnames : ∀ j ∈ jobs directory textures, isFileName j.name = true := fun j hj =>
        isFileName_eq_true.mpr (hfit _ (mem_jobs.mp hj).1)
      have hkeeps := Pool.keeps_run made cancelled (parallel_jobs hdir hnames hnodup)
        (workerLimit concurrency (jobs directory textures).length)
        ((pool made cancelled directory textures).events schedule)
      refine ⟨fun file hfile => mem_files_of_mem_bindings hfile, fun l hl content => ?_⟩
      rw [← FileTree.makeDirectories_sameFiles hmade l content]
      refine iff_of_eq (congrArg (· = _) (hkeeps.elsewhere l fun j hj hplace => ?_))
      rw [Pool.jobs_run, Pool.jobs_start] at hj
      obtain ⟨hmem, hpath⟩ := mem_jobs.mp hj
      refine hl _ hmem ?_
      rw [FileTree.eq_place_of_locate hplace, hpath,
        (child_texturePath hdir (hfit _ hmem)).place_eq]

/-- For a directory and textures of different names, all of which can be names of files, the file of
each texture is directly below the cleaned directory, no two are the same, and no other file is made or
changed, whatever the workers do. With a name that cannot be the name of a file, writing the textures
fails and so does every export, with nothing made. -/
theorem textures_confined (tree : FileTree) (cancelled : Bool) (directory : Text)
    (concurrency : Int) (textures : List (Text × TextureSource)) (schedule : List Event)
    (hdir : directory ≠ []) (hnodup : (textures.map Prod.fst).Nodup) :
    ((∀ t ∈ textures, ¬ Unfit t.1) →
      (∀ t ∈ textures, Path.Child directory (t.1 ++ ".png") (texturePath directory t.1)) ∧
      (textures.map fun t => texturePath directory t.1).Nodup ∧
      Confined directory textures tree
        (writeTextures tree cancelled directory concurrency textures schedule) ∧
      ((writeTextures tree cancelled directory concurrency textures schedule).failure = none →
        (writeTextures tree cancelled directory concurrency textures schedule).files.Perm
          (textures.map fun t => (t.1, texturePath directory t.1)))) ∧
    ((∃ t ∈ textures, Unfit t.1) →
      (∃ name ∈ textures.map Prod.fst, Unfit name ∧
        (writeTextures tree cancelled directory concurrency textures schedule).failure =
          some (.fileName name)) ∧
      (writeTextures tree cancelled directory concurrency textures schedule).files = [] ∧
      (writeTextures tree cancelled directory concurrency textures schedule).tree = tree) ∧
    ∀ (options : Options) (net : Network) (mat : Stage.Material) (c : Stage.Compiled)
      (sink : Option Stage.Sink), Stage.compile options.settings net mat = .ok c →
      (∃ t ∈ c.textures, Unfit t.1) →
      (∃ f, (run options net mat sink tree schedule).failure = some f) ∧
        (run options net mat sink tree schedule).sink = sink ∧
        (run options net mat sink tree schedule).tree = tree := by
  refine ⟨fun hfit => ⟨fun t ht => child_texturePath hdir (hfit t ht), ?_,
    confined_writeTextures hdir hnodup hfit tree cancelled concurrency schedule,
    fun hnone => (writeTextures_of_none hnodup hnone).1⟩, fun hunfit => ?_,
    fun options net mat c sink hcompile hunfit => run_of_unfit options hcompile hunfit sink tree
      schedule⟩
  · refine List.pairwise_map.mpr (List.Pairwise.imp_of_mem ?_ (List.pairwise_map.mp hnodup))
    intro s t hs ht hne hpath
    exact hne (texturePath_inj hdir (hfit s hs) (hfit t ht) hpath)
  · obtain ⟨hfiles, htree, hfailure⟩ :=
      writeTextures_of_unfit tree cancelled directory concurrency schedule hunfit
    rcases hfailure with ⟨hempty, _⟩ | ⟨_, hname⟩
    · exact absurd hempty hdir
    · exact ⟨hname, hfiles, htree⟩

def strayTextures : List (Text × TextureSource) :=
  [("a", .memory "left" (some (pixel 1))), ("../b", .memory "right" (some (pixel 2)))]

def strays : Network :=
  .after [.node "Strays" (strayTextures.map fun t =>
    ⟨t.1, DataType.asset, .ofParameter t.1 (.asset (some t.2))⟩) [⟨"out", DataType.token⟩]]

theorem strays_compile : ∃ c, Stage.compile .standard strays panesMaterial = .ok c ∧
    c.textures = strayTextures := by
  obtain ⟨c, hc, htextures⟩ := Outcome.exists_of_any
    (x := Stage.compile .standard strays panesMaterial) (q := fun c => c.textures = strayTextures)
    (by decide +kernel)
  exact ⟨c, hc, of_decide_eq_true htextures⟩

theorem textures_confined_panes :
    (texturePath "../art//./raw/.." "a" = "../art/a.png" ∧
      Confined "../art//./raw/.." paneTextures panesTree
        (writeTextures panesTree false "../art//./raw/.." 2 paneTextures overtaking)) ∧
    (writeTextures panesTree false "tex" 2 strayTextures []).tree = panesTree ∧
    (run ⟨.standard, "tex", 2, false⟩ strays panesMaterial (some ⟨none, []⟩) panesTree []).tree =
      panesTree := by
  have hfit := (textures_confined panesTree false "../art//./raw/.." 2 paneTextures overtaking
    (by decide) (by decide)).1 (by decide)
  obtain ⟨c, hcompile, htextures⟩ := strays_compile
  have hunfit : ∃ t ∈ strayTextures, Unfit t.1 := by decide
  have hstray := (textures_confined panesTree false "tex" 2 strayTextures [] (by decide) (by decide)).2
  have hpath := (hfit.1 ("a", .memory "left" (some (pixel 1))) List.mem_cons_self).spelled
  refine ⟨⟨hpath.trans (by decide), hfit.2.2.1⟩, (hstray.1 hunfit).2.2, ?_⟩
  exact (hstray.2 ⟨.standard, "tex", 2, false⟩ strays panesMaterial c (some ⟨none, []⟩) hcompile
    (htextures ▸ hunfit)).2.2

end ShaderGraph.Export
