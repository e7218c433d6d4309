import ShaderGraph.Proofs.Publication

/-!
# Textures that are read from where others are written

The file of a texture holds the image of its own source, whatever the workers do, if the source is no
file at the place that another texture is written to. Such a source may be read while that one is
written, so nothing is said of what several workers at a time find there. With one worker at a time it
is read before or after that write, and the order of the names decides.
-/
namespace ShaderGraph.Export

def Overlaps (t : FileTree) (source : TextureSource) (path : Text) : Prop :=
  ∃ s l, source = .file s ∧ t.locate s = .ok l ∧ t.locate path = .ok l

variable {base final : FileTree} {job : Job} {source : TextureSource} {image : Image}
  {jobs : List Job} {seen : Job → Image → Prop}

theorem Job.Holds.untouched {t : FileTree} {phase : Phase} (h : job.Holds seen base t phase)
    (hrank : phase.rank ≤ 2) : job.Untouched base base t := by
  cases phase with
  | queued => exact h
  | started => exact h
  | loaded image => exact h.2
  | created image => exact absurd hrank (by simp [Phase.rank])
  | done => exact absurd hrank (by decide)
  | failed => exact absurd hrank (by decide)

namespace Pool

variable {limit : Nat} {cancelled : Bool} {q : Pool} {w : Worker}

theorem Keeps.depicts_base (hq : Keeps base seen q) (h : Depicts q.tree source image)
    (hfree : ∀ w ∈ q.workers, Overlaps base source w.job.path → w.phase.rank ≤ 2) :
    Depicts base source image := by
  cases source with
  | memory key found => cases found <;> exact h
  | failing reason => exact h
  | vacant label => exact h
  | file path =>
    obtain ⟨l, c, hl, hc, himage⟩ := depicts_file.mp h
    have hlb := hq.ways.locate.mpr hl
    refine depicts_file.mpr ⟨l, c, hlb, ?_, himage⟩
    rw [← hc]
    by_cases hplace : ∃ w ∈ q.workers, base.locate w.job.path = .ok l
    · obtain ⟨w, hw, hlw⟩ := hplace
      exact ((hq.holds w hw).untouched (hfree w hw ⟨path, l, rfl, hlb, hlw⟩) l hlw).symm
    · refine (hq.elsewhere l fun j hj hlj => hplace ?_).symm
      obtain ⟨w, hw, rfl⟩ := List.mem_map.mp hj
      exact ⟨w, hw, hlj⟩

/-- What a load sees at the place of a worker that has written to it is the image of that worker. An
empty file is no image. -/
theorem Keeps.contains_of_overlaps (hq : Keeps base seen q) (h : Depicts q.tree source image)
    (hw : w ∈ q.workers) (ho : Overlaps base source w.job.path) (hrank : 2 < w.phase.rank)
    (hfailed : w.phase ≠ .failed) :
    w.phase = .done ∧ w.job.Contains base q.tree (.picture image) := by
  obtain ⟨path, l, rfl, hs, hlw⟩ := ho
  obtain ⟨l', c, hl, hc, himage⟩ := depicts_file.mp h
  obtain rfl := Except.ok.inj (hs.symm.trans (hq.ways.locate.mpr hl))
  have hholds := hq.holds w hw
  have hcontent : ∀ {c'}, w.job.Contains base q.tree c' → c' = c := by
    rintro c' ⟨l', hl', hc'⟩
    obtain rfl := Except.ok.inj (hlw.symm.trans hl')
    exact Entry.file.inj (Option.some.inj (hc'.symm.trans hc))
  cases hphase : w.phase with
  | queued => exact absurd hrank (by simp [hphase, Phase.rank])
  | started => exact absurd hrank (by simp [hphase, Phase.rank])
  | loaded image => exact absurd hrank (by simp [hphase, Phase.rank])
  | created other =>
    rw [hphase] at hholds
    have hblank : image? (.bytes []) = none := by decide
    rw [← hcontent hholds.2, hblank] at himage
    cases himage
  | done =>
    rw [hphase] at hholds
    obtain ⟨found, _, hcontains⟩ := hholds
    have hfound := hcontent hcontains
    rw [← hfound] at himage
    exact ⟨rfl, Option.some.inj himage ▸ hcontains⟩
  | failed => exact absurd hphase hfailed

/-- The pool at the time when the worker of a job loads its image, seen from the end of a run without
failure. -/
structure Moment (limit : Nat) (base final : FileTree) (jobs : List Job) (job : Job) (image : Image)
    (q : Pool) : Prop where
  jobs : q.workers.map (·.job) = jobs
  keeps : Keeps base (fun _ _ => True) q
  whole : ∀ w ∈ q.workers, w.phase ≠ .failed
  started : ⟨job, .started⟩ ∈ q.workers
  depicts : Depicts q.tree job.source image
  lasting : ∀ other c, ⟨other, .done⟩ ∈ q.workers → other.Contains base q.tree c →
    other.Contains base final c
  oneByOne : limit = 1 → q.OneByOne

theorem Loads.moment {events : List Event} (hj : Parallel jobs)
    (hnone : ((start base cancelled jobs).run limit events).failure = none)
    (h : Loads limit (start base cancelled jobs) events job image) :
    ∃ q, Moment limit base ((start base cancelled jobs).run limit events).tree jobs job image q := by
  obtain ⟨past, ⟨rest, rfl⟩, hstarted, hload⟩ := h
  rw [run_append] at hnone ⊢
  have hjobs := (jobs_run limit (start base cancelled jobs) past).trans
    (jobs_start base cancelled jobs)
  have hkeeps := keeps_run base cancelled hj limit past
  have hunbroken := run_invariant limit (unbroken_start base cancelled jobs)
    (fun _ _ hq hmove => hmove.unbroken hq) past
  refine ⟨(start base cancelled jobs).run limit past, hjobs, hkeeps.mono fun _ _ _ => trivial,
    hunbroken (failure_run hnone), hstarted, depicts_of_load hload, fun other c hw hc => ?_, ?_⟩
  · rw [← hjobs] at hj
    exact contains_run hj hkeeps.ways hw hc limit rest
  · rintro rfl
    exact run_invariant 1 (oneByOne_start base cancelled jobs)
      (fun _ _ hq hmove => hmove.oneByOne hq) past

theorem Moment.eq_of_overlaps (hm : Moment limit base final jobs job image q) (hj : Parallel jobs)
    {w' : Worker} (hw : w ∈ q.workers) (hw' : w' ∈ q.workers)
    (ho : Overlaps base source w.job.path) (ho' : Overlaps base source w'.job.path) : w = w' := by
  obtain ⟨s, l, rfl, hs, hl⟩ := ho
  obtain ⟨_, l', hsource, hs', hl'⟩ := ho'
  cases hsource
  obtain rfl := Except.ok.inj (hs.symm.trans hs')
  have hpair : q.workers.Pairwise fun a b => a.job.Apart b.job :=
    List.pairwise_map.mp (hm.jobs ▸ hj.apart)
  have : Std.Symm fun a b : Worker => a.job.Apart b.job := ⟨fun _ _ h => h.symm⟩
  by_contra hne
  exact hpair.forall hw hw' hne base l hl hl'

/-- Whether the image comes from its own source or from another job depends on how far the worker of
that job has come. -/
theorem Moment.cases (hm : Moment limit base final jobs job image q) (hj : Parallel jobs)
    (hw : w ∈ q.workers) (ho : Overlaps base job.source w.job.path) :
    w.phase.rank ≤ 2 ∧ Depicts base job.source image ∨
      4 ≤ w.phase.rank ∧ w.job.Contains base final (.picture image) := by
  rcases Nat.lt_or_ge 2 w.phase.rank with hrank | hrank
  · obtain ⟨hdone, hc⟩ :=
      hm.keeps.contains_of_overlaps hm.depicts hw ho hrank (hm.whole w hw)
    obtain ⟨other, phase⟩ := w
    dsimp only at hdone hc
    subst hdone
    exact Or.inr ⟨le_rfl, hm.lasting other _ hw hc⟩
  · refine Or.inl ⟨hrank, hm.keeps.depicts_base hm.depicts fun w' hw' ho' => ?_⟩
    rw [hm.eq_of_overlaps hj hw' hw ho' ho]
    exact hrank

/-- With one worker at a time a job finds what those before it have written, and nothing of those
after it. -/
theorem Moment.ordered (hm : Moment 1 base final jobs job image q) (hj : Parallel jobs)
    {before after : List Worker} (hsplit : q.workers = before ++ ⟨job, .started⟩ :: after)
    (other : Job) (ho : Overlaps base job.source other.path) :
    (other ∈ before.map (·.job) → other.Contains base final (.picture image)) ∧
      (other ∈ after.map (·.job) → Depicts base job.source image) := by
  have hone := hm.oneByOne rfl
  rw [OneByOne, hsplit, List.pairwise_append, List.pairwise_cons] at hone
  constructor
  · intro hmem
    obtain ⟨w, hw, rfl⟩ := List.mem_map.mp hmem
    have hrank : 4 ≤ w.phase.rank := hone.2.2 w hw _ List.mem_cons_self (by simp)
    rcases hm.cases hj (by simp [hsplit, hw]) ho with ⟨hlow, _⟩ | ⟨_, h⟩
    · omega
    · exact h
  · intro hmem
    obtain ⟨w, hw, rfl⟩ := List.mem_map.mp hmem
    have hqueued : w.phase = .queued := by
      by_contra hne
      exact absurd (hone.2.1.1 w hw hne) (by simp [Phase.rank])
    rcases hm.cases hj (by simp [hsplit, hw]) ho with ⟨_, h⟩ | ⟨hhigh, _⟩
    · exact h
    · rw [hqueued] at hhigh
      exact absurd hhigh (by decide)

end Pool

/-! ## Exports -/

theorem Depicts.unique {t : FileTree} {image' : Image} (h : Depicts t source image)
    (h' : Depicts t source image') : image = image' :=
  Option.some.inj (Except.ok.inj (h.symm.trans h'))

theorem depicts_extends {t t' : FileTree} (h : t.Extends t') (hd : Depicts t source image) :
    Depicts t' source image := by
  cases source with
  | memory key found => cases found <;> exact hd
  | failing reason => exact hd
  | vacant label => exact hd
  | file path =>
    obtain ⟨l, c, hl, hc, himage⟩ := depicts_file.mp hd
    exact depicts_file.mpr ⟨l, c, h.opens.locate hl, h l _ hc, himage⟩

theorem sorted_jobs (directory : Text) (textures : List (Text × TextureSource)) :
    (Export.jobs directory textures).Pairwise fun a b => Text.le a.name b.name = true := by
  rw [Export.jobs, List.pairwise_map]
  exact pairwise_sort textures

/-- The image is what the source denotes once the directory has been made, and so what it denoted
before, if it denoted an image. -/
def Owns (tree made : FileTree) (source : TextureSource) (image : Image) : Prop :=
  Depicts made source image ∧ ∀ own, Depicts tree source own → own = image

variable {made : FileTree} {directory name : Text} {textures : List (Text × TextureSource)}
  {limit : Nat} {q : Pool}

theorem owns_of_depicts {tree : FileTree} (hmade : tree.makeDirectories directory = .ok made)
    (h : Depicts made source image) : Owns tree made source image :=
  ⟨h, fun _ hown =>
    (depicts_extends (FileTree.makeDirectories_extends hmade) hown).unique h⟩

theorem depicts_of_free (hnodup : (textures.map Prod.fst).Nodup) {path : Text}
    (hm : q.Moment limit made final (Export.jobs directory textures) ⟨name, source, path⟩ image)
    (hfree : ∀ other ∈ textures.map Prod.fst, other ≠ name →
      ¬ Overlaps made source (texturePath directory other)) : Depicts made source image := by
  refine hm.keeps.depicts_base hm.depicts fun w hw ho => ?_
  have hjob : w.job ∈ Export.jobs directory textures := hm.jobs ▸ List.mem_map_of_mem hw
  obtain ⟨htexture, hpath⟩ := mem_jobs.mp hjob
  have hname : w.job.name = name := by
    by_contra hne
    exact hfree _ (List.mem_map_of_mem htexture) hne (hpath ▸ ho)
  -- The worker that reads from its own place has not written there yet.
  have hnames : (q.workers.map fun w => w.job.name).Nodup := by
    have hall := nodup_jobs directory hnodup
    rw [← hm.jobs, List.map_map] at hall
    exact hall
  rw [List.inj_on_of_nodup_map hnames hw hm.started hname]
  simp [Phase.rank]

theorem depicts_of_order (hj : Parallel (Export.jobs directory textures))
    (hways : made.SameWays final) (hlimit : limit = 1)
    (hm : q.Moment limit made final (Export.jobs directory textures)
      ⟨name, source, texturePath directory name⟩ image)
    {other : Text} (hother : other ∈ textures.map Prod.fst) (hne : other ≠ name)
    (ho : Overlaps made source (texturePath directory other)) :
    if Text.le other name then Depicts final (.file (texturePath directory other)) image
    else Depicts made source image := by
  subst hlimit
  obtain ⟨⟨other, source'⟩, htexture, rfl⟩ := List.mem_map.mp hother
  obtain ⟨before, after, hsplit⟩ := List.append_of_mem hm.started
  have hjobs := hm.jobs
  rw [hsplit, List.map_append, List.map_cons] at hjobs
  have hsorted := sorted_jobs directory textures
  rw [← hjobs, List.pairwise_append, List.pairwise_cons] at hsorted
  have hmem : ⟨other, source', texturePath directory other⟩ ∈ Export.jobs directory textures :=
    mem_jobs.mpr ⟨htexture, rfl⟩
  rw [← hjobs, List.mem_append, List.mem_cons] at hmem
  obtain ⟨hfirst, hlast⟩ :=
    hm.ordered hj hsplit ⟨other, source', texturePath directory other⟩ ho
  rcases hmem with hmem | hmem | hmem
  · rw [if_pos (hsorted.2.2 _ hmem _ List.mem_cons_self)]
    exact (hfirst hmem).depicts hways
  · exact absurd (congrArg Job.name hmem) hne
  · have hle : ¬ Text.le other name = true := fun hle =>
      hne (Text.le_antisymm hle (hsorted.2.1.1 _ hmem))
    rw [if_neg hle]
    exact hlast hmem

/-- After a successful export the file of a texture holds an image. It is the texture's own if the
source is not read from where another texture is written. With one worker at a time such a source gives
the image of the other texture if the other name comes first, and its own image if it comes last. -/
theorem exported_images {options : Options} {net : Network} {mat : Stage.Material}
    {sink : Option Stage.Sink} {tree : FileTree} {schedule : List Event}
    (h : (run options net mat sink tree schedule).failure = none) :
    ∃ c files, Stage.compile options.settings net mat = .ok c ∧
      (run options net mat sink tree schedule).files = some files ∧
      ∀ name source, (name, source) ∈ c.textures → ∃ made image,
        tree.makeDirectories options.directory = .ok made ∧
        (name, texturePath options.directory name) ∈ files ∧
        Depicts (run options net mat sink tree schedule).tree
          (.file (texturePath options.directory name)) image ∧
        ((∀ other ∈ c.textures.map Prod.fst, other ≠ name →
            ¬ Overlaps made source (texturePath options.directory other)) →
          Owns tree made source image) ∧
        (options.concurrency = 1 → ∀ other ∈ c.textures.map Prod.fst, other ≠ name →
          Overlaps made source (texturePath options.directory other) →
          if Text.le other name then Depicts (run options net mat sink tree schedule).tree
            (.file (texturePath options.directory other)) image
          else Owns tree made source image) := by
  rcases run_cases options net mat sink tree schedule with
    ⟨_, _, f, hf⟩ | ⟨out, c, rfl, hcompile, hutf, hnone⟩
  · rw [hf] at h
    cases h
  refine ⟨c, _, hcompile, (files_of_run hcompile hutf hnone h).2, fun name source hmem => ?_⟩
  obtain ⟨_, _, hnodup, _⟩ := Stage.textures_of_compile hcompile
  rw [(run_of_none options hcompile hutf hnone out).1]
  obtain ⟨made, image, hmade, hloads, hfile⟩ := fulfils_of_none hnodup hnone hmem
  obtain ⟨made', hmade', hj, htree, hunfailed⟩ :=
    (writeTextures_of_none hnodup hnone).2 (List.ne_nil_of_mem hmem)
  obtain rfl := Except.ok.inj (hmade.symm.trans hmade')
  rw [htree] at hfile ⊢
  obtain ⟨q, hm⟩ := Pool.Loads.moment hj hunfailed hloads
  have hways := (Pool.keeps_run made options.cancelled hj
    (workerLimit options.concurrency c.textures.length)
    ((pool made options.cancelled options.directory c.textures).events schedule)).ways
  refine ⟨made, image, hmade, List.mem_mergeSort.mpr (List.mem_map.mpr ⟨_, hmem, rfl⟩), hfile,
    fun hfree => owns_of_depicts hmade (depicts_of_free hnodup hm hfree),
    fun hone other hother hne ho => ?_⟩
  have hlimit : workerLimit options.concurrency c.textures.length = 1 := by
    rw [hone]
    rfl
  have horder := depicts_of_order hj hways hlimit hm hother hne ho
  split at horder
  · rename_i hle
    rwa [if_pos hle]
  · rename_i hle
    rw [if_neg hle]
    exact owns_of_depicts hmade horder

theorem panes_borrowed : Depicts panesTree (.file "tex/a.png") (pixel 2) ∧
    Depicts (run ⟨.standard, "tex", 1, false⟩ panes panesMaterial (some ⟨none, []⟩) panesTree []).tree
      (.file "tex/b.png") (pixel 1) := by
  obtain ⟨c, hcompile, hutf, htextures⟩ := panes_compile
  have hnone : (writeTextures panesTree false "tex" 1 paneTextures []).failure = none := by
    unfold writeTextures
    rw [jobs_of_sorted "tex" (by decide)]
    decide +kernel
  rw [← htextures] at hnone
  have hok := (run_of_none ⟨.standard, "tex", 1, false⟩ hcompile hutf hnone ⟨none, []⟩).2.2.1
  obtain ⟨c', _, hcompile', _, himages⟩ := exported_images hok
  obtain rfl := Except.ok.inj (hcompile.symm.trans hcompile')
  rw [htextures] at himages
  have hmade : panesTree.makeDirectories "tex" = .ok panesTree := by decide +kernel
  obtain ⟨made, left, hleft, _, hfile, hown, _⟩ := himages "a" _ List.mem_cons_self
  obtain ⟨made', right, hright, _, hfile', _, horder⟩ :=
    himages "b" _ (List.mem_cons_of_mem _ List.mem_cons_self)
  obtain rfl := Except.ok.inj (hmade.symm.trans hleft)
  obtain rfl := Except.ok.inj (hmade.symm.trans hright)
  have hfree : ∀ other ∈ paneTextures.map Prod.fst, other ≠ "a" →
      ¬ Overlaps panesTree (.memory "left" (some (pixel 1))) (texturePath "tex" other) := by
    rintro other _ _ ⟨_, _, hmemory, _⟩
    cases hmemory
  have hpixel : left = pixel 1 := (hown hfree).1.unique rfl
  have hoverlap : Overlaps panesTree (.file "tex/a.png") (texturePath "tex" "a") :=
    ⟨_, ["tex", "a.png"], rfl, by decide +kernel, by decide +kernel⟩
  have hsame := horder rfl "a" List.mem_cons_self (by decide) hoverlap
  rw [if_pos (by decide)] at hsame
  have hpath : texturePath "tex" "b" = "tex/b.png" := by decide +kernel
  rw [hsame.unique hfile, hpixel, hpath] at hfile'
  refine ⟨?_, hfile'⟩
  unfold Depicts
  decide +kernel

end ShaderGraph.Export
