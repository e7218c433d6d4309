import ShaderGraph.Proofs.Workers

/-!
# What the files of the workers hold

The workers of an export share one file tree, and each writes to a place of its own. So whatever the
order of their steps, the file of a worker holds what the worker itself has put there, no step changes
any other place, and the file of a worker that is done stays as it is.
-/
namespace ShaderGraph.Export

variable {base t t' : FileTree} {job : Job} {seen seen' : Job → Image → Prop} {c : Content}

namespace Job

def Apart (a b : Job) : Prop :=
  ∀ (t : FileTree) (l : Location), t.locate a.path = .ok l → t.locate b.path ≠ .ok l

theorem Apart.symm {a b : Job} (h : a.Apart b) : b.Apart a := fun t l hb ha => h t l ha hb

def Untouched (job : Job) (base t t' : FileTree) : Prop :=
  ∀ l, base.locate job.path = .ok l → t'.entry? l = t.entry? l

def Contains (job : Job) (base t : FileTree) (c : Content) : Prop :=
  ∃ l, base.locate job.path = .ok l ∧ t.entry? l = some (.file c)

theorem Untouched.contains (h : job.Untouched base t t') (hc : job.Contains base t c) :
    job.Contains base t' c := by
  obtain ⟨l, hl, hc⟩ := hc
  exact ⟨l, hl, (h l hl).trans hc⟩

/-- What the phase of a worker says about its file: nothing was written until the image was loaded,
then there is an empty file, and at last the image. -/
def Holds (job : Job) (seen : Job → Image → Prop) (base t : FileTree) : Phase → Prop
  | .queued | .started => job.Untouched base base t
  | .loaded image => seen job image ∧ job.Untouched base base t
  | .created image => seen job image ∧ job.Contains base t (.bytes [])
  | .done => ∃ image, seen job image ∧ job.Contains base t (.picture image)
  | .failed => True

theorem Untouched.holds (h : job.Untouched base t t') {phase : Phase}
    (hp : job.Holds seen base t phase) : job.Holds seen base t' phase := by
  have huntouched : job.Untouched base base t → job.Untouched base base t' :=
    fun hb l hl => (h l hl).trans (hb l hl)
  cases phase with
  | queued => exact huntouched hp
  | started => exact huntouched hp
  | loaded image => exact ⟨hp.1, huntouched hp.2⟩
  | created image => exact ⟨hp.1, h.contains hp.2⟩
  | done =>
    obtain ⟨image, hseen, hc⟩ := hp
    exact ⟨image, hseen, h.contains hc⟩
  | failed => trivial

theorem Holds.mono (hseen : ∀ image, seen job image → seen' job image) {phase : Phase}
    (hp : job.Holds seen base t phase) : job.Holds seen' base t phase := by
  cases phase with
  | queued => exact hp
  | started => exact hp
  | loaded image => exact ⟨hseen image hp.1, hp.2⟩
  | created image => exact ⟨hseen image hp.1, hp.2⟩
  | done =>
    obtain ⟨image, hi, hc⟩ := hp
    exact ⟨image, hseen image hi, hc⟩
  | failed => trivial

end Job

structure Parallel (jobs : List Job) : Prop where
  plain : ∀ j ∈ jobs, j.path.getLast? ≠ some 0x2f
  apart : jobs.Pairwise Job.Apart

/-! ## One step -/

namespace Act

variable {p : Pool} {old new : Phase} {tree : FileTree}

theorem frame (hplain : job.path.getLast? ≠ some 0x2f) (h : Act p job old new tree) :
    p.tree.SameWays tree ∧ ∀ l, p.tree.locate job.path ≠ .ok l → tree.entry? l = p.tree.entry? l := by
  have hwrite : ∀ {c}, p.tree.write job.path c = .ok tree →
      p.tree.SameWays tree ∧
        ∀ l, p.tree.locate job.path ≠ .ok l → tree.entry? l = p.tree.entry? l := by
    intro c hwrite
    obtain ⟨hways, place, hplace, hentry⟩ := FileTree.write_spec hplain hwrite
    refine ⟨hways, fun l hl => ?_⟩
    have hne : l ≠ place := fun h => hl (h ▸ hplace)
    rw [hentry, if_neg hne]
  cases h with
  | start => exact ⟨.refl _, fun _ _ => rfl⟩
  | load _ => exact ⟨.refl _, fun _ _ => rfl⟩
  | create h => exact hwrite h
  | fill h => exact hwrite h
  | fail _ => exact ⟨.refl _, fun _ _ => rfl⟩
  | spoil h => exact hwrite h

theorem contains (hways : base.SameWays p.tree) (hplain : job.path.getLast? ≠ some 0x2f)
    (h : p.tree.write job.path c = .ok tree) : job.Contains base tree c := by
  obtain ⟨_, l, hl, hentry⟩ := FileTree.write_spec hplain h
  exact ⟨l, hways.locate.mpr hl, by rw [hentry, if_pos rfl]⟩

theorem holds (hways : base.SameWays p.tree) (hplain : job.path.getLast? ≠ some 0x2f)
    (hload : ∀ image, old = .started → loadTexture p.tree p.cancelled job.source = .ok (some image) →
      seen job image)
    (h : Act p job old new tree) (hold : job.Holds seen base p.tree old) :
    job.Holds seen base tree new := by
  cases h with
  | start => exact hold
  | load h => exact ⟨hload _ rfl h, hold⟩
  | create h => exact ⟨hold.1, contains hways hplain h⟩
  | fill h => exact ⟨_, hold.1, contains hways hplain h⟩
  | fail _ => trivial
  | spoil _ => trivial

end Act

namespace Pool

variable {limit : Nat} {p q : Pool}

structure Keeps (base : FileTree) (seen : Job → Image → Prop) (p : Pool) : Prop where
  ways : base.SameWays p.tree
  elsewhere : ∀ l, (∀ j ∈ p.workers.map (·.job), base.locate j.path ≠ .ok l) →
    p.tree.entry? l = base.entry? l
  holds : ∀ w ∈ p.workers, w.job.Holds seen base p.tree w.phase

theorem keeps_start (cancelled : Bool) (jobs : List Job) :
    Keeps base seen (start base cancelled jobs) := by
  refine ⟨.refl base, fun _ _ => rfl, fun w hw => ?_⟩
  obtain ⟨job, _, rfl⟩ := List.mem_map.mp hw
  exact fun _ _ => rfl

theorem Keeps.mono (h : Keeps base seen p) (hseen : ∀ job image, seen job image → seen' job image) :
    Keeps base seen' p :=
  ⟨h.ways, h.elsewhere, fun w hw => (h.holds w hw).mono (hseen w.job)⟩

/-- The other workers find their files as they were. -/
theorem untouched_of_act {before after : List Worker} {old new : Phase} {tree : FileTree}
    (hways : base.SameWays p.tree) (hj : Parallel (p.workers.map (·.job)))
    (hsplit : p.workers = before ++ ⟨job, old⟩ :: after) (hact : Act p job old new tree)
    {w : Worker} (hw : w ∈ before ∨ w ∈ after) : w.job.Untouched base p.tree tree := by
  rw [hsplit, List.map_append, List.map_cons] at hj
  have hpair := List.pairwise_append.mp hj.apart
  have hapart : job.Apart w.job := by
    rcases hw with hw | hw
    · exact (hpair.2.2 _ (List.mem_map_of_mem hw) job List.mem_cons_self).symm
    · exact (List.pairwise_cons.mp hpair.2.1).1 _ (List.mem_map_of_mem hw)
  have hframe := (hact.frame (hj.plain job (by simp))).2
  exact fun l hl => hframe l fun hown => hapart p.tree l hown (hways.locate.mp hl)

theorem Move.ways (h : Move limit p q) (hj : Parallel (p.workers.map (·.job))) :
    p.tree.SameWays q.tree := by
  cases h with
  | idle => exact .refl _
  | cancel => exact .refl _
  | @act before after job old _ _ _ _ _ hsplit hact _ _ _ =>
    exact (hact.frame (hj.plain job (by simp [hsplit]))).1

theorem Move.keeps (h : Move limit p q) (hj : Parallel (p.workers.map (·.job)))
    (hload : ∀ job image, ⟨job, .started⟩ ∈ p.workers →
      loadTexture p.tree p.cancelled job.source = .ok (some image) → seen job image)
    (hp : Keeps base seen p) : Keeps base seen q := by
  have hjobs := h.jobs
  have hways := h.ways hj
  cases h with
  | idle => exact hp
  | cancel => exact ⟨hp.ways, hp.elsewhere, hp.holds⟩
  | @act before after job old new tree _ _ _ hsplit hact _ _ _ =>
    have hmem : (⟨job, old⟩ : Worker) ∈ p.workers := by simp [hsplit]
    have hplain := hj.plain job (List.mem_map.mpr ⟨_, hmem, rfl⟩)
    have hframe := (hact.frame hplain).2
    have hothers : ∀ {w : Worker}, w ∈ before ∨ w ∈ after → w.job.Holds seen base tree w.phase :=
      fun {w} hw => (untouched_of_act hp.ways hj hsplit hact hw).holds
        (hp.holds w (by rw [hsplit]; simp [hw.imp_right Or.inr]))
    refine ⟨hp.ways.trans hways, fun l hl => ?_, fun w hw => ?_⟩
    · rw [hjobs] at hl
      have hown : p.tree.locate job.path ≠ .ok l :=
        fun h => hl job (List.mem_map.mpr ⟨_, hmem, rfl⟩) (hp.ways.locate.mpr h)
      rw [hframe l hown]
      exact hp.elsewhere l hl
    · rcases List.mem_append.mp hw with hw | hw
      · exact hothers (Or.inl hw)
      · rcases List.mem_cons.mp hw with rfl | hw
        · refine hact.holds hp.ways hplain (fun image hold himage => ?_) (hp.holds _ hmem)
          exact hload job image (hold ▸ hmem) himage
        · exact hothers (Or.inr hw)

theorem Move.contains_of_done (h : Move limit p q) (hj : Parallel (p.workers.map (·.job)))
    (hways : base.SameWays p.tree) (hw : ⟨job, .done⟩ ∈ p.workers)
    (hc : job.Contains base p.tree c) :
    ⟨job, .done⟩ ∈ q.workers ∧ job.Contains base q.tree c := by
  cases h with
  | idle => exact ⟨hw, hc⟩
  | cancel => exact ⟨hw, hc⟩
  | @act before after other old new tree _ _ _ hsplit hact _ _ _ =>
    have hside : (⟨job, .done⟩ : Worker) ∈ before ∨ ⟨job, .done⟩ ∈ after := by
      rw [hsplit] at hw
      rcases List.mem_append.mp hw with hw | hw
      · exact Or.inl hw
      · rcases List.mem_cons.mp hw with hw | hw
        · exact absurd (congrArg Worker.phase hw).symm hact.ne_done
        · exact Or.inr hw
    have hkept := untouched_of_act hways hj hsplit hact hside
    exact ⟨by simpa using hside.imp_right Or.inr, hkept.contains hc⟩

/-! ## Whole runs -/

/-- The source of a job gave an image when the worker loaded it, at some time during the events. -/
def Loads (limit : Nat) (p : Pool) (events : List Event) (job : Job) (image : Image) : Prop :=
  ∃ past, past <+: events ∧ ⟨job, .started⟩ ∈ (p.run limit past).workers ∧
    loadTexture (p.run limit past).tree (p.run limit past).cancelled job.source = .ok (some image)

theorem keeps_run (base : FileTree) (cancelled : Bool) {jobs : List Job} (hj : Parallel jobs)
    (limit : Nat) (events : List Event) :
    Keeps base (Loads limit (start base cancelled jobs) events)
      ((start base cancelled jobs).run limit events) := by
  refine run_induction limit (start base cancelled jobs) (P := fun events =>
    Keeps base (Loads limit (start base cancelled jobs) events)
      ((start base cancelled jobs).run limit events)) (keeps_start cancelled jobs) ?_ events
  intro past e hkeeps hmove
  have hlater : past <+: past ++ [e] := List.prefix_append past [e]
  refine hmove.keeps ?_ (fun job image hw himage => ⟨past, hlater, hw, himage⟩)
    (hkeeps.mono fun job image h => ?_)
  · rw [jobs_run, jobs_start]
    exact hj
  · obtain ⟨earlier, hearlier, himage⟩ := h
    exact ⟨earlier, hearlier.trans hlater, himage⟩

theorem contains_run (hj : Parallel (p.workers.map (·.job))) (hways : base.SameWays p.tree)
    (hw : ⟨job, .done⟩ ∈ p.workers) (hc : job.Contains base p.tree c) (limit : Nat)
    (events : List Event) : job.Contains base (p.run limit events).tree c := by
  have hrun := run_invariant limit (P := fun q =>
    q.workers.map (·.job) = p.workers.map (·.job) ∧ base.SameWays q.tree ∧
      ⟨job, .done⟩ ∈ q.workers ∧ job.Contains base q.tree c) ⟨rfl, hways, hw, hc⟩ ?_ events
  · exact hrun.2.2.2
  · rintro q q' ⟨hjobs, hways, hw, hc⟩ hmove
    rw [← hjobs] at hj
    exact ⟨hmove.jobs.trans hjobs, hways.trans (hmove.ways hj), hmove.contains_of_done hj hways hw hc⟩

end Pool

/-! ## Images in files -/

def Depicts (t : FileTree) (source : TextureSource) (image : Image) : Prop :=
  loadTexture t false source = .ok (some image)

theorem depicts_of_load {cancelled : Bool} {source : TextureSource} {image : Image}
    (h : loadTexture t cancelled source = .ok (some image)) : Depicts t source image := by
  cases cancelled with
  | false => exact h
  | true =>
    cases source with
    | file path => cases h
    | memory key found => cases found <;> cases h
    | failing reason => cases h
    | vacant label => cases h

def image? : Content → Option Image
  | .picture image => some image
  | .bytes data => (Image.decode data).toOption

theorem depicts_file {path : Text} {image : Image} : Depicts t (.file path) image ↔
    ∃ l c, t.locate path = .ok l ∧ t.entry? l = some (.file c) ∧ image? c = some image := by
  have hopen : Depicts t (.file path) image ↔
      ∃ c, t.openFile path = .ok (.file c) ∧ image? c = some image := by
    unfold Depicts
    simp only [loadTexture, Bool.false_eq_true, if_false]
    cases t.openFile path with
    | error cause => simp
    | ok e =>
      cases e with
      | directory => simp
      | file c =>
        cases c with
        | picture found => simp [image?]
        | bytes data => cases hdecode : Image.decode data <;> simp [image?, hdecode, Except.toOption]
  rw [hopen]
  simp only [FileTree.openFile_eq_ok]
  constructor
  · rintro ⟨c, ⟨l, hl, he⟩, hc⟩
    exact ⟨l, c, hl, he, hc⟩
  · rintro ⟨l, c, hl, he, hc⟩
    exact ⟨c, ⟨l, hl, he⟩, hc⟩

theorem Job.Contains.depicts {image : Image} (hways : base.SameWays t)
    (h : job.Contains base t (.picture image)) : Depicts t (.file job.path) image := by
  obtain ⟨l, hl, he⟩ := h
  exact depicts_file.mpr ⟨l, _, hways.locate.mp hl, he, rfl⟩

/-! ## The workers of a material -/

def texturePath (directory name : Text) : Text := Path.join directory (name ++ ".png")

theorem isElement_of_isFileName {name : Text} (h : isFileName name = true) :
    Path.IsElement (name ++ ".png") := by
  have hparts : name ≠ [] ∧ 0x2f ∉ name := by
    simp only [isFileName, Bool.and_eq_true, Bool.not_eq_true', List.isEmpty_eq_false_iff] at h
    exact ⟨h.1.1.1.1.1, by simpa using h.1.1.2⟩
  have hlength : 5 ≤ (name ++ Text.ofString ".png").length := by
    have hext : (Text.ofString ".png").length = 4 := by decide
    have hname := List.length_pos_iff.mpr hparts.1
    rw [List.length_append, hext]
    omega
  have hshort : ∀ t : Text, t.length ≤ 2 → name ++ Text.ofString ".png" ≠ t := by
    rintro t ht rfl
    omega
  refine ⟨hshort [] (by decide), ?_, hshort _ (by decide), hshort _ (by decide)⟩
  rw [List.mem_append, not_or]
  exact ⟨hparts.2, by decide⟩

variable {directory : Text} {textures : List (Text × TextureSource)}

theorem mem_jobs : job ∈ jobs directory textures ↔
    (job.name, job.source) ∈ textures ∧ job.path = texturePath directory job.name := by
  unfold jobs
  rw [List.mem_map]
  constructor
  · rintro ⟨x, hx, rfl⟩
    exact ⟨List.mem_mergeSort.mp hx, rfl⟩
  · obtain ⟨name, source, path⟩ := job
    intro ⟨hmem, hpath⟩
    dsimp only at hmem hpath
    exact ⟨_, List.mem_mergeSort.mpr hmem, hpath ▸ rfl⟩

theorem length_jobs (directory : Text) (textures : List (Text × TextureSource)) :
    (jobs directory textures).length = textures.length := by
  rw [jobs, List.length_map, List.length_mergeSort]

theorem jobs_perm (directory : Text) (textures : List (Text × TextureSource)) :
    ((jobs directory textures).map fun j => (j.name, j.path)).Perm
      (textures.map fun t => (t.1, texturePath directory t.1)) := by
  rw [jobs, List.map_map]
  exact (List.mergeSort_perm textures _).map _

theorem nodup_jobs (directory : Text) (hnodup : (textures.map Prod.fst).Nodup) :
    ((jobs directory textures).map (·.name)).Nodup := by
  rw [jobs, List.map_map]
  exact ((List.mergeSort_perm textures _).map Prod.fst).nodup_iff.mpr hnodup

theorem parallel_jobs (hdir : directory ≠ [])
    (hnames : ∀ j ∈ jobs directory textures, isFileName j.name = true)
    (hnodup : (textures.map Prod.fst).Nodup) : Parallel (jobs directory textures) := by
  have hpath : ∀ {j}, j ∈ jobs directory textures → j.path = Path.join directory (j.name ++ ".png") :=
    fun hj => (mem_jobs.mp hj).2
  refine ⟨fun j hj => ?_, ?_⟩
  · obtain ⟨before, hbefore⟩ :=
      Path.join_eq_append hdir (isElement_of_isFileName (hnames j hj))
    have hext : (Text.ofString ".png").getLast? = some 0x67 := by decide
    rw [hpath hj, hbefore, ← List.append_assoc, List.getLast?_append, hext, Option.some_or]
    decide
  · refine List.Pairwise.imp_of_mem (R := fun a b => a.name ≠ b.name) ?_
      (List.pairwise_map.mp (nodup_jobs directory hnodup))
    intro a b ha hb hne t l hla hlb
    rw [hpath ha] at hla
    rw [hpath hb] at hlb
    have hlast := (FileTree.locate_join hdir (isElement_of_isFileName (hnames a ha)) hla).symm.trans
      (FileTree.locate_join hdir (isElement_of_isFileName (hnames b hb)) hlb)
    exact hne (List.append_cancel_right (Option.some.inj hlast))

variable {tree : FileTree} {cancelled : Bool} {concurrency : Int} {schedule : List Event}

def pool (made : FileTree) (cancelled : Bool) (directory : Text)
    (textures : List (Text × TextureSource)) : Pool :=
  .start made cancelled (jobs directory textures)

theorem workerLimit_pos (concurrency : Int) {count : Nat} (h : 0 < count) :
    0 < workerLimit concurrency count := by
  unfold workerLimit
  split <;> omega

/-- When nothing fails, every texture has been written by the workers, which began with the directory
made. -/
theorem writeTextures_of_none (hnodup : (textures.map Prod.fst).Nodup)
    (h : (writeTextures tree cancelled directory concurrency textures schedule).failure = none) :
    (writeTextures tree cancelled directory concurrency textures schedule).files.Perm
      (textures.map fun t => (t.1, texturePath directory t.1)) ∧
    (textures ≠ [] → ∃ made, tree.makeDirectories directory = .ok made ∧
      Parallel (jobs directory textures) ∧
      (writeTextures tree cancelled directory concurrency textures schedule).tree =
        ((pool made cancelled directory textures).finish
          (workerLimit concurrency textures.length) schedule).tree ∧
      ((pool made cancelled directory textures).finish
        (workerLimit concurrency textures.length) schedule).failure = none) := by
  unfold writeTextures at h ⊢
  dsimp only at h ⊢
  by_cases hnone : textures = []
  · rw [if_pos (by simpa using hnone), hnone]
    exact ⟨.refl [], fun hne => absurd rfl hne⟩
  · have hempty : ¬ textures.isEmpty = true := by simpa using hnone
    rw [if_neg hempty] at h ⊢
    by_cases hdir : directory = []
    · rw [if_pos (by simpa using hdir)] at h
      cases h
    · have hdir' : ¬ directory.isEmpty = true := by simpa using hdir
      rw [if_neg hdir'] at h ⊢
      cases hbad : (jobs directory textures).find? fun j => !isFileName j.name with
      | some j =>
        rw [hbad] at h
        cases h
      | none =>
        cases hmade : tree.makeDirectories directory with
        | error cause =>
          rw [hbad, hmade] at h
          cases h
        | ok made =>
          rw [hbad, hmade] at h
          dsimp only at h ⊢
          have hnames : ∀ j ∈ jobs directory textures, isFileName j.name = true :=
            fun j hj => by simpa using List.find?_eq_none.mp hbad j hj
          have hlimit := workerLimit_pos concurrency (length_jobs directory textures ▸
            List.length_pos_iff.mpr hnone)
          have hfinish := (Pool.finish_of_none hlimit h).2
          rw [length_jobs] at h hfinish ⊢
          exact ⟨hfinish.trans (jobs_perm directory textures),
            fun _ => ⟨made, rfl, parallel_jobs hdir hnames hnodup, rfl, h⟩⟩

end ShaderGraph.Export
