import ShaderGraph.Export.Textures
import ShaderGraph.Proofs.FileTrees
import Mathlib.Data.List.Basic

/-!
# Workers in any order

What one event can do to a pool of workers is said once, in `Move`: a worker goes on to its next
phase, possibly after one write to its own file, or nothing changes but that the export is called
off. Whatever holds of every pool that events lead to is then shown move by move.
-/
namespace ShaderGraph.Export

/-- What a worker can do: from one phase to another, and what becomes of the files. -/
inductive Act (p : Pool) (job : Job) : Phase → Phase → FileTree → Prop
  | start : Act p job .queued .started p.tree
  | load {image : Image} : loadTexture p.tree p.cancelled job.source = .ok (some image) →
      Act p job .started (.loaded image) p.tree
  | create {image : Image} {tree : FileTree} : p.tree.write job.path (.bytes []) = .ok tree →
      Act p job (.loaded image) (.created image) tree
  | fill {image : Image} {tree : FileTree} : p.tree.write job.path (.picture image) = .ok tree →
      Act p job (.created image) .done tree
  | fail {phase : Phase} : phase.isActive = true → Act p job phase .failed p.tree
  | spoil {image : Image} {left : Text} {tree : FileTree} :
      p.tree.write job.path (.bytes left) = .ok tree → Act p job (.created image) .failed tree

namespace Pool

inductive Move (limit : Nat) (p : Pool) : Pool → Prop
  | idle : Move limit p p
  | cancel : Move limit p { p with cancelled := true }
  | act {before after : List Worker} {job : Job} {old new : Phase} {tree : FileTree}
      {cancelled : Bool} {failure : Option Failure} {bindings : List (Text × Text)} :
      p.workers = before ++ ⟨job, old⟩ :: after → Act p job old new tree →
      (old = .queued → (∀ w ∈ before, w.phase ≠ .queued) ∧
        p.workers.countP (·.phase.isActive) < limit) →
      (failure = none → p.failure = none ∧ new ≠ .failed) →
      bindings = (if new = .done then p.bindings ++ [(job.name, job.path)] else p.bindings) →
      Move limit p ⟨tree, before ++ ⟨job, new⟩ :: after, cancelled, failure, bindings⟩

variable {limit : Nat} {p : Pool} {i : Nat} {job : Job} {phase : Phase}

theorem exists_split (h : p.workers[i]? = some ⟨job, phase⟩) : ∃ before after,
    p.workers = before ++ ⟨job, phase⟩ :: after ∧ p.workers.take i = before ∧
      ∀ new, p.setPhase i new = { p with workers := before ++ ⟨job, new⟩ :: after } := by
  obtain ⟨hi, hget⟩ := List.getElem?_eq_some_iff.mp h
  refine ⟨p.workers.take i, p.workers.drop (i + 1), ?_, rfl, fun new => ?_⟩
  · rw [← hget, List.cons_getElem_drop_succ, List.take_append_drop]
  · rw [setPhase, List.modify_eq_take_cons_drop hi, hget]

theorem move_fail (h : p.workers[i]? = some ⟨job, phase⟩) (hactive : phase.isActive = true)
    (f : Failure) : Move limit p (p.fail i f) := by
  obtain ⟨before, after, hsplit, _, hset⟩ := exists_split h
  rw [fail, hset]
  refine .act hsplit (.fail hactive) ?_ ?_ rfl
  · rintro rfl
    cases hactive
  · intro hnone
    simp at hnone

theorem move_work (limit : Nat) (p : Pool) (i : Nat) : Move limit p (p.work limit i) := by
  unfold work
  split
  · exact .idle
  · rename_i job phase hi
    obtain ⟨before, after, hsplit, hbefore, hset⟩ := exists_split hi
    have hkept : ∀ {new : Phase}, new ≠ .failed → p.failure = none →
        p.failure = none ∧ new ≠ .failed := fun hne hf => ⟨hf, hne⟩
    cases phase with
    | queued =>
      dsimp only
      split
      · rename_i hmay
        rw [hset]
        refine .act hsplit .start (fun _ => ?_) (hkept (by simp)) rfl
        rw [mayStart, hbefore] at hmay
        simpa using hmay
      · exact .idle
    | started =>
      dsimp only
      split
      · exact move_fail hi rfl _
      · exact move_fail hi rfl _
      · rename_i image hload
        rw [hset]
        exact .act hsplit (.load hload) (by simp) (hkept (by simp)) rfl
    | loaded image =>
      dsimp only
      split
      · exact move_fail hi rfl _
      · rename_i tree hwrite
        rw [hset]
        exact .act hsplit (.create hwrite) (by simp) (hkept (by simp)) rfl
    | created image =>
      dsimp only
      split
      · exact move_fail hi rfl _
      · split
        · exact move_fail hi rfl _
        · rename_i tree hwrite
          rw [hset]
          exact .act hsplit (.fill hwrite) (by simp) (hkept (by simp)) rfl
    | done => exact .idle
    | failed => exact .idle

theorem move_breakOff (limit : Nat) (p : Pool) (i : Nat) (reason left : Text) :
    Move limit p (p.breakOff i reason left) := by
  unfold breakOff
  split
  · exact .idle
  · rename_i job phase hi
    obtain ⟨before, after, hsplit, _, hset⟩ := exists_split hi
    cases phase with
    | started => exact move_fail hi rfl _
    | loaded image => exact move_fail hi rfl _
    | created image =>
      dsimp only
      split
      · exact move_fail hi rfl _
      · rename_i tree hwrite
        rw [fail, hset] at hwrite ⊢
        refine .act hsplit (.spoil hwrite) (by simp) (fun hnone => ?_) rfl
        simp at hnone
    | queued => exact .idle
    | done => exact .idle
    | failed => exact .idle

theorem move_step (limit : Nat) (p : Pool) (e : Event) : Move limit p (p.step limit e) := by
  cases e with
  | step i => exact move_work limit p i
  | fault i reason left => exact move_breakOff limit p i reason left
  | cancel => exact .cancel

theorem run_append (p : Pool) (past rest : List Event) :
    p.run limit (past ++ rest) = (p.run limit past).run limit rest :=
  List.foldl_append

theorem run_induction (limit : Nat) (p : Pool) {P : List Event → Prop} (h0 : P [])
    (hstep : ∀ past e, P past → Move limit (p.run limit past) (p.run limit (past ++ [e])) →
      P (past ++ [e])) (events : List Event) : P events := by
  induction events using List.reverseRecOn with
  | nil => exact h0
  | append_singleton past e ih =>
    refine hstep past e ih ?_
    rw [run_append]
    exact move_step limit _ e

/-- What every move keeps of a pool holds of every pool that events lead to. -/
theorem run_invariant (limit : Nat) {P : Pool → Prop} (h0 : P p)
    (hstep : ∀ q q', P q → Move limit q q' → P q') (events : List Event) :
    P (p.run limit events) :=
  run_induction limit p (P := fun events => P (p.run limit events)) h0
    (fun _ _ hq hmove => hstep _ _ hq hmove) events

end Pool

/-! ## Workers only go on -/

/-- How far a worker has come. One that has ended has come all the way. -/
def Phase.rank : Phase → Nat
  | .queued => 0
  | .started => 1
  | .loaded _ => 2
  | .created _ => 3
  | .done | .failed => 4

theorem Phase.rank_eq_zero {phase : Phase} : phase.rank = 0 ↔ phase = .queued := by
  cases phase <;> simp [Phase.rank]

theorem Phase.rank_le (phase : Phase) : phase.rank ≤ 4 := by
  cases phase <;> simp [Phase.rank]

theorem Phase.le_rank {phase : Phase} (hq : phase ≠ .queued) (ha : phase.isActive = false) :
    4 ≤ phase.rank := by
  cases phase <;> simp_all [Phase.rank, Phase.isActive]

theorem Phase.ended_of_rank {phase : Phase} (h : 4 ≤ phase.rank) :
    phase = .done ∨ phase = .failed := by
  cases phase <;> simp [Phase.rank] at h ⊢

theorem Phase.isActive_of_rank {phase : Phase} (h : 4 ≤ phase.rank) : phase.isActive = false := by
  rcases ended_of_rank h with rfl | rfl <;> rfl

theorem Act.rank_lt {p : Pool} {job : Job} {old new : Phase} {tree : FileTree}
    (h : Act p job old new tree) : old.rank < new.rank := by
  cases h with
  | fail hactive => cases old <;> simp [Phase.isActive, Phase.rank] at hactive ⊢
  | _ => simp [Phase.rank]

theorem Act.ne_queued {p : Pool} {job : Job} {old new : Phase} {tree : FileTree}
    (h : Act p job old new tree) : new ≠ .queued := fun hnew =>
  absurd h.rank_lt (by simp [Phase.rank_eq_zero.mpr hnew])

theorem Act.ne_done {p : Pool} {job : Job} {old new : Phase} {tree : FileTree}
    (h : Act p job old new tree) : old ≠ .done := by
  rintro rfl
  exact absurd h.rank_lt (Nat.not_lt.mpr (Phase.rank_le new))

theorem pairwise_replace {α : Type} {R : α → α → Prop} {before after : List α} {a b : α}
    (h : (before ++ a :: after).Pairwise R) (hbefore : ∀ x ∈ before, R x a → R x b)
    (hafter : ∀ x ∈ after, R a x → R b x) : (before ++ b :: after).Pairwise R := by
  obtain ⟨h1, h2, h3⟩ := List.pairwise_append.mp h
  obtain ⟨ha, h2⟩ := List.pairwise_cons.mp h2
  refine List.pairwise_append.mpr ⟨h1, List.pairwise_cons.mpr ⟨?_, h2⟩, fun x hx y hy => ?_⟩
  · exact fun x hx => hafter x hx (ha x hx)
  · rcases List.mem_cons.mp hy with rfl | hy
    · exact hbefore x hx (h3 x hx a List.mem_cons_self)
    · exact h3 x hx y (List.mem_cons_of_mem _ hy)

namespace Pool

variable {limit : Nat} {p q : Pool}

theorem Move.jobs (h : Move limit p q) : q.workers.map (·.job) = p.workers.map (·.job) := by
  cases h with
  | idle => rfl
  | cancel => rfl
  | act hsplit _ _ _ _ => simp [hsplit]

theorem jobs_run (limit : Nat) (p : Pool) (events : List Event) :
    (p.run limit events).workers.map (·.job) = p.workers.map (·.job) :=
  run_invariant limit (P := fun q => q.workers.map (·.job) = p.workers.map (·.job)) rfl
    (fun _ _ hq hmove => hmove.jobs.trans hq) events

theorem jobs_start (tree : FileTree) (cancelled : Bool) (jobs : List Job) :
    (start tree cancelled jobs).workers.map (·.job) = jobs := by
  simp [start, Function.comp_def]

theorem queued_start {tree : FileTree} {cancelled : Bool} {jobs : List Job} {w : Worker}
    (hw : w ∈ (start tree cancelled jobs).workers) : w.phase = .queued := by
  obtain ⟨job, _, rfl⟩ := List.mem_map.mp hw
  rfl

theorem Move.failure_eq_none (h : Move limit p q) (hq : q.failure = none) : p.failure = none := by
  cases h with
  | idle => exact hq
  | cancel => exact hq
  | act _ _ _ hnone _ => exact (hnone hq).1

theorem failure_run {events : List Event} (h : (p.run limit events).failure = none) :
    p.failure = none :=
  run_invariant limit (P := fun q => q.failure = none → p.failure = none) id
    (fun _ _ hq hmove hnone => hq (hmove.failure_eq_none hnone)) events h

def Unbroken (p : Pool) : Prop := p.failure = none → ∀ w ∈ p.workers, w.phase ≠ .failed

theorem unbroken_start (tree : FileTree) (cancelled : Bool) (jobs : List Job) :
    (start tree cancelled jobs).Unbroken := by
  intro _ w hw
  simp [queued_start hw]

theorem Move.unbroken (h : Move limit p q) (hp : p.Unbroken) : q.Unbroken := by
  cases h with
  | idle => exact hp
  | cancel => exact hp
  | act hsplit _ _ hnone _ =>
    intro hfailure w hw
    obtain ⟨hpnone, hnew⟩ := hnone hfailure
    rcases List.mem_append.mp hw with hw | hw
    · exact hp hpnone w (hsplit ▸ List.mem_append_left _ hw)
    · rcases List.mem_cons.mp hw with rfl | hw
      · exact hnew
      · exact hp hpnone w (hsplit ▸ List.mem_append_right _ (List.mem_cons_of_mem _ hw))

def InTurn (p : Pool) : Prop :=
  p.workers.Pairwise fun a b => b.phase ≠ .queued → a.phase ≠ .queued

theorem inTurn_start (tree : FileTree) (cancelled : Bool) (jobs : List Job) :
    (start tree cancelled jobs).InTurn :=
  List.pairwise_of_forall_mem_list fun _ _ _ hb hne => absurd (queued_start hb) hne

theorem Move.inTurn (h : Move limit p q) (hp : p.InTurn) : q.InTurn := by
  cases h with
  | idle => exact hp
  | cancel => exact hp
  | @act before after job old new _ _ _ _ hsplit hact hfirst _ _ =>
    rw [InTurn, hsplit] at hp
    refine pairwise_replace hp (fun x hx hR _ => ?_) (fun x _ _ _ => ?_)
    · by_cases hold : old = .queued
      · exact (hfirst hold).1 x hx
      · exact hR hold
    · exact hact.ne_queued

theorem InTurn.run (hp : p.InTurn) (limit : Nat) (events : List Event) :
    (p.run limit events).InTurn :=
  run_invariant limit hp (fun _ _ hq hmove => hmove.inTurn hq) events

def OneByOne (p : Pool) : Prop :=
  p.workers.Pairwise fun a b => b.phase ≠ .queued → 4 ≤ a.phase.rank

theorem oneByOne_start (tree : FileTree) (cancelled : Bool) (jobs : List Job) :
    (start tree cancelled jobs).OneByOne :=
  List.pairwise_of_forall_mem_list fun _ _ _ hb hne => absurd (queued_start hb) hne

theorem Move.oneByOne (h : Move 1 p q) (hp : p.OneByOne) : q.OneByOne := by
  cases h with
  | idle => exact hp
  | cancel => exact hp
  | @act before after job old new _ _ _ _ hsplit hact hfirst _ _ =>
    rw [OneByOne, hsplit] at hp
    refine pairwise_replace hp (fun x hx hR _ => ?_) (fun x _ hR hx => ?_)
    · by_cases hold : old = .queued
      · -- Those before it have started, and none is at work.
        obtain ⟨hstarted, hcount⟩ := hfirst hold
        have hidle := List.countP_eq_zero.mp (Nat.lt_one_iff.mp hcount) x
          (hsplit ▸ List.mem_append_left _ hx)
        exact Phase.le_rank (hstarted x hx) (by simpa using hidle)
      · exact hR hold
    · have hold : 4 ≤ old.rank := hR hx
      exact hold.trans hact.rank_lt.le

def Tallied (p : Pool) : Prop :=
  p.bindings.Perm ((p.workers.filter (·.phase = .done)).map fun w => (w.job.name, w.job.path))

theorem tallied_start (tree : FileTree) (cancelled : Bool) (jobs : List Job) :
    (start tree cancelled jobs).Tallied := by
  have hnone : (start tree cancelled jobs).workers.filter (·.phase = .done) = [] :=
    List.filter_eq_nil_iff.mpr fun w hw => by simp [queued_start hw]
  rw [Tallied, hnone]
  exact .refl []

theorem Move.tallied (h : Move limit p q) (hp : p.Tallied) : q.Tallied := by
  cases h with
  | idle => exact hp
  | cancel => exact hp
  | @act before after job old new _ _ _ bindings hsplit hact _ _ hbindings =>
    subst hbindings
    unfold Tallied at hp ⊢
    rw [hsplit, List.filter_append, List.filter_cons_of_neg (by simpa using hact.ne_done)] at hp
    by_cases hnew : new = .done
    · rw [if_pos hnew, List.filter_append, List.filter_cons_of_pos (by simpa using hnew),
        List.map_append, List.map_cons]
      rw [List.map_append] at hp
      exact (List.perm_append_singleton _ _).trans
        ((hp.cons _).trans List.perm_middle.symm)
    · rw [if_neg hnew, List.filter_append, List.filter_cons_of_neg (by simpa using hnew)]
      exact hp

/-! ## All workers end -/

def rankAt (p : Pool) (k : Nat) : Nat := (p.workers[k]?.map (·.phase.rank)).getD 4

theorem Move.rankAt_le (h : Move limit p q) (k : Nat) : p.rankAt k ≤ q.rankAt k := by
  cases h with
  | idle => exact le_rfl
  | cancel => exact le_rfl
  | @act before after job old new _ _ _ _ hsplit hact _ _ _ =>
    unfold rankAt
    rw [hsplit]
    rcases Nat.lt_trichotomy k before.length with hk | rfl | hk
    · rw [List.getElem?_append_left hk, List.getElem?_append_left hk]
    · simpa using hact.rank_lt.le
    · obtain ⟨m, rfl⟩ := Nat.exists_eq_add_of_lt hk
      rw [List.getElem?_append_right (by omega), List.getElem?_append_right (by omega),
        show before.length + m + 1 - before.length = m + 1 by omega, List.getElem?_cons_succ,
        List.getElem?_cons_succ]

theorem rankAt_run (p : Pool) (events : List Event) (k : Nat) :
    p.rankAt k ≤ (p.run limit events).rankAt k :=
  run_invariant limit (P := fun q => p.rankAt k ≤ q.rankAt k) le_rfl
    (fun _ _ hle hmove => hle.trans (hmove.rankAt_le k)) events

theorem rankAt_eq {k : Nat} {job : Job} {phase : Phase} (h : p.workers[k]? = some ⟨job, phase⟩) :
    p.rankAt k = phase.rank := by
  simp [rankAt, h]

theorem rankAt_setPhase {k : Nat} {job : Job} {phase : Phase}
    (h : p.workers[k]? = some ⟨job, phase⟩) (new : Phase) :
    (p.setPhase k new).rankAt k = new.rank := by
  simp [rankAt, setPhase, h]

theorem mayStart_of_ended {k : Nat} (hlimit : 0 < limit) (hturn : p.InTurn)
    (hbefore : ∀ i < k, 4 ≤ p.rankAt i) (hk : p.rankAt k = 0) : p.mayStart limit k = true := by
  cases hget : p.workers[k]? with
  | none => simp [rankAt, hget] at hk
  | some w =>
    obtain ⟨job, phase⟩ := w
    rw [rankAt_eq hget, Phase.rank_eq_zero] at hk
    subst hk
    obtain ⟨before, after, hsplit, htake, _⟩ := exists_split hget
    have hended : ∀ w ∈ before, 4 ≤ w.phase.rank := by
      intro w hw
      obtain ⟨i, hi, rfl⟩ := List.getElem_of_mem (htake ▸ hw)
      rw [List.length_take] at hi
      have hrank := hbefore i (by omega)
      rw [rankAt, List.getElem?_eq_getElem (by omega)] at hrank
      simpa [List.getElem_take] using hrank
    have hwaiting : ∀ w ∈ after, w.phase = .queued := by
      intro w hw
      rw [InTurn, hsplit] at hturn
      by_contra hne
      exact (List.pairwise_cons.mp (List.pairwise_append.mp hturn).2.1).1 w hw hne rfl
    have hidle : p.workers.countP (·.phase.isActive) = 0 := by
      rw [hsplit, List.countP_eq_zero]
      intro w hw
      rcases List.mem_append.mp hw with hw | hw
      · simp [Phase.isActive_of_rank (hended w hw)]
      · rcases List.mem_cons.mp hw with rfl | hw
        · simp [Phase.isActive]
        · simp [hwaiting w hw, Phase.isActive]
    rw [mayStart, htake, hidle, Bool.and_eq_true, List.all_eq_true]
    refine ⟨fun w hw => ?_, by simpa using hlimit⟩
    have hne : w.phase ≠ .queued := fun h => by
      have := hended w hw
      rw [h] at this
      exact absurd this (by decide)
    simpa using hne

theorem rankAt_work {k : Nat} (hmay : p.rankAt k = 0 → p.mayStart limit k = true)
    (hopen : p.rankAt k < 4) : p.rankAt k < (p.work limit k).rankAt k := by
  cases hget : p.workers[k]? with
  | none => simp [rankAt, hget] at hopen
  | some w =>
    obtain ⟨job, phase⟩ := w
    have hfail : ∀ f, (p.fail k f).rankAt k = 4 := fun f => rankAt_setPhase hget .failed
    have hset := rankAt_setPhase hget
    rw [rankAt_eq hget] at hmay hopen ⊢
    unfold work
    rw [hget]
    cases phase with
    | queued =>
      rw [if_pos (hmay rfl), hset]
      decide
    | started =>
      dsimp only
      split
      · rw [hfail]; exact hopen
      · rw [hfail]; exact hopen
      · rw [hset]; simp [Phase.rank]
    | loaded image =>
      dsimp only
      split
      · rw [hfail]; exact hopen
      · exact (hset (.created image)).symm ▸ (by simp [Phase.rank])
    | created image =>
      dsimp only
      split
      · rw [hfail]; exact hopen
      · split
        · rw [hfail]; exact hopen
        · exact (hset .done).symm ▸ (by simp [Phase.rank])
    | done => exact absurd hopen (by decide)
    | failed => exact absurd hopen (by decide)

theorem rankAt_replicate {k : Nat} (hlimit : 0 < limit) (hturn : p.InTurn)
    (hbefore : ∀ i < k, 4 ≤ p.rankAt i) (n : Nat) :
    min 4 (p.rankAt k + n) ≤ (p.run limit (List.replicate n (.step k))).rankAt k := by
  induction n generalizing p with
  | zero => exact Nat.min_le_right _ _
  | succ n ih =>
    have hmove := move_work limit p k
    have hnext := ih (hmove.inTurn hturn)
      fun i hi => (hbefore i hi).trans (hmove.rankAt_le i)
    rw [List.replicate_succ, run, List.foldl_cons]
    refine le_trans ?_ hnext
    by_cases hopen : p.rankAt k < 4
    · have hlt := rankAt_work (mayStart_of_ended hlimit hturn hbefore) hopen
      omega
    · have hle := hmove.rankAt_le k
      omega

theorem sequential_succ (k : Nat) :
    sequential (k + 1) = sequential k ++ List.replicate 4 (.step k) := by
  simp [sequential, List.range_succ]

theorem rankAt_sequential (hlimit : 0 < limit) (hturn : p.InTurn) (count : Nat) :
    ∀ i < count, 4 ≤ (p.run limit (sequential count)).rankAt i := by
  induction count with
  | zero => exact fun i hi => absurd hi (Nat.not_lt_zero i)
  | succ k ih =>
    intro i hi
    rw [sequential_succ, run_append]
    rcases Nat.lt_succ_iff_lt_or_eq.mp hi with hi | rfl
    · exact (ih i hi).trans (rankAt_run _ _ i)
    · have hlast := rankAt_replicate hlimit (hturn.run limit (sequential i)) ih 4
      omega

/-- Whatever the schedule, every worker has ended when the pool is finished. -/
theorem ended_finish (hlimit : 0 < limit) (hturn : p.InTurn) (schedule : List Event) :
    ∀ w ∈ (p.finish limit schedule).workers, w.phase = .done ∨ w.phase = .failed := by
  intro w hw
  obtain ⟨i, hi, rfl⟩ := List.getElem_of_mem hw
  have hlength := congrArg List.length (jobs_run limit p (p.events schedule))
  rw [List.length_map, List.length_map] at hlength
  have hrank := rankAt_sequential hlimit (hturn.run limit schedule) p.workers.length i
    (hlength ▸ hi)
  rw [← run_append, ← events, ← finish, rankAt, List.getElem?_eq_getElem hi] at hrank
  exact Phase.ended_of_rank hrank

theorem finish_of_none {tree : FileTree} {cancelled : Bool} {jobs : List Job} (hlimit : 0 < limit)
    {schedule : List Event}
    (h : ((start tree cancelled jobs).finish limit schedule).failure = none) :
    (∀ job ∈ jobs, ⟨job, .done⟩ ∈ ((start tree cancelled jobs).finish limit schedule).workers) ∧
      ((start tree cancelled jobs).finish limit schedule).bindings.Perm
        (jobs.map fun j => (j.name, j.path)) := by
  have hjobs := jobs_run limit (start tree cancelled jobs)
    ((start tree cancelled jobs).events schedule)
  rw [← finish, jobs_start] at hjobs
  have hwhole := run_invariant limit (unbroken_start tree cancelled jobs)
    (fun _ _ hq hmove => hmove.unbroken hq) ((start tree cancelled jobs).events schedule)
  have hdone : ∀ w ∈ ((start tree cancelled jobs).finish limit schedule).workers,
      w.phase = .done := fun w hw =>
    (ended_finish hlimit (inTurn_start tree cancelled jobs) schedule w hw).resolve_right
      (hwhole h w hw)
  refine ⟨fun job hjob => ?_, ?_⟩
  · rw [← hjobs] at hjob
    obtain ⟨w, hw, rfl⟩ := List.mem_map.mp hjob
    rw [← hdone w hw]
    exact hw
  · have htallied := run_invariant limit (tallied_start tree cancelled jobs)
      (fun _ _ hq hmove => hmove.tallied hq) ((start tree cancelled jobs).events schedule)
    rw [← finish, Tallied, List.filter_eq_self.mpr fun w hw => by simpa using hdone w hw] at htallied
    have hfiles := congrArg (List.map fun j : Job => (j.name, j.path)) hjobs
    rw [List.map_map] at hfiles
    exact htallied.trans (.of_eq hfiles)

end Pool
end ShaderGraph.Export
