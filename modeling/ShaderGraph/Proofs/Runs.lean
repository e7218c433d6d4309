import ShaderGraph.Blueprint.Loading
import Mathlib.Data.List.Forall2

/-!
# Loading without a report

A step of loading goes on after a report, but it never takes one back. So a sequence of steps that
ends without reports has none on the way, and it can be taken apart into runs of its steps.
-/
namespace ShaderGraph.Blueprint.Load

open Config (Span)

variable {α β : Type} {st st' : Loading}

def Keeps (x : Load α) : Prop := ∀ st, (x st).2.diagnostics = [] → st.diagnostics = []

def Runs (x : Load α) (st : Loading) (a : α) (st' : Loading) : Prop :=
  x st = (.ok a, st') ∧ st'.diagnostics = []

theorem bind_apply (x : Load α) (f : α → Load β) (st : Loading) :
    (x >>= f) st = match x st with
      | (.ok a, st') => f a st'
      | (.error e, st') => (.error e, st') := by
  change (ExceptT.bind x f) st = _
  simp only [ExceptT.bind, ExceptT.mk, bind, StateT.bind]
  rcases x st with ⟨_ | _, st'⟩ <;> rfl

/-! ## Nothing is taken back -/

theorem Keeps.pure (a : α) : Keeps (pure a : Load α) := fun _ h => h

theorem Keeps.bind {x : Load α} {f : α → Load β} (hx : Keeps x) (hf : ∀ a, Keeps (f a)) :
    Keeps (x >>= f) := by
  intro st h
  rw [bind_apply] at h
  have hst := hx st
  rcases hxs : x st with ⟨_ | a, st'⟩ <;> rw [hxs] at h hst
  · exact hst h
  · exact hst (hf a st' h)

theorem Keeps.modify {f : Loading → Loading}
    (hf : ∀ st, (f st).diagnostics = [] → st.diagnostics = []) : Keeps (modify f : Load Unit) :=
  hf

theorem Keeps.get : Keeps (get : Load Loading) := fun _ h => h

theorem Keeps.reportAll (ds : List Diagnostic) : Keeps (reportAll ds) :=
  .modify fun _ h => (List.append_eq_nil_iff.mp h).1

theorem Keeps.report (fault : Fault) (subject : Span) : Keeps (report fault subject) :=
  .modify fun _ h => (List.append_eq_nil_iff.mp h).1

theorem Keeps.reportUnsupported (extra : Extra) : Keeps (reportUnsupported extra) := .reportAll _

theorem Keeps.refuse (fault : Fault) (subject : Span) :
    Keeps (refuse fault subject : Load (Option α)) :=
  .bind (.report fault subject) fun _ => .pure none

theorem Keeps.reported (r : Except (List Diagnostic) α) : Keeps (reported r) := by
  cases r with
  | ok a => exact .pure (some a)
  | error ds => exact .bind (.reportAll ds) fun _ => .pure none

theorem Keeps.perform (act : Build α) : Keeps (perform act) := fun _ h => h

theorem Keeps.settle (name : Text) (outcome : Option NodeId) : Keeps (settle name outcome) :=
  .modify fun _ h => h

theorem Keeps.forM {f : α → Load Unit} (hf : ∀ a, Keeps (f a)) (xs : List α) :
    Keeps (xs.forM f) := by
  induction xs with
  | nil => exact .pure ()
  | cons x xs ih => exact .bind (hf x) fun _ => ih

/-! ## Runs taken apart -/

theorem runs_pure {a b : α} :
    Runs (pure a : Load α) st b st' ↔ a = b ∧ st = st' ∧ st.diagnostics = [] := by
  have happly : (pure a : Load α) st = (.ok a, st) := rfl
  rw [Runs, happly, Prod.mk.injEq, Except.ok.injEq, and_assoc]
  refine and_congr_right fun _ => and_congr_right fun h => ?_
  rw [h]

theorem Runs.bind {x : Load α} {f : α → Load β} {a : α} {b : β} {st'' : Loading}
    (hx : Runs x st a st') (hf : Runs (f a) st' b st'') : Runs (x >>= f) st b st'' := by
  refine ⟨?_, hf.2⟩
  rw [bind_apply, hx.1]
  exact hf.1

theorem runs_bind {x : Load α} {f : α → Load β} {b : β} (hf : ∀ a, Keeps (f a)) :
    Runs (x >>= f) st b st' ↔ ∃ a mid, Runs x st a mid ∧ Runs (f a) mid b st' := by
  constructor
  · rintro ⟨hrun, hclean⟩
    rw [bind_apply] at hrun
    rcases hxs : x st with ⟨_ | a, mid⟩ <;> rw [hxs] at hrun
    · cases (Prod.mk.inj hrun).1
    · have hfrun : f a mid = (.ok b, st') := hrun
      have hkept := hf a mid
      rw [hfrun] at hkept
      exact ⟨a, mid, ⟨hxs, hkept hclean⟩, hfrun, hclean⟩
  · rintro ⟨a, mid, hx, hf⟩
    exact hx.bind hf

theorem runs_get {a : Loading} :
    Runs (get : Load Loading) st a st' ↔ a = st ∧ st = st' ∧ st.diagnostics = [] := by
  have happly : (get : Load Loading) st = (.ok st, st) := rfl
  rw [Runs, happly, Prod.mk.injEq, Except.ok.injEq, and_assoc, eq_comm (a := st) (b := a)]
  refine and_congr_right fun _ => and_congr_right fun h => ?_
  rw [h]

theorem runs_modify {f : Loading → Loading} {u : Unit} :
    Runs (modify f : Load Unit) st u st' ↔ f st = st' ∧ st'.diagnostics = [] := by
  have happly : (modify f : Load Unit) st = (.ok (), f st) := rfl
  rw [Runs, happly, Prod.mk.injEq]
  simp

theorem runs_settle {name : Text} {outcome : Option NodeId} {u : Unit} :
    Runs (settle name outcome) st u st' ↔
      { st with settled := (name, outcome) :: st.settled } = st' ∧ st.diagnostics = [] := by
  rw [settle, runs_modify]
  refine and_congr_right fun h => ?_
  rw [← h]

theorem runs_reportAll {ds : List Diagnostic} {u : Unit} :
    Runs (reportAll ds) st u st' ↔ ds = [] ∧ st = st' ∧ st.diagnostics = [] := by
  rw [reportAll, runs_modify]
  constructor
  · rintro ⟨rfl, hclean⟩
    obtain ⟨hst, rfl⟩ := List.append_eq_nil_iff.mp hclean
    exact ⟨rfl, by simp, hst⟩
  · rintro ⟨rfl, rfl, hst⟩
    exact ⟨by simp, hst⟩

theorem runs_reportUnsupported {extra : Extra} {u : Unit} :
    Runs (reportUnsupported extra) st u st' ↔
      extra.unsupported = [] ∧ st = st' ∧ st.diagnostics = [] := by
  rw [reportUnsupported, runs_reportAll, List.map_eq_nil_iff]

theorem not_runs_report {fault : Fault} {subject : Span} {u : Unit} :
    ¬ Runs (report fault subject) st u st' := by
  rw [report, runs_modify]
  rintro ⟨rfl, hclean⟩
  simp at hclean

theorem not_runs_report_bind {fault : Fault} {subject : Span} {f : Unit → Load β}
    (hf : ∀ u, Keeps (f u)) {b : β} : ¬ Runs (report fault subject >>= f) st b st' := by
  rw [runs_bind hf]
  rintro ⟨u, mid, hreport, _⟩
  exact not_runs_report hreport

theorem not_runs_refuse {fault : Fault} {subject : Span} {o : Option α} :
    ¬ Runs (refuse fault subject) st o st' := not_runs_report_bind fun _ => .pure none

theorem runs_reported {r : Except (List Diagnostic) α} (hr : ∀ ds, r = .error ds → ds ≠ [])
    {o : Option α} :
    Runs (reported r) st o st' ↔ ∃ a, r = .ok a ∧ o = some a ∧ st = st' ∧ st.diagnostics = [] := by
  cases r with
  | ok a =>
    have hok : reported (.ok a : Except (List Diagnostic) α) = pure (some a) := rfl
    rw [hok, runs_pure]
    simp [eq_comm]
  | error ds =>
    have herror : reported (.error ds : Except (List Diagnostic) α) =
      reportAll ds >>= fun _ => pure none := rfl
    rw [herror, runs_bind fun _ => .pure none]
    simp only [runs_reportAll]
    constructor
    · rintro ⟨_, _, ⟨hds, _⟩, _⟩
      exact absurd hds (hr ds rfl)
    · rintro ⟨_, h, _⟩
      cases h

theorem runs_perform {act : Build α} {a : α} :
    Runs (perform act) st a st' ↔ ∃ net, act st.network = (.ok a, net) ∧
      { st with network := net } = st' ∧ st.diagnostics = [] := by
  have happly : perform act st =
    ((act st.network).1, { st with network := (act st.network).2 }) := rfl
  rw [Runs, happly, Prod.mk.injEq]
  constructor
  · rintro ⟨⟨hresult, rfl⟩, hclean⟩
    exact ⟨_, Prod.ext hresult rfl, rfl, hclean⟩
  · rintro ⟨net, hact, rfl, hclean⟩
    rw [hact]
    exact ⟨⟨rfl, rfl⟩, hclean⟩

theorem runs_inspect {f : Network → Except Misuse α} {a : α} :
    Runs (perform (.inspect f)) st a st' ↔
      f st.network = .ok a ∧ st = st' ∧ st.diagnostics = [] := by
  rw [runs_perform]
  constructor
  · rintro ⟨net, hact, hst, hclean⟩
    obtain ⟨hf, rfl⟩ := Prod.mk.inj hact
    exact ⟨hf, hst, hclean⟩
  · rintro ⟨hf, hst, hclean⟩
    exact ⟨st.network, Prod.ext hf rfl, hst, hclean⟩

theorem runs_extend {f : Network → Except Misuse (α × Network)} {a : α} :
    Runs (perform (.extend f)) st a st' ↔ ∃ net, f st.network = .ok (a, net) ∧
      { st with network := net } = st' ∧ st.diagnostics = [] := by
  rw [runs_perform]
  refine exists_congr fun net => and_congr_left fun _ => ?_
  rw [Build.extend]
  cases hf : f st.network with
  | error e => exact ⟨fun h => absurd (Prod.mk.inj h).1 (by simp), fun h => absurd h (by simp)⟩
  | ok r =>
    constructor
    · intro h
      obtain ⟨hresult, hnet⟩ := Prod.mk.inj h
      rw [← Except.ok.inj hresult, ← hnet]
    · intro h
      rw [Except.ok.inj h]

theorem runs_forM_cons {f : α → Load Unit} (hf : ∀ a, Keeps (f a)) {x : α} {xs : List α} {u : Unit} :
    Runs ((x :: xs).forM f) st u st' ↔
      ∃ mid, Runs (f x) st () mid ∧ Runs (xs.forM f) mid () st' := by
  have hcons : (x :: xs).forM f = (f x >>= fun _ => xs.forM f) := rfl
  rw [hcons, runs_bind fun _ => .forM hf xs]
  constructor
  · rintro ⟨_, mid, hx, hxs⟩
    exact ⟨mid, hx, hxs⟩
  · rintro ⟨mid, hx, hxs⟩
    exact ⟨(), mid, hx, hxs⟩

theorem runs_forM_nil {f : α → Load Unit} {u : Unit} :
    Runs ([].forM f) st u st' ↔ st = st' ∧ st.diagnostics = [] := by
  have hnil : ([] : List α).forM f = pure () := rfl
  rw [hnil, runs_pure]
  simp

end ShaderGraph.Blueprint.Load
