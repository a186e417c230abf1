import MetricScraper.Proofs.Engine.Groups
import MetricScraper.Proofs.Engine.Turn

/-!
# Jobs of runs

Every run does the work of its unit, and the move by which its collector has returned is found
among the moves that have been made.
-/

namespace MetricScraper.Engine

/-- A job does what a collector says. -/
inductive Job.Sound : Collector → Job → Prop where
  | single {w : Work Unit} {t : Task} (h : t.From w) : Sound (.single w) (.single t)
  | group {c : Composite} {g : GroupRun} (h : g.Sound c) : Sound (.composite c) (.group c g)

theorem Job.Sound.start (collector : Collector) : (Job.start collector).Sound collector := by
  cases collector with
  | single w => exact .single (Task.from_start w)
  | composite c => exact .group (.start c)

theorem Job.Sound.task {w : Work Unit} {job : Job} (h : job.Sound (.single w)) :
    ∃ t, job = .single t ∧ t.From w := by
  cases h with
  | single h => exact ⟨_, rfl, h⟩

theorem Job.Sound.children {c : Composite} {job : Job} (h : job.Sound (.composite c)) :
    ∃ g, job = .group c g ∧ g.Sound c := by
  cases h with
  | group h => exact ⟨_, rfl, h⟩

variable {sc : Scraper} {past : History} {e e' : State} {m : Move} {n : Nat} {r r' : Run}

theorem JobChange.sound {collector : Collector} {job : Job} (hj : JobChange e n r m job)
    (h : r.job.Sound collector) : job.Sound collector := by
  cases hj with
  | work hj ht =>
    rw [hj] at h
    cases h with
    | single h => exact .single (h.step ht)
  | childWork hj hk ht =>
    rw [hj] at h
    cases h with
    | group h => exact .group (h.childWork hk ht)
  | send hj hk hs ho =>
    rw [hj] at h
    cases h with
    | group h => exact .group (h.send hk hs ho)
  | receive hj hn hp hc =>
    rw [hj] at h
    cases h with
    | group h => exact .group (h.receive hc)

theorem Run.Turn.sound {collector : Collector} (h : r.Turn e n m r')
    (hj : r.job.Sound collector) : r'.job.Sound collector := by
  cases h with
  | job hc => exact hc.sound hj
  | _ => exact hj

theorem job_of_course (hc : Course sc past e) (hr : e.runs[n]? = some r) :
    ∃ u, sc.units[r.place]? = some u ∧ r.job.Sound u.2 := by
  induction hc generalizing r with
  | start => simp [State.initial] at hr
  | next _ h ih =>
    rcases run_turn (effect_of_step h) hr with ⟨r₀, hr₀, hturn⟩ | ⟨-, hfresh⟩
    · obtain ⟨u, hu, hj⟩ := ih hr₀
      exact ⟨u, hturn.place_eq ▸ hu, hturn.sound hj⟩
    · obtain ⟨u, hu, hj⟩ := hfresh.job
      exact ⟨u, hu, hj ▸ .start u.2⟩

/-! ### Collectors that have returned -/

/-- The collector of a run has returned by a move that was made when it could be made. -/
def Concluded (past : History) (n : Nat) (r : Run) (h : Handover) : Prop :=
  ∃ later before s r₁, past = later ++ (s, .conclude n) :: before ∧ s.runs[n]? = some r₁ ∧
    r₁.place = r.place ∧ r₁.context = r.context ∧ r₁.ending = none ∧
    r₁.job.conclude? (s.isPast r.context.deadline) (s.elapsed r₁) = some h

theorem Run.Turn.context_eq (h : r.Turn e n m r') : r'.context = r.context := by
  cases h <;> rfl

theorem concluded_of_course (hc : Course sc past e) (hr : e.runs[n]? = some r) {h : Handover}
    (hh : r.ending = some h) : Concluded past n r h := by
  induction hc generalizing r with
  | start => simp [State.initial] at hr
  | @next past e₀ e₁ m hc hstep ih =>
    rcases run_turn (effect_of_step hstep) hr with ⟨r₀, hr₀, hturn⟩ | ⟨-, hfresh⟩
    · have hkeep : r₀.ending = some h → Concluded ((e₀, m) :: past) n r h := by
        intro hh₀
        obtain ⟨later, before, s, r₁, rfl, hr₁, hp, hctx, hn, hcon⟩ := ih hr₀ hh₀
        rw [← hturn.context_eq] at hctx hcon
        exact ⟨(e₀, m) :: later, before, s, r₁, rfl, hr₁, hp.trans hturn.place_eq.symm, hctx, hn,
          hcon⟩
      -- only the move that concludes the run gives it an ending
      cases hturn with
      | conclude hn hcon =>
        cases hh
        exact ⟨[], past, e₀, r₀, rfl, hr₀, rfl, rfl, hn, hcon⟩
      | _ => exact hkeep hh
    · simp [hfresh.ending] at hh

/-- The job of a run did what its collector says when the collector returned. -/
theorem concluded_job (hc : Course sc past e) (hr : e.runs[n]? = some r) {u : String × Collector}
    (hu : sc.units[r.place]? = some u) {h : Handover} (hh : r.ending = some h) :
    ∃ later before s r₁, past = later ++ (s, .conclude n) :: before ∧ s.runs[n]? = some r₁ ∧
      r₁.job.Sound u.2 ∧
      r₁.job.conclude? (s.isPast r.context.deadline) (s.elapsed r₁) = some h := by
  obtain ⟨later, before, s, r₁, rfl, hr₁, hp, -, -, hcon⟩ := concluded_of_course hc hr hh
  obtain ⟨u', hu', hsound⟩ := job_of_course hc.before hr₁
  rw [hp] at hu'
  cases hu.symm.trans hu'
  exact ⟨later, before, s, r₁, rfl, hr₁, hsound, hcon⟩

end MetricScraper.Engine
