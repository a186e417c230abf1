import MetricScraper.Proofs.Collector.Keeping
import MetricScraper.Proofs.Engine.Origins

/-!
# What tasks keep in a course

A run takes its steps at moments that are made of its snapshot, the rows that the move brings and
the clock.  So what a work keeps at such moments, the samples have that its task has pushed, at any
time and whatever else is going on.
-/

namespace MetricScraper.Engine
open Places

/-- The rows that queries are answered with at a move. -/
def Move.rows? : Move → Option Rows
  | .work _ rows => some rows
  | .childWork _ _ rows => some rows
  | _ => none

variable {sc : Scraper} {past : History} {e : State} {m : Move} {o : Origin} {r : Run} {t : Task}
  {u : String × Collector} {w : Work Unit} {P : Moment → Prop} {Q : List Sample → Prop}

theorem JobChange.task_step {job : Job} (h : JobChange e o.run r m job)
    (hm : m.stepper? = some o) :
    ∃ t t' rows, r.job.task? o.child = some t ∧ job.task? o.child = some t' ∧
      m.rows? = some rows ∧ t.step (e.moment r.context rows) = some t' := by
  obtain ⟨n, k⟩ := o
  cases h with
  | work hj ht =>
    cases hm
    exact ⟨_, _, _, by rw [hj]; rfl, rfl, rfl, ht⟩
  | @childWork c g j ch t' rows hj hk ht =>
    cases hm
    have hset := getElem?_set_self { ch with task := t' } hk
    exact ⟨_, _, _, by simp [hj, Job.task?, hk], by simp [Job.task?, hset], rfl, ht⟩
  | send hj hk hs hh => cases hm
  | receive hj hn hp hc => cases hm

/-- A task keeps what its work keeps at the moments of its run. -/
theorem keeps_of_course (hc : Course sc past e) (hr : e.runs[o.run]? = some r)
    (ht : r.job.task? o.child = some t) (hu : sc.units[r.place]? = some u)
    (hw : u.2.work? o.child = some w) (hkeeps : w.Keeps P Q []) (hnil : Q [])
    (hP : ∀ p ∈ past, ∀ rows, p.2.rows? = some rows → P (p.1.moment r.context rows)) :
    t.Keeps P Q := by
  -- the last move is a step of this task, or has left it as it was, or has started it
  induction hc generalizing r t with
  | start => simp [State.initial] at hr
  | @next past e e' m hc h ih =>
    have heff := effect_of_step h
    rcases run_turn heff hr with ⟨r₀, hr₀, hturn⟩ | ⟨-, hfresh⟩
    · have hold : ∀ {t₀ : Task}, r₀.job.task? o.child = some t₀ → t₀.Keeps P Q := by
        intro t₀ ht₀
        refine ih hr₀ ht₀ (hturn.place_eq ▸ hu) fun p hp rows hrows => ?_
        rw [← hturn.context_eq]
        exact hP p (List.mem_cons_of_mem _ hp) rows hrows
      cases task_turn heff hr₀ hr with
      | idle hm heq => exact hold (heq.symm.trans ht)
      | step hm =>
        obtain ⟨r₁, job, hr₁, hj, rfl⟩ := jobChange_of_stepper? heff hm
        cases hr₀.symm.trans hr₁
        cases hr.symm.trans (getElem?_set_self _ hr₀)
        obtain ⟨t₀, t₁, rows, ht₀, ht₁, hrows, hstep⟩ := hj.task_step hm
        cases ht.symm.trans ht₁
        exact (hold ht₀).step (hP _ List.mem_cons_self rows hrows) hstep
    · -- a task that is started now has done nothing yet
      obtain ⟨u', hu', hj⟩ := hfresh.job
      cases hu.symm.trans hu'
      rw [hj, task?_start, hw, Option.map_some, Option.some.injEq] at ht
      subst ht
      exact ⟨hnil, hkeeps⟩

theorem exists_task (hc : Course sc past e) (hr : e.runs[o.run]? = some r)
    (hu : sc.units[r.place]? = some u) (hw : u.2.work? o.child = some w) :
    ∃ t, r.job.task? o.child = some t := by
  obtain ⟨u', hu', hsound⟩ := job_of_course hc hr
  cases hu.symm.trans hu'
  obtain ⟨n, k⟩ := o
  obtain ⟨name, collector⟩ := u
  cases collector with
  | single w' =>
    obtain ⟨t, hj, -⟩ := hsound.task
    cases k with
    | none => exact ⟨t, by rw [hj]; rfl⟩
    | some k => cases hw
  | composite c =>
    obtain ⟨g, hj, hg⟩ := hsound.children
    cases k with
    | none => cases hw
    | some k =>
      obtain ⟨child, hchild, -⟩ := Option.map_eq_some_iff.mp hw
      have hlt := (List.getElem?_eq_some_iff.mp hchild).1
      have hlen := hg.children_length
      obtain ⟨ch, hch⟩ : ∃ ch, g.children[k]? = some ch := ⟨_, List.getElem?_eq_getElem (by omega)⟩
      exact ⟨ch.task, by simp [hj, Job.task?, hch]⟩

/-- Of everything that an origin has pushed up to now holds what its work keeps. -/
theorem pushed_of_keeps (hc : Course sc past e) (hr : e.runs[o.run]? = some r)
    (hu : sc.units[r.place]? = some u) (hw : u.2.work? o.child = some w)
    (hkeeps : w.Keeps P Q []) (hnil : Q [])
    (hP : ∀ p ∈ past, ∀ rows, p.2.rows? = some rows → P (p.1.moment r.context rows)) :
    Q (pushed o past) := by
  obtain ⟨t, ht⟩ := exists_task hc hr hu hw
  rw [← (did_of_course hc hr ht).pushed_eq]
  exact (keeps_of_course hc hr ht hu hw hkeeps hnil hP).samples

end MetricScraper.Engine
