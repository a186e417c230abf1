import MetricScraper.Proofs.Engine.Fetches

/-!
# Origins of samples

What a run, or a child of a run, has pushed is read off the moves that have been made.  A task has
in its record exactly what has been pushed by its own steps, and it has taken each of them on the
snapshot of the scrape that started its run.  When it has come to an end, it pushes nothing more.
-/

namespace MetricScraper

/-- The samples that a task pushes by its next step. -/
def Task.offers (t : Task) : List Sample :=
  match t.work with
  | .push samples _ => samples
  | _ => []

/-- A task that a work has come to by steps that got their tables from a snapshot. -/
inductive Task.On (snapshot : Snapshot) (w : Work Unit) : Task → Prop where
  | start : On snapshot w (.start w)
  | step {t t' : Task} {m : Moment} (h : On snapshot w t) (hm : m.table = snapshot.table)
      (ht : t.step m = some t') : On snapshot w t'

/-- The work of a collector by itself, or that of one of its children. -/
def Collector.work? : Collector → Option Nat → Option (Work Unit)
  | .single w, none => some w
  | .composite c, some k => (c.children[k]?).map Child.work
  | _, _ => none

theorem Task.samples_step {m : Moment} {t t' : Task} (ht : t.step m = some t') :
    t'.record.samples = t.record.samples ++ t.offers := by
  obtain ⟨record, work⟩ := t
  have hsame : ∀ {r : Record}, r.samples = record.samples → r.samples = record.samples ++ [] :=
    fun h => h.trans (List.append_nil _).symm
  cases work with
  | done result => cases ht
  | fail error => cases ht
  | panic => cases ht
  | push samples rest =>
    cases ht
    rfl
  | log entry rest =>
    cases ht
    exact hsame rfl
  | table object next =>
    simp only [Task.step] at ht
    split at ht <;> (cases ht; exact hsame rfl)
  | rows query next =>
    simp only [Task.step] at ht
    split at ht <;> (cases ht; exact hsame rfl)
  | check rest =>
    simp only [Task.step] at ht
    split at ht <;> (cases ht; exact hsame rfl)
  | await gate rest =>
    simp only [Task.step] at ht
    split at ht
    · cases ht
      exact hsame rfl
    · cases ht

namespace Engine
open Places

/-! ### Origins -/

/-- Who pushes samples: a run by itself, or one of the children of its composite. -/
structure Origin where
  run : Nat
  child : Option Nat
  deriving DecidableEq, Repr, Inhabited

/-- The task of a job by itself, or that of one of its children. -/
def Job.task? : Job → Option Nat → Option Task
  | .single t, none => some t
  | .group _ g, some k => (g.children[k]?).map ChildRun.task
  | _, _ => none

/-- Who takes a step by a move. -/
def Move.stepper? : Move → Option Origin
  | .work n _ => some ⟨n, none⟩
  | .childWork n k _ => some ⟨n, some k⟩
  | _ => none

/-- What an origin pushes by its next step. -/
def State.offers (e : State) (o : Origin) : List Sample :=
  match (e.runs[o.run]?).bind fun r => r.job.task? o.child with
  | some t => t.offers
  | none => []

/-- The samples that an origin pushes by a move. -/
def Move.pushes (e : State) (o : Origin) (m : Move) : List Sample :=
  if m.stepper? = some o then e.offers o else []

/-- The samples that an origin has pushed, the first one first. -/
def pushed (o : Origin) : History → List Sample
  | [] => []
  | (e, m) :: past => pushed o past ++ m.pushes e o

variable {sc : Scraper} {past : History} {e e' : State} {m : Move} {n : Nat} {k : Option Nat}
  {o : Origin} {r r' : Run} {t t' : Task}

theorem pushes_of_ne (h : m.stepper? ≠ some o) : m.pushes e o = [] := if_neg h

theorem pushes_of_task (h : m.stepper? = some o) (hr : e.runs[o.run]? = some r)
    (ht : r.job.task? o.child = some t) : m.pushes e o = t.offers := by
  simp [Move.pushes, h, State.offers, hr, ht]

theorem task?_start (collector : Collector) (k : Option Nat) :
    (Job.start collector).task? k = (collector.work? k).map Task.start := by
  cases collector with
  | single w => cases k <;> rfl
  | composite c =>
    cases k with
    | none => rfl
    | some k => simp [Job.start, Job.task?, GroupRun.start, Collector.work?, Function.comp_def]

/-! ### What a move does to a task -/

/-- What a move does to the task of an origin in a run. -/
inductive Run.TaskTurn (o : Origin) (m : Move) (r r' : Run) : Prop where
  | idle (hm : m.stepper? ≠ some o) (ht : r'.job.task? o.child = r.job.task? o.child)
  | step {t t' : Task} {moment : Moment} (hm : m.stepper? = some o)
      (ht : r.job.task? o.child = some t) (ht' : r'.job.task? o.child = some t')
      (htable : moment.table = r.context.snapshot.table) (hstep : t.step moment = some t')

theorem JobChange.run_eq {job : Job} (h : JobChange e n r m job) (hm : m.stepper? = some o) :
    n = o.run := by
  cases h <;> cases hm <;> rfl

theorem JobChange.taskTurn {job : Job} (h : JobChange e n r m job) (k : Option Nat) :
    r.TaskTurn ⟨n, k⟩ m { r with job := job } := by
  cases h with
  | @work t t' rows hj ht =>
    cases k with
    | none => exact .step rfl (by rw [hj]; rfl) rfl rfl ht
    | some k => exact .idle (by simp [Move.stepper?]) (by rw [hj]; rfl)
  | @childWork c g j ch t' rows hj hk ht =>
    cases k with
    | none => exact .idle (by simp [Move.stepper?]) (by rw [hj]; rfl)
    | some k =>
      by_cases hjk : j = k
      · subst hjk
        have hset := getElem?_set_self { ch with task := t' } hk
        exact .step rfl (by simp [hj, Job.task?, hk]) (by simp [Job.task?, hset]) rfl ht
      · exact .idle (by simpa [Move.stepper?] using hjk)
          (by simp [hj, Job.task?, List.getElem?_set_ne hjk])
  | @send c g j ch h hj hk hs hh =>
    refine .idle (by simp [Move.stepper?]) ?_
    cases k with
    | none => rw [hj]; rfl
    | some k =>
      by_cases hjk : j = k
      · subst hjk
        have hset := getElem?_set_self { ch with sent := true } hk
        simp [hj, Job.task?, hk, hset]
      · simp [hj, Job.task?, List.getElem?_set_ne hjk]
  | receive hj hn hp hc =>
    refine .idle (by simp [Move.stepper?]) ?_
    rw [hj]
    cases k <;> rfl

/-- A step of an origin is a change of the job of its run. -/
theorem jobChange_of_stepper? (h : Effect sc e m e') (hm : m.stepper? = some o) :
    ∃ r job, e.runs[o.run]? = some r ∧ JobChange e o.run r m job ∧
      e' = e.setRun o.run { r with job := job } := by
  cases h with
  | job hr hj =>
    obtain rfl := hj.run_eq hm
    exact ⟨_, _, hr, hj, rfl⟩
  | _ => cases hm

theorem task_turn (h : Effect sc e m e') (hr : e.runs[o.run]? = some r)
    (hr' : e'.runs[o.run]? = some r') : r.TaskTurn o m r' := by
  by_cases hm : m.stepper? = some o
  · obtain ⟨r₀, job, hr₀, hj, rfl⟩ := jobChange_of_stepper? h hm
    cases hr.symm.trans hr₀
    cases hr'.symm.trans (getElem?_set_self _ hr)
    exact hj.taskTurn o.child
  · rcases run_turn h hr' with ⟨r₀, hr₀, hturn⟩ | ⟨hlen, -⟩
    · cases hr.symm.trans hr₀
      cases hturn with
      | job hj =>
        cases hj.taskTurn o.child with
        | idle hm' ht => exact .idle hm ht
        | step hm' ht ht' htable hstep => exact absurd hm' hm
      | _ => exact .idle hm rfl
    · have hlt := (List.getElem?_eq_some_iff.mp hr).1
      omega

/-! ### What a task has done -/

theorem pushed_eq_nil (hc : Course sc past e) (h : e.runs.length ≤ o.run) : pushed o past = [] := by
  induction hc with
  | start => rfl
  | @next past e e' m hc hstep ih =>
    have hle := runs_length_le (effect_of_step hstep)
    have hnone : e.runs[o.run]? = none := List.getElem?_eq_none (by omega)
    rw [pushed, ih (by omega), List.nil_append, Move.pushes]
    split
    · simp [State.offers, hnone]
    · rfl

/-- A task has been started by its unit, has in its record what it has pushed, and has worked on
the snapshot that its run was given. -/
structure Run.Did (sc : Scraper) (past : History) (o : Origin) (r : Run) (t : Task) : Prop where
  pushed_eq : t.record.samples = pushed o past
  work : ∃ u w, sc.units[r.place]? = some u ∧ u.2.work? o.child = some w ∧
    t.On r.context.snapshot w

theorem did_step (hturn : r.TaskTurn o m r') (hplace : r'.place = r.place)
    (hctx : r'.context = r.context) (hr : e.runs[o.run]? = some r)
    (hdid : ∀ t, r.job.task? o.child = some t → r.Did sc past o t)
    (ht : r'.job.task? o.child = some t') : r'.Did sc ((e, m) :: past) o t' := by
  cases hturn with
  | idle hm heq =>
    obtain ⟨hpushed, hwork⟩ := hdid t' (heq.symm.trans ht)
    refine ⟨?_, hplace ▸ hctx ▸ hwork⟩
    rw [pushed, pushes_of_ne hm, List.append_nil]
    exact hpushed
  | @step t t₁ moment hm ht₀ ht₁ htable hstep =>
    cases ht.symm.trans ht₁
    obtain ⟨hpushed, u, w, hu, hw, hon⟩ := hdid t ht₀
    refine ⟨?_, u, w, hplace ▸ hu, hw, hctx ▸ hon.step htable hstep⟩
    rw [pushed, pushes_of_task hm hr ht₀, ← hpushed]
    exact Task.samples_step hstep

theorem did_of_course (hc : Course sc past e) (hr : e.runs[o.run]? = some r)
    (ht : r.job.task? o.child = some t) : r.Did sc past o t := by
  induction hc generalizing r t with
  | start => simp [State.initial] at hr
  | @next past e e' m hc h ih =>
    have heff := effect_of_step h
    rcases run_turn heff hr with ⟨r₀, hr₀, hturn⟩ | ⟨hlen, hfresh⟩
    · exact did_step (task_turn heff hr₀ hr) hturn.place_eq hturn.context_eq hr₀
        (fun _ => ih hr₀) ht
    · -- a task that is started now has pushed nothing, and nor has anyone under its name
      obtain ⟨u, hu, hj⟩ := hfresh.job
      obtain ⟨s, rfl, -⟩ := hfresh.launch
      rw [hj, task?_start, Option.map_eq_some_iff] at ht
      obtain ⟨w, hw, rfl⟩ := ht
      refine ⟨?_, u, w, hu, hw, .start⟩
      rw [pushed, pushed_eq_nil hc (Nat.le_of_eq hlen), pushes_of_ne (by simp [Move.stepper?])]
      rfl

/-! ### Tasks that have ended -/

theorem task_lasts_step (h : Effect sc e m e') (hr : e.runs[o.run]? = some r)
    (ht : r.job.task? o.child = some t) (hend : t.ending? ≠ none) :
    ∃ r', e'.runs[o.run]? = some r' ∧ r'.job.task? o.child = some t := by
  obtain ⟨r', hr', -⟩ := run_stays h hr
  refine ⟨r', hr', ?_⟩
  cases task_turn h hr hr' with
  | idle hm heq => exact heq.trans ht
  | @step t₀ t₁ moment hm ht₀ ht₁ htable hstep =>
    cases ht.symm.trans ht₀
    obtain ⟨ending, hend⟩ := Option.ne_none_iff_exists'.mp hend
    simp [Task.step_eq_none hend] at hstep

/-- A task that has come to an end stays as it is. -/
theorem task_lasts {later before : History} {s : State}
    (hc : Course sc (later ++ (s, m) :: before) e) (hr : s.runs[o.run]? = some r)
    (ht : r.job.task? o.child = some t) (hend : t.ending? ≠ none) :
    ∃ r', e.runs[o.run]? = some r' ∧ r'.job.task? o.child = some t := by
  refine hc.lasts (P := fun e => ∃ r', e.runs[o.run]? = some r' ∧ r'.job.task? o.child = some t)
    ?_ ⟨r, hr, ht⟩
  intro past e e' m hc h hex
  obtain ⟨r₀, hr₀, ht₀⟩ := hex
  exact task_lasts_step h hr₀ ht₀ hend

end Engine

end MetricScraper
