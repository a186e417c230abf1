import MetricScraper.Proofs.Collector.Batch
import MetricScraper.Proofs.Engine.Fetches
import MetricScraper.Proofs.Engine.Outcomes
import MetricScraper.Proofs.Engine.Stalls

/-!
# Prompt units

A unit is prompt in a course if time passes only when its runs are over.  Then its runs see one and
the same time from their start to their end, no scrape gives up on them and none is ever stalled.  A
unit that asks for nothing but rows and the time does in each scrape exactly what its work comes to
by itself, and all that it sees of the fetch is whether the deadline had passed when it ended.
-/

namespace MetricScraper.Engine
open Places

/-- Whether a scrape is done with the unit at a place, but for the outcome. -/
def Scrape.IsOver (s : Scrape) (e : State) (place : Nat) : Prop :=
  ∃ x, s.starts[place]? = some x ∧
    ∀ n, x = .started n → ∃ r, e.runs[n]? = some r ∧ r.delivered = true

/-- A course in which time passes only while the unit at a place is over, no fetch takes longer than
its scrape bears with its runs, and queries are answered as one and the same source says. -/
structure Prompt (place : Nat) (rows : Rows) (past : History) : Prop where
  answers : ∀ {e : State} {n : Nat} {rows' : Rows}, (e, .work n rows') ∈ past → rows' = rows
  fetching : ∀ {e : State} {time : Duration} {i : Nat} {s : Scrape}, (e, .pass time) ∈ past →
    e.scrapes[i]? = some s → s.phase = .fetching →
    State.isPast { e with now := e.now + time } (s.deadline.map (· + grace)) = false
  collecting : ∀ {e : State} {time : Duration} {i : Nat} {s : Scrape} {c : Context},
    (e, .pass time) ∈ past → e.scrapes[i]? = some s → s.phase = .collecting c → s.IsOver e place

/-- Whether the deadline had passed when the fetch came to its end. -/
def Context.isLate (c : Context) : Bool :=
  match c.deadline with
  | some d => d ≤ c.started
  | none => false

/-- What a prompt unit that reads no counters can get in a scrape. -/
def Context.moment (c : Context) (rows : Rows) : Moment where
  table := fun object => .error (.missingObject object)
  rows := rows
  late := if c.isLate then some 0 else none
  isOpen := fun _ => false

/-- What is known of the unit at a place in a course in which it is prompt. -/
structure Timely (sc : Scraper) (place : Nat) (past : History) (e : State) : Prop where
  waiting : ∀ {i : Nat} {s : Scrape}, e.scrapes[i]? = some s → s.phase = .fetching →
    e.isPast (s.deadline.map (· + grace)) = false
  instant : ∀ {i : Nat} {s : Scrape} {c : Context}, e.scrapes[i]? = some s →
    s.phase = .collecting c → s.IsOver e place ∨
      (e.now = c.started ∧ e.isPast (s.deadline.map (· + grace)) = false)
  kept : ∀ {n : Nat} {r : Run}, e.runs[n]? = some r → r.place = place → n ∉ givenUp sc past
  noted : ∀ {i stalled : Nat} {s : Scrape}, e.scrapes[i]? = some s → s.starts.length = place →
    s.noted = some stalled → stalled = 0
  started : ∀ {i : Nat} {s : Scrape} {x : Start}, e.scrapes[i]? = some s →
    s.starts[place]? = some x → ∃ n, x = .started n

variable {sc : Scraper} {past : History} {e e' : State} {m : Move} {place : Nat} {rows : Rows}

theorem Prompt.before {p : State × Move} (h : Prompt place rows (p :: past)) :
    Prompt place rows past where
  answers hm := h.answers (List.mem_cons_of_mem _ hm)
  fetching hm := h.fetching (List.mem_cons_of_mem _ hm)
  collecting hm := h.collecting (List.mem_cons_of_mem _ hm)

theorem of_phaseAfter {now : Duration} {deadline : Option Duration} {snapshot : Option Snapshot}
    {c : Context} (h : phaseAfter now deadline snapshot = .collecting c) :
    c.started = now ∧ c.deadline = deadline := by
  cases snapshot with
  | none => cases h
  | some snapshot =>
    cases h
    exact ⟨rfl, rfl⟩

/-! ### What one move does -/

theorem now_step (h : Effect sc e m e') :
    e'.now = e.now ∨ ∃ time, m = .pass time ∧ e' = { e with now := e.now + time } := by
  cases h with
  | pass time => exact Or.inr ⟨time, rfl, rfl⟩
  | _ => exact Or.inl rfl

theorem isPast_congr (h : e'.now = e.now) (deadline : Option Duration) :
    e'.isPast deadline = e.isPast deadline := by
  simp only [State.isPast, h]

theorem isOver_step (h : Effect sc e m e') {i : Nat} {s t : Scrape} (ht : s.Turn sc e i m t)
    (hs : s.IsOver e place) : t.IsOver e' place := by
  obtain ⟨x, hx, hover⟩ := hs
  refine ⟨x, ht.starts hx, fun n hn => ?_⟩
  obtain ⟨r, hr, hd⟩ := hover n hn
  obtain ⟨r', hr', hturn⟩ := run_stays h hr
  exact ⟨r', hr', delivered_turn hturn hd⟩

theorem Scrape.FetchTurn.deadline_eq {i : Nat} {s t : Scrape} (h : s.FetchTurn sc e i m t) :
    t.deadline = s.deadline := by
  cases h <;> assumption

theorem isPast_begin (timeout : Option Duration) :
    e.isPast ((timeout.map (e.now + ·)).map (· + grace)) = false := by
  cases timeout with
  | none => rfl
  | some time =>
    have hgrace : 0 < grace := by decide
    have hlt : e.now < e.now + time + grace :=
      Nat.lt_of_le_of_lt (Nat.le_add_right _ _) (Nat.lt_add_of_pos_right hgrace)
    simpa only [State.isPast, Option.map_some, decide_eq_false_iff_not, Nat.not_le] using hlt

theorem waiting_step (h : Effect sc e m e') (hp : Prompt place rows ((e, m) :: past))
    (hti : Timely sc place past e) {i : Nat} {t : Scrape} (ht : e'.scrapes[i]? = some t)
    (hf : t.phase = .fetching) : e'.isPast (t.deadline.map (· + grace)) = false := by
  rcases now_step h with hnow | ⟨time, rfl, rfl⟩
  · rw [isPast_congr hnow]
    rcases fetch_turn h ht with ⟨s, hs, hturn⟩ | ⟨rfl, -, timeout, rfl⟩
    · rw [hturn.deadline_eq]
      cases hturn with
      | stays hm hq hd => exact hti.waiting hs (hq.symm.trans hf)
      | ends x hm hq hph hd => exact absurd (hph.symm.trans hf) (phaseAfter_ne_fetching _ _ _)
    · rw [(Option.some.inj (List.getElem?_concat_length.symm.trans ht)).symm]
      exact isPast_begin timeout
  · exact hp.fetching List.mem_cons_self ht hf

theorem instant_step (h : Effect sc e m e') (hp : Prompt place rows ((e, m) :: past))
    (hti : Timely sc place past e) {i : Nat} {t : Scrape} {c : Context}
    (ht : e'.scrapes[i]? = some t) (hc : t.phase = .collecting c) :
    t.IsOver e' place ∨
      (e'.now = c.started ∧ e'.isPast (t.deadline.map (· + grace)) = false) := by
  rcases now_step h with hnow | ⟨time, rfl, rfl⟩
  · rw [isPast_congr hnow, hnow]
    rcases fetch_turn h ht with ⟨s, hs, hturn⟩ | ⟨rfl, -, timeout, rfl⟩
    · rw [hturn.deadline_eq]
      cases hturn with
      | stays hm hq hd =>
        obtain ⟨u, hu, hsturn⟩ := scrape_stays h hs
        cases hu.symm.trans ht
        exact (hti.instant hs (hq.symm.trans hc)).imp_left (isOver_step h hsturn)
      | ends x hm hq hph hd =>
        exact Or.inr ⟨(of_phaseAfter (hph.symm.trans hc)).1.symm, hti.waiting hs hq⟩
    · have hlast := Option.some.inj (List.getElem?_concat_length.symm.trans ht)
      rw [← hlast] at hc ⊢
      dsimp only at hc
      split at hc
      · cases hc
      · exact Or.inr ⟨(of_phaseAfter hc).1.symm, isPast_begin timeout⟩
  · exact Or.inl (hp.collecting (e := e) List.mem_cons_self ht hc)

/-- A run that a scrape gives up on by a move was not over, and the patience of the scrape was. -/
theorem hasty_of_givesUp? (h : Effect sc e m e') {n : Nat} (hm : m.givesUp? sc e = some n) :
    ∃ (i : Nat) (s : Scrape) (r : Run), e.scrapes[i]? = some s ∧
      s.starts[s.outcomes.length]? = some (.started n) ∧ e.runs[n]? = some r ∧ r.delivered = false ∧
      e.isPast (s.deadline.map (· + grace)) = true := by
  obtain ⟨i, s, rfl, hs, hnext⟩ := givesUp?_eq_some hm
  cases h with
  | job hr hj => cases hj
  | abandon hs' hn hr hd hp hst =>
    cases hs.symm.trans hs'
    cases hnext.symm.trans hn
    exact ⟨i, s, _, hs, (nextStart?_eq_some.mp hnext).2, hr, hd, hp⟩
  | miss hs' hn hr hd hp hst =>
    cases hs.symm.trans hs'
    cases hnext.symm.trans hn
    exact ⟨i, s, _, hs, (nextStart?_eq_some.mp hnext).2, hr, hd, hp⟩

theorem kept_step (hc : Course sc past e) (h : Effect sc e m e') (hti : Timely sc place past e)
    {n : Nat} {r : Run} (hr : e'.runs[n]? = some r) (hplace : r.place = place) :
    n ∉ givenUp sc ((e, m) :: past) := by
  have hl := linked_of_course hc
  intro hg
  rcases mem_givenUp_cons.mp hg with hm | hg
  · obtain ⟨i, s, r₀, hs, hx, hr₀, hd, hpast⟩ := hasty_of_givesUp? h hm
    obtain ⟨r₁, hr₁, hi, hk⟩ := hl.run_of_start hs hx
    cases hr₀.symm.trans hr₁
    obtain ⟨r', hr', hturn⟩ := run_stays h hr₀
    cases hr.symm.trans hr'
    rw [hturn.place_eq] at hplace
    obtain ⟨s', hs', hphase⟩ := context_of_course hc hr₀
    rw [hi] at hs'
    cases hs.symm.trans hs'
    -- either the run had been delivered, or the scrape still had patience: both rule this out
    rcases hti.instant hs hphase with ⟨x, hx', hover⟩ | ⟨-, hwait⟩
    · rw [← hplace, hk, hx] at hx'
      obtain ⟨r₂, hr₂, hd₂⟩ := hover n (Option.some.inj hx').symm
      cases hr₀.symm.trans hr₂
      rw [hd] at hd₂
      cases hd₂
    · rw [hpast] at hwait
      cases hwait
  · rcases run_turn h hr with ⟨r₀, hr₀, hturn⟩ | ⟨rfl, -⟩
    · exact hti.kept hr₀ (hturn.place_eq.symm.trans hplace) hg
    · exact ((tally_of_course hc).not_mem (List.getElem?_eq_none (Nat.le_refl _))).1 hg

theorem Timely.stalled (hc : Course sc past e) (hti : Timely sc place past e) :
    e.stalled place = 0 := by
  rw [stalled_eq_countP hc, List.countP_eq_zero]
  intro r hmem hst
  obtain ⟨n, hr⟩ := List.mem_iff_getElem?.mp hmem
  simp only [Run.isStalledAt, Bool.and_eq_true, beq_iff_eq] at hst
  exact hti.kept hr hst.1 (((tally_of_course hc).abandoned_iff hr).mp hst.2).1

theorem noted_step (hc : Course sc past e) (h : Effect sc e m e') (hti : Timely sc place past e)
    {i stalled : Nat} {t : Scrape} (ht : e'.scrapes[i]? = some t)
    (hlen : t.starts.length = place) (hn : t.noted = some stalled) : stalled = 0 := by
  rcases scrape_turn h ht with ⟨s, hs, hturn⟩ | ⟨-, hfresh⟩
  · cases hturn with
    | note hp hl =>
      cases hn
      rw [hlen, hti.stalled hc]
    | start hp hn' hl hx => cases hn
    | _ => exact hti.noted hs hlen hn
  · rw [hfresh.1] at hn
    cases hn

theorem started_step (h : Effect sc e m e') (hti : Timely sc place past e) {i : Nat} {t : Scrape}
    {x : Start} (ht : e'.scrapes[i]? = some t) (hx : t.starts[place]? = some x) :
    ∃ n, x = .started n := by
  rcases scrape_turn h ht with ⟨s, hs, hturn⟩ | ⟨-, hfresh⟩
  · rcases start_cases hturn hx with hx | ⟨-, hlen, stalled, hn, rfl⟩
    · exact hti.started hs hx
    · exact ⟨_, if_pos (hti.noted hs hlen hn)⟩
  · simp [hfresh.2.1] at hx

theorem timely_of_course (hc : Course sc past e) (hp : Prompt place rows past) :
    Timely sc place past e := by
  induction hc with
  | start => constructor <;> intros <;> simp_all [State.initial]
  | next hc h ih =>
    have hti := ih hp.before
    have heff := effect_of_step h
    exact ⟨waiting_step heff hp hti, instant_step heff hp hti, kept_step hc heff hti,
      noted_step hc heff hti, started_step heff hti⟩

/-! ### What the runs do -/

/-- What the work of a unit comes to in a scrape. -/
def Context.result (c : Context) (rows : Rows) (w : Work Unit) : Record × Ending Unit :=
  w.run (fun _ => c.moment rows) Record.empty

/-- A run is on the way to what its work comes to, or has come to it. -/
structure Run.Follows (rows : Rows) (w : Work Unit) (r : Run) : Prop where
  task : ∃ t, r.job = .single t ∧ t.work.Batch ∧
    t.work.run (fun _ => r.context.moment rows) t.record = r.context.result rows w ∧
    (r.ending ≠ none → t.ending? ≠ none)
  handed : ∀ {h : Handover}, r.ending = some h → ∃ elapsed,
    h = .ofEnding (r.context.result rows w).1.samples elapsed (r.context.result rows w).2

theorem step_eq_none_of_ending? {t : Task} (h : t.ending? ≠ none) (moment : Moment) :
    t.step moment = none := by
  obtain ⟨record, work⟩ := t
  cases work <;> first | rfl | exact absurd rfl h

/-- A run that has a step to make is at the very moment at which its collector was given the fetch. -/
theorem late_moment (hc : Course sc past e) (hti : Timely sc place past e) {n : Nat} {r : Run}
    (hr : e.runs[n]? = some r) (hplace : r.place = place) (hopen : r.ending = none) (rows : Rows) :
    (e.moment r.context rows).late = (r.context.moment rows).late := by
  have hl := linked_of_course hc
  obtain ⟨s, hs, hphase⟩ := context_of_course hc hr
  have hnow : e.now = r.context.started := by
    rcases hti.instant hs hphase with ⟨x, hx, hover⟩ | ⟨hnow, -⟩
    · obtain ⟨u, hu, hx'⟩ := hl.start_of_run hr
      cases hs.symm.trans hu
      rw [hplace, hx] at hx'
      obtain ⟨r', hr', hd⟩ := hover n (Option.some.inj hx')
      cases hr.symm.trans hr'
      exact absurd hopen (hl.ending hr (hl.delivered hr hd))
    · exact hnow
  simp only [State.moment, Context.moment, State.isPast, Context.isLate, hnow, Nat.sub_self]
  rfl

theorem follows_start {w : Work Unit} (hw : w.Batch) {r : Run} (hj : r.job = .start (.single w))
    (hn : r.ending = none) : r.Follows rows w :=
  ⟨⟨.start w, hj, hw, rfl, fun h => absurd hn h⟩, fun h => by simp [hn] at h⟩

/-- A step of its job brings a run on towards what its work comes to. -/
theorem follows_job (hc : Course sc past e) (hp : Prompt place rows ((e, m) :: past))
    (hti : Timely sc place past e) {n : Nat} {r : Run} {w : Work Unit} {job : Job}
    (hr : e.runs[n]? = some r) (hplace : r.place = place) (hf : r.Follows rows w)
    (hj : JobChange e n r m job) : ({ r with job := job } : Run).Follows rows w := by
  obtain ⟨⟨t, hjob, hbatch, hrun, hend⟩, hhanded⟩ := hf
  cases hj with
  | @work u t' rows' hj ht =>
    cases hjob.symm.trans hj
    have hrows : rows' = rows := hp.answers List.mem_cons_self
    subst hrows
    -- a task that still steps has not handed out its end, so no time has passed since its launch
    have hopen : r.ending = none := by
      by_contra hne
      rw [step_eq_none_of_ending? (hend hne)] at ht
      cases ht
    have hrows : (e.moment r.context rows').rows = (r.context.moment rows').rows := rfl
    obtain ⟨hbatch', hrun'⟩ := hbatch.step hrows (late_moment hc hti hr hplace hopen rows') ht
    exact ⟨⟨t', rfl, hbatch', hrun'.trans hrun, fun hne => absurd hopen hne⟩, hhanded⟩
  | childWork hj hk ht => cases hjob.symm.trans hj
  | send hj hk hs ho => cases hjob.symm.trans hj
  | receive hj hn hp hc => cases hjob.symm.trans hj

theorem follows_conclude {r : Run} {w : Work Unit} (hf : r.Follows rows w) {isLate : Bool}
    {elapsed : Duration} {h : Handover} (hh : r.job.conclude? isLate elapsed = some h) :
    ({ r with ending := some h } : Run).Follows rows w := by
  obtain ⟨⟨t, hjob, hbatch, hrun, -⟩, -⟩ := hf
  rw [hjob] at hh
  obtain ⟨ending, hend, rfl⟩ := Task.handover?_eq_some.mp hh
  have hresult : r.context.result rows w = (t.record, ending) :=
    hrun.symm.trans (Task.run_of_ending? hend _)
  refine ⟨⟨t, hjob, hbatch, hrun, fun _ => by simp [hend]⟩, fun hh' => ⟨elapsed, ?_⟩⟩
  cases hh'
  rw [hresult]

theorem follows_of_course {u : String × Collector} {w : Work Unit} (hu : sc.units[place]? = some u)
    (hcol : u.2 = .single w) (hw : w.Batch) (hc : Course sc past e) (hp : Prompt place rows past)
    {n : Nat} {r : Run} (hr : e.runs[n]? = some r) (hplace : r.place = place) :
    r.Follows rows w := by
  induction hc generalizing r with
  | start => simp [State.initial] at hr
  | next hc h ih =>
    have hti := timely_of_course hc hp.before
    rcases run_turn (effect_of_step h) hr with ⟨r₀, hr₀, hturn⟩ | ⟨-, hfresh⟩
    · have hplace₀ := hturn.place_eq.symm.trans hplace
      have hf := ih hp.before hr₀ hplace₀
      cases hturn with
      | idle => exact hf
      | job hj => exact follows_job hc hp hti hr₀ hplace₀ hf hj
      | conclude hn hh => exact follows_conclude hf hh
      | finish hn => exact ⟨hf.task, hf.handed⟩
      | abandon i hs => exact ⟨hf.task, hf.handed⟩
      | deliver hs => exact ⟨hf.task, hf.handed⟩
    · obtain ⟨u', hu', hj⟩ := hfresh.job
      rw [hplace] at hu'
      cases hu.symm.trans hu'
      rw [hcol] at hj
      exact follows_start hw hj hfresh.ending

end MetricScraper.Engine
