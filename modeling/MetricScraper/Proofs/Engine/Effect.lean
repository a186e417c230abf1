import MetricScraper.Engine.Move

/-!
# What moves do

Every move is made under a condition and changes one scrape or one run, besides the clock and the
gates.  `Effect` lists the conditions and the changes, rule by rule, and `step_eq_some_iff` says
that these are the moves that can be made.  Invariants are proved by the rules.
-/

namespace MetricScraper.Engine

/-! ### Jobs -/

/-- What a move changes in the job of a run, rule by rule. -/
inductive JobChange (e : State) (n : Nat) (r : Run) : Move → Job → Prop where
  | work {t t' : Task} {rows : Rows} (hj : r.job = .single t)
      (ht : t.step (e.moment r.context rows) = some t') :
      JobChange e n r (.work n rows) (.single t')
  | childWork {c : Composite} {g : GroupRun} {k : Nat} {ch : ChildRun} {t' : Task} {rows : Rows}
      (hj : r.job = .group c g) (hk : g.children[k]? = some ch)
      (ht : ch.task.step (e.moment r.context rows) = some t') :
      JobChange e n r (.childWork n k rows)
        (.group c { g with children := g.children.set k { ch with task := t' } })
  | send {c : Composite} {g : GroupRun} {k : Nat} {ch : ChildRun} {h : Handover}
      (hj : r.job = .group c g) (hk : g.children[k]? = some ch) (hs : ch.sent = false)
      (hh : ch.task.handover? (e.elapsed r) = some h) :
      JobChange e n r (.send n k)
        (.group c { g with
          children := g.children.set k { ch with sent := true }
          channel := g.channel ++ [(k, h)] })
  | receive {c : Composite} {g : GroupRun} {k : Nat} {h : Handover} {rest : List (Nat × Handover)}
      (hj : r.job = .group c g) (hn : r.ending = none) (hp : g.pending ≠ 0)
      (hc : g.channel = (k, h) :: rest) :
      JobChange e n r (.receive n)
        (.group c { g with
          channel := rest, slots := g.slots.set k (some h), pending := g.pending - 1 })

/-! ### Scrapes and runs -/

/-- What a move changes, rule by rule. -/
inductive Effect (sc : Scraper) (e : State) : Move → State → Prop where
  | pass (time : Duration) : Effect sc e (.pass time) { e with now := e.now + time }
  | openGate (gate : String) :
      Effect sc e (.openGate gate) { e with openGates := gate :: e.openGates }
  | begin (timeout : Option Duration) : Effect sc e (.begin timeout) (e.begin sc timeout)
  | fetched {i : Nat} {s : Scrape} (answer : FetchAnswer) (hs : e.scrapes[i]? = some s)
      (hp : s.phase = .fetching) :
      Effect sc e (.fetched i answer)
        (e.setScrape i { s with
          phase := phaseAfter e.now s.deadline (answer.snapshot? sc.dependencies) })
  | fetchLate {i : Nat} {s : Scrape} (hs : e.scrapes[i]? = some s) (hp : s.phase = .fetching)
      (hd : e.isPast s.deadline = true) :
      Effect sc e (.fetchLate i)
        (e.setScrape i { s with
          phase := phaseAfter e.now s.deadline (some (.failed sc.dependencies .timedOut)) })
  | note {i : Nat} {s : Scrape} {c : Context} (hs : e.scrapes[i]? = some s)
      (hp : s.phase = .collecting c) (hn : s.noted = none)
      (hl : s.starts.length < sc.units.length) :
      Effect sc e (.note i)
        (e.setScrape i { s with noted := some (e.stalled s.starts.length) })
  | skip {i : Nat} {s : Scrape} {c : Context} {stalled : Nat} (hs : e.scrapes[i]? = some s)
      (hp : s.phase = .collecting c) (hn : s.noted = some stalled)
      (hl : s.starts.length < sc.units.length) (h : 0 < stalled) :
      Effect sc e (.launch i)
        (e.setScrape i { s with noted := none, starts := s.starts ++ [.skipped stalled] })
  | launch {i : Nat} {s : Scrape} {c : Context} {u : String × Collector}
      (hs : e.scrapes[i]? = some s) (hp : s.phase = .collecting c) (hn : s.noted = some 0)
      (hu : sc.units[s.starts.length]? = some u) :
      Effect sc e (.launch i)
        { e.setScrape i
            { s with noted := none, starts := s.starts ++ [.started e.runs.length] } with
          runs := e.runs ++
            [⟨i, s.starts.length, c, e.now, .start u.2, none, .running, false⟩] }
  | job {n : Nat} {r : Run} {m : Move} {job : Job} (hr : e.runs[n]? = some r)
      (hj : JobChange e n r m job) : Effect sc e m (e.setRun n { r with job := job })
  | conclude {n : Nat} {r : Run} {h : Handover} (hr : e.runs[n]? = some r) (hn : r.ending = none)
      (hh : r.job.conclude? (e.isPast r.context.deadline) (e.elapsed r) = some h) :
      Effect sc e (.conclude n) (e.setRun n { r with ending := some h })
  /-- The end of a run that its scrape has not given up on. -/
  | finish {n : Nat} {r : Run} (hr : e.runs[n]? = some r) (hn : r.ending ≠ none)
      (hs : r.status = .running) :
      Effect sc e (.release n) (e.setRun n { r with status := .finished })
  /-- The end of a run that its scrape has given up on. -/
  | retire {n : Nat} {r : Run} (hr : e.runs[n]? = some r) (hn : r.ending ≠ none)
      (hs : r.status = .abandoned) :
      Effect sc e (.release n)
        ((e.setRun n { r with status := .finished }).recount r.place (· - 1))
  | deliver {n : Nat} {r : Run} (hr : e.runs[n]? = some r) (hs : r.status = .finished) :
      Effect sc e (.deliver n) (e.setRun n { r with delivered := true })
  | collectSkipped {i : Nat} {s : Scrape} {stalled : Nat} (hs : e.scrapes[i]? = some s)
      (hn : State.nextStart? sc s = some (.skipped stalled)) :
      Effect sc e (.collect i)
        (e.setScrape i
          { s with outcomes := s.outcomes ++ [Handover.failed (.stalled stalled) 0] })
  | collect {i n : Nat} {s : Scrape} {r : Run} {h : Handover} (hs : e.scrapes[i]? = some s)
      (hn : State.nextStart? sc s = some (.started n)) (hr : e.runs[n]? = some r)
      (hd : r.delivered = true) (hh : r.ending = some h) :
      Effect sc e (.collect i) (e.setScrape i { s with outcomes := s.outcomes ++ [h] })
  /-- A scrape gives up on a run that has not ended. -/
  | abandon {i n : Nat} {s : Scrape} {r : Run} (hs : e.scrapes[i]? = some s)
      (hn : State.nextStart? sc s = some (.started n)) (hr : e.runs[n]? = some r)
      (hd : r.delivered = false) (hp : e.isPast (s.deadline.map (· + grace)) = true)
      (hst : r.status = .running) :
      Effect sc e (.giveUp i)
        (((e.setScrape i
            { s with outcomes :=
              s.outcomes ++ [Handover.failed (.timeout (e.elapsed r)) (e.elapsed r)] }).setRun n
            { r with status := .abandoned }).recount r.place (· + 1))
  /-- A scrape gives up on a run that has just ended. -/
  | miss {i n : Nat} {s : Scrape} {r : Run} (hs : e.scrapes[i]? = some s)
      (hn : State.nextStart? sc s = some (.started n)) (hr : e.runs[n]? = some r)
      (hd : r.delivered = false) (hp : e.isPast (s.deadline.map (· + grace)) = true)
      (hst : r.status ≠ .running) :
      Effect sc e (.giveUp i)
        (e.setScrape i
          { s with outcomes :=
            s.outcomes ++ [Handover.failed (.timeout (e.elapsed r)) (e.elapsed r)] })

/-! ### Every move has its effect -/

variable {sc : Scraper} {e e' : State}

theorem effect_of_changeJob {n : Nat} {m : Move} {change : Run → Option Job}
    (hc : ∀ r job, change r = some job → JobChange e n r m job)
    (h : e.changeJob n change = some e') : Effect sc e m e' := by
  simp only [State.changeJob, Option.bind_eq_bind, Option.bind_eq_some_iff] at h
  obtain ⟨r, hr, job, hj, he⟩ := h
  cases he
  exact .job hr (hc r job hj)

theorem jobChange_of_step {n : Nat} {r : Run} {rows : Rows} {job : Job}
    (h : r.job.step (e.moment r.context rows) = some job) :
    JobChange e n r (.work n rows) job := by
  cases hj : r.job with
  | single t =>
    simp only [hj, Job.step, Option.map_eq_some_iff] at h
    obtain ⟨t', ht, rfl⟩ := h
    exact .work hj ht
  | group c g => simp [hj, Job.step] at h

theorem jobChange_of_stepChild {n k : Nat} {r : Run} {rows : Rows} {job : Job}
    (h : r.job.stepChild (e.moment r.context rows) k = some job) :
    JobChange e n r (.childWork n k rows) job := by
  cases hj : r.job with
  | single t => simp [hj, Job.stepChild] at h
  | group c g =>
    simp only [hj, Job.stepChild, Option.bind_eq_bind, Option.bind_eq_some_iff] at h
    obtain ⟨ch, hk, t', ht, he⟩ := h
    cases he
    exact .childWork hj hk ht

theorem jobChange_of_send {n k : Nat} {r : Run} {job : Job}
    (h : r.job.send (e.elapsed r) k = some job) : JobChange e n r (.send n k) job := by
  cases hj : r.job with
  | single t => simp [hj, Job.send] at h
  | group c g =>
    simp only [hj, Job.send, Option.bind_eq_bind, Option.bind_eq_some_iff] at h
    obtain ⟨ch, hk, h⟩ := h
    cases hs : ch.sent with
    | true => simp [hs] at h
    | false =>
      simp only [hs, Bool.false_eq_true, if_false, Option.bind_eq_some_iff] at h
      obtain ⟨o, ho, he⟩ := h
      cases he
      exact .send hj hk hs ho

theorem jobChange_of_receive {n : Nat} {r : Run} {job : Job}
    (h : (if r.ending.isSome then none else r.job.receive) = some job) :
    JobChange e n r (.receive n) job := by
  cases hn : r.ending with
  | some o => simp [hn] at h
  | none =>
    simp only [hn, Option.isSome_none, Bool.false_eq_true, if_false] at h
    cases hj : r.job with
    | single t => simp [hj, Job.receive] at h
    | group c g =>
      simp only [hj, Job.receive] at h
      split at h
      · cases h
      · rename_i hp
        split at h
        · cases h
        · rename_i k o rest hc
          cases h
          exact .receive hj hn hp hc

theorem effect_of_endFetch {i : Nat} {snapshot : Option Snapshot}
    (h : e.endFetch i snapshot = some e') :
    ∃ s, e.scrapes[i]? = some s ∧ s.phase = .fetching ∧
      e' = e.setScrape i { s with phase := phaseAfter e.now s.deadline snapshot } := by
  simp only [State.endFetch, Option.bind_eq_bind, Option.bind_eq_some_iff] at h
  obtain ⟨s, hs, h⟩ := h
  split at h
  · rename_i hp
    cases h
    exact ⟨s, hs, hp, rfl⟩
  · cases h

theorem effect_of_note {i : Nat} (h : e.note sc i = some e') : Effect sc e (.note i) e' := by
  simp only [State.note, Option.bind_eq_bind, Option.bind_eq_some_iff] at h
  obtain ⟨s, hs, h⟩ := h
  split at h
  · rename_i c hp hn
    split at h
    · rename_i hl
      cases h
      exact .note hs hp hn hl
    · cases h
  · cases h

theorem effect_of_launch {i : Nat} (h : e.launch sc i = some e') :
    Effect sc e (.launch i) e' := by
  simp only [State.launch, Option.bind_eq_bind, Option.bind_eq_some_iff] at h
  obtain ⟨s, hs, h⟩ := h
  split at h
  · rename_i c stalled hp hn
    obtain ⟨u, hu, h⟩ := Option.bind_eq_some_iff.mp h
    have hl : s.starts.length < sc.units.length := (List.getElem?_eq_some_iff.mp hu).1
    by_cases hz : 0 < stalled
    · simp only [hz, if_true] at h
      cases h
      exact .skip hs hp hn hl hz
    · have h0 : stalled = 0 := by omega
      subst h0
      simp only [Nat.lt_irrefl, if_false] at h
      cases h
      exact .launch hs hp hn hu
  · cases h

theorem effect_of_collect {i : Nat} (h : e.collect sc i = some e') :
    Effect sc e (.collect i) e' := by
  simp only [State.collect, Option.bind_eq_bind, Option.bind_eq_some_iff] at h
  obtain ⟨s, hs, h⟩ := h
  split at h
  · cases h
  · rename_i stalled hn
    cases h
    exact .collectSkipped hs hn
  · rename_i n hn
    obtain ⟨r, hr, h⟩ := Option.bind_eq_some_iff.mp h
    split at h
    · rename_i hd
      obtain ⟨o, ho, he⟩ := Option.bind_eq_some_iff.mp h
      cases he
      exact .collect hs hn hr hd ho
    · cases h

theorem effect_of_giveUp {i : Nat} (h : e.giveUp sc i = some e') :
    Effect sc e (.giveUp i) e' := by
  simp only [State.giveUp, Option.bind_eq_bind, Option.bind_eq_some_iff] at h
  obtain ⟨s, hs, h⟩ := h
  split at h
  · rename_i n hn
    obtain ⟨r, hr, h⟩ := Option.bind_eq_some_iff.mp h
    split at h
    · simp at h
    · rename_i hg
      simp only [Bool.or_eq_true, Bool.not_eq_true', not_or, Bool.not_eq_true,
        Bool.not_eq_false] at hg
      split at h
      · rename_i hst
        cases h
        exact .abandon hs hn hr hg.1 hg.2 hst
      · rename_i hst
        cases h
        exact .miss hs hn hr hg.1 hg.2 hst
  · cases h

theorem effect_of_release {n : Nat} (h : e.release n = some e') :
    Effect sc e (.release n) e' := by
  simp only [State.release, Option.bind_eq_bind, Option.bind_eq_some_iff] at h
  obtain ⟨r, hr, h⟩ := h
  split at h
  · cases h
  · rename_i hn
    have he : r.ending ≠ none := by simpa using hn
    split at h
    · rename_i hs
      cases h
      exact .finish hr he hs
    · rename_i hs
      cases h
      exact .retire hr he hs
    · cases h

theorem effect_of_step {m : Move} (h : e.step sc m = some e') : Effect sc e m e' := by
  cases m with
  | pass time => cases h; exact .pass time
  | openGate gate => cases h; exact .openGate gate
  | begin timeout => cases h; exact .begin timeout
  | fetched i answer =>
    obtain ⟨s, hs, hp, rfl⟩ := effect_of_endFetch h
    exact .fetched answer hs hp
  | fetchLate i =>
    simp only [State.step, State.fetchLate, Option.bind_eq_bind, Option.bind_eq_some_iff] at h
    obtain ⟨s, hs, h⟩ := h
    split at h
    · rename_i hd
      obtain ⟨s', hs', hp, rfl⟩ := effect_of_endFetch h
      cases hs.symm.trans hs'
      exact .fetchLate hs hp hd
    · cases h
  | note i => exact effect_of_note h
  | launch i => exact effect_of_launch h
  | work n rows => exact effect_of_changeJob (fun _ _ => jobChange_of_step) h
  | childWork n k rows => exact effect_of_changeJob (fun _ _ => jobChange_of_stepChild) h
  | send n k => exact effect_of_changeJob (fun _ _ => jobChange_of_send) h
  | receive n => exact effect_of_changeJob (fun _ _ => jobChange_of_receive) h
  | conclude n =>
    simp only [State.step, State.endJob, Option.bind_eq_bind, Option.bind_eq_some_iff] at h
    obtain ⟨r, hr, h⟩ := h
    cases hn : r.ending with
    | some o => simp [hn] at h
    | none =>
      simp only [hn, Option.isSome_none, Bool.false_eq_true, if_false,
        Option.bind_eq_some_iff] at h
      obtain ⟨o, ho, he⟩ := h
      cases he
      exact .conclude hr hn ho
  | release n => exact effect_of_release h
  | deliver n =>
    simp only [State.step, State.deliver, Option.bind_eq_bind, Option.bind_eq_some_iff] at h
    obtain ⟨r, hr, h⟩ := h
    split at h
    · rename_i hs
      cases h
      exact .deliver hr hs
    · cases h
  | collect i => exact effect_of_collect h
  | giveUp i => exact effect_of_giveUp h

/-! ### Every effect is that of a move -/

theorem step_of_jobChange {n : Nat} {r : Run} {m : Move} {job : Job}
    (hr : e.runs[n]? = some r) (h : JobChange e n r m job) :
    e.step sc m = some (e.setRun n { r with job := job }) := by
  cases h with
  | work hj ht => simp [State.step, State.changeJob, hr, hj, Job.step, ht]
  | childWork hj hk ht => simp [State.step, State.changeJob, hr, hj, Job.stepChild, hk, ht]
  | send hj hk hs hh => simp [State.step, State.changeJob, hr, hj, Job.send, hk, hs, hh]
  | receive hj hn hp hc => simp [State.step, State.changeJob, hr, hj, Job.receive, hn, hp, hc]

theorem step_of_effect {m : Move} (h : Effect sc e m e') : e.step sc m = some e' := by
  cases h with
  | pass time => rfl
  | openGate gate => rfl
  | begin timeout => rfl
  | fetched answer hs hp => simp [State.step, State.endFetch, hs, hp]
  | fetchLate hs hp hd => simp [State.step, State.fetchLate, State.endFetch, hs, hp, hd]
  | note hs hp hn hl => simp [State.step, State.note, hs, hp, hn, hl]
  | skip hs hp hn hl h =>
    simp [State.step, State.launch, hs, hp, hn, List.getElem?_eq_getElem hl, h]
  | launch hs hp hn hu => simp [State.step, State.launch, hs, hp, hn, hu]
  | job hr hj => exact step_of_jobChange hr hj
  | conclude hr hn hh => simp [State.step, State.endJob, hr, hn, hh]
  | finish hr hn hs => simp [State.step, State.release, hr, hn, hs]
  | retire hr hn hs => simp [State.step, State.release, hr, hn, hs]
  | deliver hr hs => simp [State.step, State.deliver, hr, hs]
  | collectSkipped hs hn => simp [State.step, State.collect, hs, hn]
  | collect hs hn hr hd hh => simp [State.step, State.collect, hs, hn, hr, hd, hh]
  | abandon hs hn hr hd hp hst => simp [State.step, State.giveUp, hs, hn, hr, hd, hp, hst]
  | miss hs hn hr hd hp hst => simp [State.step, State.giveUp, hs, hn, hr, hd, hp, hst]

theorem step_eq_some_iff {m : Move} : e.step sc m = some e' ↔ Effect sc e m e' :=
  ⟨effect_of_step, step_of_effect⟩

end MetricScraper.Engine
