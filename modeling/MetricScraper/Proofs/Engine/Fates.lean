import MetricScraper.Proofs.Engine.Composites
import MetricScraper.Proofs.Engine.Outcomes

/-!
# Fates of units

How the unit of a scraper came out in one scrape: its collector has come to an end of its own and
the scrape has seen it, or the scrape has given up on it, or it has not been started.  What a scrape
takes for a unit depends on nothing but the fate of the unit, besides its duration.
-/

namespace MetricScraper

/-- How a unit came out in a scrape. -/
inductive Fate where
  /-- Its collector has handed out these samples and come to an end before it was given up. -/
  | ended (samples : List Sample) (ending : Ending Unit)
  /-- The scrape has given up on it. -/
  | late
  /-- So many earlier runs were stalled, and it was not started. -/
  | skipped (stalled : Nat)

namespace Fate

/-- The samples that a unit hands in: all of them when its collector has returned. -/
def samples : Fate → List Sample
  | .ended samples (.done _) => samples
  | .ended samples (.failed _) => samples
  | .ended _ .panicked => []
  | .late => []
  | .skipped _ => []

def error? (elapsed : Duration) : Fate → Option CollectError
  | .ended _ (.done _) => none
  | .ended _ (.failed error) => some error
  | .ended _ .panicked => some .panicked
  | .late => some (.timeout elapsed)
  | .skipped stalled => some (.stalled stalled)

def succeeded (f : Fate) : Bool := (f.error? 0).isNone

/-- What a scrape takes for a unit of this fate. -/
def handover (elapsed : Duration) (f : Fate) : Handover :=
  match f.error? elapsed with
  | none => ⟨f.samples, .ok (), elapsed⟩
  | some error => ⟨f.samples, .error error, elapsed⟩

@[simp] theorem samples_handover (elapsed : Duration) (f : Fate) :
    (f.handover elapsed).samples = f.samples := by
  unfold handover
  split <;> rfl

@[simp] theorem elapsed_handover (elapsed : Duration) (f : Fate) :
    (f.handover elapsed).elapsed = elapsed := by
  unfold handover
  split <;> rfl

theorem error?_eq_none_iff {elapsed : Duration} {f : Fate} :
    f.error? elapsed = none ↔ f.succeeded = true := by
  cases f with
  | ended samples ending => cases ending <;> simp [succeeded, error?]
  | late => simp [succeeded, error?]
  | skipped stalled => simp [succeeded, error?]

@[simp] theorem isOk_handover (elapsed : Duration) (f : Fate) :
    (f.handover elapsed).isOk = f.succeeded := by
  unfold handover
  split
  · rename_i h
    rw [error?_eq_none_iff.mp h]
    rfl
  · rename_i error h
    have hne : f.succeeded ≠ true := fun hs => by simp [error?_eq_none_iff.mpr hs] at h
    rw [Bool.eq_false_iff.mpr hne]
    rfl

theorem handover_ended (samples : List Sample) (ending : Ending Unit) (elapsed : Duration) :
    (Fate.ended samples ending).handover elapsed = .ofEnding samples elapsed ending := by
  cases ending <;> rfl

end Fate

namespace Engine

variable {sc : Scraper} {past : History} {e : State}

/-! ### Ends of runs -/

theorem ofEnding_endingOf (samples : List Sample) (result : Except CollectError Unit)
    (elapsed : Duration) :
    Handover.ofEnding samples elapsed (Collector.endingOf result) = ⟨samples, result, elapsed⟩ := by
  cases result <;> rfl

/-- How the collector of a job has come to its end: what it has handed out, and the end. -/
inductive Job.Ended (isLate : Bool) (elapsed : Duration) :
    Collector → Job → List Sample → Ending Unit → Prop where
  | single {w : Work Unit} {t : Task} {ending : Ending Unit} (he : t.ending? = some ending)
      (hy : w.Yields t.record.samples ending) :
      Ended isLate elapsed (.single w) (.single t) t.record.samples ending
  | group {c : Composite} {g : GroupRun} {runs : List Handover}
      (hruns : g.runs? isLate elapsed = some runs)
      (hs : ∀ (k : Nat) (child : Child), c.children[k]? = some child →
        ∃ ch o, g.children[k]? = some ch ∧ runs[k]? = some o ∧ ch.Settled child isLate elapsed o) :
      Ended isLate elapsed (.composite c) (.group c g) (c.collect runs []).1
        (Collector.endingOf (c.collect runs []).2)

/-- The collector of a run had come to such an end when the run concluded. -/
def Returned (past : History) (n : Nat) (r : Run) (collector : Collector) (samples : List Sample)
    (ending : Ending Unit) (elapsed : Duration) : Prop :=
  ∃ later before s r₁, past = later ++ (s, .conclude n) :: before ∧ s.runs[n]? = some r₁ ∧
    elapsed = s.elapsed r₁ ∧
    r₁.job.Ended (s.isPast r.context.deadline) elapsed collector samples ending ∧
    r.ending = some (.ofEnding samples elapsed ending)

theorem ended_of_conclude? {collector : Collector} {job : Job} (hj : job.Sound collector)
    {isLate : Bool} {elapsed : Duration} {h : Handover}
    (hcon : job.conclude? isLate elapsed = some h) :
    ∃ samples ending, job.Ended isLate elapsed collector samples ending ∧
      h = .ofEnding samples elapsed ending := by
  cases hj with
  | single hfrom =>
    obtain ⟨ending, he, rfl⟩ := Task.handover?_eq_some.mp hcon
    exact ⟨_, ending, .single he (hfrom.yields he), rfl⟩
  | group hg =>
    rw [Job.conclude?, Option.map_eq_some_iff] at hcon
    obtain ⟨runs, hruns, rfl⟩ := hcon
    exact ⟨_, _, .group hruns fun k child hk => settled_of_runs? hg hruns hk,
      (ofEnding_endingOf _ _ _).symm⟩

/-- What a run has handed over is what its collector has handed out up to its end. -/
theorem returned_of_ending (hc : Course sc past e) {n : Nat} {r : Run} {u : String × Collector}
    (hr : e.runs[n]? = some r) (hu : sc.units[r.place]? = some u) {h : Handover}
    (hh : r.ending = some h) :
    ∃ samples ending elapsed, Returned past n r u.2 samples ending elapsed ∧
      h = .ofEnding samples elapsed ending := by
  obtain ⟨later, before, s, r₁, hpast, hr₁, hsound, hcon⟩ := concluded_job hc hr hu hh
  obtain ⟨samples, ending, hended, rfl⟩ := ended_of_conclude? hsound hcon
  exact ⟨samples, ending, s.elapsed r₁, ⟨later, before, s, r₁, hpast, hr₁, rfl, hended, hh⟩, rfl⟩

/-! ### Fates -/

/-- The fate of a unit in a scrape, with the duration that the scrape takes for it. -/
inductive Fares (sc : Scraper) (past : History) (e : State) (s : Scrape) (k : Nat) :
    Fate → Duration → Prop where
  | ended {n : Nat} {r : Run} {u : String × Collector} {samples : List Sample}
      {ending : Ending Unit} {elapsed : Duration} (hx : s.starts[k]? = some (.started n))
      (hg : n ∉ givenUp sc past) (hr : e.runs[n]? = some r) (hu : sc.units[k]? = some u)
      (hret : Returned past n r u.2 samples ending elapsed) :
      Fares sc past e s k (.ended samples ending) elapsed
  | late {n : Nat} (hx : s.starts[k]? = some (.started n)) (hg : n ∈ givenUp sc past)
      (waited : Duration) : Fares sc past e s k .late waited
  | skipped {stalled : Nat} (hx : s.starts[k]? = some (.skipped stalled)) :
      Fares sc past e s k (.skipped stalled) 0

/-- What a scrape has taken for a unit is told by the fate of the unit. -/
theorem fares_of_outcome (hc : Course sc past e) {i k : Nat} {s : Scrape} {o : Handover}
    (hs : e.scrapes[i]? = some s) (ho : s.outcomes[k]? = some o) :
    ∃ f elapsed, Fares sc past e s k f elapsed ∧ o = f.handover elapsed := by
  have hl := linked_of_course hc
  have hlt := (List.getElem?_eq_some_iff.mp ho).1
  have hle := (hl.fits hs).outcomes_le
  obtain ⟨x, hx⟩ : ∃ x, s.starts[k]? = some x := ⟨_, List.getElem?_eq_getElem (by omega)⟩
  cases taken_of_course hc hs hx ho with
  | skipped stalled => exact ⟨.skipped stalled, 0, .skipped hx, rfl⟩
  | late hg waited => exact ⟨.late, waited, .late hx hg waited, rfl⟩
  | @returned n r h hg hr hd hh =>
    obtain ⟨r', hr', -, hk⟩ := hl.run_of_start hs hx
    cases hr.symm.trans hr'
    obtain ⟨u, hu, -⟩ := job_of_course hc hr
    obtain ⟨samples, ending, elapsed, hret, rfl⟩ := returned_of_ending hc hr hu hh
    rw [hk] at hu
    exact ⟨.ended samples ending, elapsed, .ended hx hg hr hu hret,
      (Fate.handover_ended _ _ _).symm⟩

/-- A unit has succeeded in a scrape if its run has returned without an error and has not been
given up. -/
theorem Fares.succeeded_iff {s : Scrape} {k : Nat} {f : Fate} {elapsed : Duration}
    (h : Fares sc past e s k f elapsed) :
    f.succeeded = true ↔ ∃ n r o, s.starts[k]? = some (.started n) ∧ n ∉ givenUp sc past ∧
      e.runs[n]? = some r ∧ r.ending = some o ∧ o.result = .ok () := by
  cases h with
  | @ended n r u samples ending elapsed hx hg hr hu hret =>
    obtain ⟨-, -, -, -, -, -, -, -, hh⟩ := hret
    have hcases : (Fate.ended samples ending).succeeded = true ↔
        (Handover.ofEnding samples elapsed ending).result = .ok () := by
      cases ending <;> simp [Fate.succeeded, Fate.error?, Handover.ofEnding, Handover.failed]
    rw [hcases]
    constructor
    · intro hok
      exact ⟨n, r, _, hx, hg, hr, hh, hok⟩
    · intro hex
      obtain ⟨n', r', o, hx', -, hr', hh', hok⟩ := hex
      cases hx.symm.trans hx'
      cases hr.symm.trans hr'
      cases hh.symm.trans hh'
      exact hok
  | late hx hg waited =>
    simp only [Fate.succeeded, Fate.error?, Option.isNone_some, Bool.false_eq_true, false_iff]
    intro hex
    obtain ⟨n', r', o, hx', hg', -⟩ := hex
    cases hx.symm.trans hx'
    exact hg' hg
  | skipped hx =>
    simp only [Fate.succeeded, Fate.error?, Option.isNone_some, Bool.false_eq_true, false_iff]
    intro hex
    obtain ⟨n', r', o, hx', -⟩ := hex
    cases hx.symm.trans hx'

/-- A unit whose run has returned without an error, and has not been given up, has ended so. -/
theorem Fares.eq_done {s : Scrape} {k n : Nat} {f : Fate} {elapsed waited : Duration} {r : Run}
    {samples : List Sample} (h : Fares sc past e s k f elapsed)
    (hx : s.starts[k]? = some (.started n)) (hg : n ∉ givenUp sc past) (hr : e.runs[n]? = some r)
    (hh : r.ending = some ⟨samples, .ok (), waited⟩) : f = .ended samples (.done ()) := by
  cases h with
  | @ended n' r' u samples' ending elapsed hx' hg' hr' hu hret =>
    cases hx.symm.trans hx'
    cases hr.symm.trans hr'
    obtain ⟨-, -, -, -, -, -, -, -, hh'⟩ := hret
    have hending := Option.some.inj (hh.symm.trans hh')
    cases ending with
    | done result =>
      cases hending
      rfl
    | failed error => cases hending
    | panicked => cases hending
  | late hx' hg' _ =>
    cases hx.symm.trans hx'
    exact absurd hg' hg
  | skipped hx' => cases hx.symm.trans hx'

end Engine

end MetricScraper
