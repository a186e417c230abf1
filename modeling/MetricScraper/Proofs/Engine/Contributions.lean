import MetricScraper.Proofs.Engine.Origins
import MetricScraper.Proofs.Engine.Reports
import MetricScraper.Engine.Playout

/-!
# What runs contribute to reports

A report has of a unit what the run has pushed that its own scrape has started for the unit, all of
it and nothing else.  A run that has been given up contributes nothing, however much it pushes
afterwards, and nor does a child that its composite has not waited for.
-/

namespace MetricScraper

/-- The figures of all units, as the outcomes of a report have them. -/
def Report.figures (sc : Scraper) (report : Report) : List Sample :=
  (sc.units.zip report.outcomes).flatMap fun (u, o) =>
    metaSamples sc.duration sc.success u.1 o.duration o.success

namespace Engine
open Places

/-! ### Contributions -/

/-- What a composite hands in of a child, and whether the child has succeeded, by what the child was
doing when the composite returned. -/
inductive ChildRun.Gives (past : History) (o : Origin) (snapshot : Snapshot) (w : Work Unit)
    (ch : ChildRun) : List Sample → Bool → Prop where
  | success (hs : ch.sent = true) (he : ch.task.ending? = some (.done ()))
      (hon : ch.task.On snapshot w) : Gives past o snapshot w ch (pushed o past) true
  | failure {ending : Ending Unit} (hs : ch.sent = true) (he : ch.task.ending? = some ending)
      (hne : ending ≠ .done ()) : Gives past o snapshot w ch [] false
  | unsent (hs : ch.sent = false) : Gives past o snapshot w ch [] false

/-- A run that a scrape has started for a unit, and that has been given what the scrape has got. -/
structure Run.Serves (i k : Nat) (c : Context) (r : Run) : Prop where
  scrape : r.scrape = i
  place : r.place = k
  context : r.context = c

/-- What a unit contributes to the report of a scrape, by how the scrape has started it. -/
inductive Start.Contributes (sc : Scraper) (past : History) (e : State) (i k : Nat) (c : Context) :
    Start → List Sample → Prop where
  | skipped (stalled : Nat) : Contributes sc past e i k c (.skipped stalled) []
  | late {n : Nat} (hg : n ∈ givenUp sc past) : Contributes sc past e i k c (.started n) []
  | single {n : Nat} {r : Run} {name : String} {w : Work Unit} {t : Task} {ending : Ending Unit}
      (hg : n ∉ givenUp sc past) (hr : e.runs[n]? = some r) (hserves : r.Serves i k c)
      (hu : sc.units[k]? = some (name, .single w)) (hj : r.job = .single t)
      (he : t.ending? = some ending) (hne : ending ≠ .panicked) (hon : t.On c.snapshot w) :
      Contributes sc past e i k c (.started n) (pushed ⟨n, none⟩ past)
  | panicked {n : Nat} {r : Run} {t : Task} (hg : n ∉ givenUp sc past) (hr : e.runs[n]? = some r)
      (hserves : r.Serves i k c) (hj : r.job = .single t) (he : t.ending? = some .panicked) :
      Contributes sc past e i k c (.started n) []
  | composite {n : Nat} {r : Run} {name : String} {comp : Composite} {s₁ : State} {r₁ : Run}
      {g : GroupRun} {parts : List Part} (hg : n ∉ givenUp sc past) (hr : e.runs[n]? = some r)
      (hserves : r.Serves i k c) (hu : sc.units[k]? = some (name, .composite comp))
      (hm : (s₁, .conclude n) ∈ past) (hr₁ : s₁.runs[n]? = some r₁) (hj : r₁.job = .group comp g)
      (hlen : parts.length = comp.children.length)
      (hparts : ∀ (j : Nat) (child : Child), comp.children[j]? = some child →
        ∃ ch out succeeded elapsed, g.children[j]? = some ch ∧
          ch.Gives past ⟨n, some j⟩ c.snapshot child.work out succeeded ∧
          parts[j]? = some
            (.ofRun comp.duration comp.success child.name out elapsed succeeded)) :
      Contributes sc past e i k c (.started n) (parts.flatMap fun p => p.samples ++ p.figures)

/-! ### What has been handed in -/

variable {sc : Scraper} {past : History} {e : State} {i k n : Nat} {s : Scrape} {r : Run}
  {c : Context}

/-- A run of a scrape has been given what the scrape has got. -/
theorem serves_of_start (hc : Course sc past e) (hs : e.scrapes[i]? = some s)
    (hphase : s.phase = .collecting c) (hx : s.starts[k]? = some (.started n))
    (hr : e.runs[n]? = some r) : r.Serves i k c := by
  obtain ⟨r', hr', hi, hk⟩ := (linked_of_course hc).run_of_start hs hx
  cases hr.symm.trans hr'
  obtain ⟨s', hs', hphase'⟩ := context_of_course hc hr
  rw [hi] at hs'
  cases hs.symm.trans hs'
  cases hphase.symm.trans hphase'
  exact ⟨hi, hk, rfl⟩

/-- A task that has come to an end has all that its origin has ever pushed, and has worked for its
unit on the snapshot of its run. -/
theorem ended_task {o : Origin} {later before : History} {s₁ : State} {m : Move} {r₁ : Run}
    {t : Task} {u : String × Collector} (hc : Course sc (later ++ (s₁, m) :: before) e)
    (hr : e.runs[o.run]? = some r) (hu : sc.units[r.place]? = some u)
    (hr₁ : s₁.runs[o.run]? = some r₁) (ht : r₁.job.task? o.child = some t)
    (hend : t.ending? ≠ none) :
    r.job.task? o.child = some t ∧ t.record.samples = pushed o (later ++ (s₁, m) :: before) ∧
      ∃ w, u.2.work? o.child = some w ∧ t.On r.context.snapshot w := by
  obtain ⟨r', hr', ht'⟩ := task_lasts hc hr₁ ht hend
  cases hr.symm.trans hr'
  obtain ⟨hpushed, u', w, hu', hw, hon⟩ := did_of_course hc hr ht'
  cases hu.symm.trans hu'
  exact ⟨ht', hpushed, w, hw, hon⟩

/-- A child that its composite has settled gives all that it has ever pushed, or nothing. -/
theorem gives_of_settled {later before : History} {s₁ : State} {m : Move} {r₁ : Run}
    {name : String} {comp : Composite} {g : GroupRun} {j : Nat} {child : Child} {ch : ChildRun}
    {late : Bool} {waited : Duration} {h : Handover}
    (hc : Course sc (later ++ (s₁, m) :: before) e) (hr : e.runs[n]? = some r)
    (hu : sc.units[r.place]? = some (name, .composite comp)) (hr₁ : s₁.runs[n]? = some r₁)
    (hj : r₁.job = .group comp g) (hchild : comp.children[j]? = some child)
    (hch : g.children[j]? = some ch) (hsettled : ch.Settled child late waited h) :
    ch.Gives (later ++ (s₁, m) :: before) ⟨n, some j⟩ r.context.snapshot child.work
      (if h.isOk then h.samples else []) h.isOk := by
  cases hsettled with
  | missed hs hl => exact .unsent hs
  | @received ending hs he hy elapsed =>
    cases ending with
    | failed error => exact .failure hs he nofun
    | panicked => exact .failure hs he nofun
    | done result =>
      have htask : r₁.job.task? (some j) = some ch.task := by simp [hj, Job.task?, hch]
      obtain ⟨-, hpushed, w, hw, hon⟩ :=
        ended_task (o := ⟨n, some j⟩) hc hr hu hr₁ htask (by simp [he])
      rw [Collector.work?, hchild, Option.map_some, Option.some.injEq] at hw
      subst hw
      rw [Handover.ofEnding, Handover.isOk, if_pos rfl, hpushed]
      exact .success hs he hon

theorem contributes_of_returned (hc : Course sc past e) (hs : e.scrapes[i]? = some s)
    (hphase : s.phase = .collecting c) (hx : s.starts[k]? = some (.started n))
    (hg : n ∉ givenUp sc past) (hr : e.runs[n]? = some r) {u : String × Collector}
    (hu : sc.units[k]? = some u) {samples : List Sample} {ending : Ending Unit}
    {elapsed : Duration} (hret : Returned past n r u.2 samples ending elapsed) :
    (Start.started n).Contributes sc past e i k c (Fate.ended samples ending).samples := by
  have hserves := serves_of_start hc hs hphase hx hr
  obtain ⟨name, collector⟩ := u
  have hplace : sc.units[r.place]? = some (name, collector) := hserves.place ▸ hu
  obtain ⟨later, before, s₁, r₁, rfl, hr₁, -, hended, -⟩ := hret
  generalize hj : r₁.job = job at hended
  cases hended with
  | @single w t ending he hy =>
    have htask : r₁.job.task? none = some t := by rw [hj]; rfl
    obtain ⟨hlast, hpushed, w', hw, hon⟩ :=
      ended_task (o := ⟨n, none⟩) hc hr hplace hr₁ htask (by simp [he])
    cases hw
    have hjob : r.job = .single t := by
      cases hq : r.job with
      | single t' =>
        rw [hq] at hlast
        cases hlast
        rfl
      | group comp g =>
        rw [hq] at hlast
        cases hlast
    rw [hserves.context] at hon
    rw [hpushed]
    cases ending with
    | done result => exact .single hg hr hserves hu hjob he nofun hon
    | failed error => exact .single hg hr hserves hu hjob he nofun hon
    | panicked => exact .panicked hg hr hserves hjob he
  | @group comp g runs hruns hsettled =>
    have hsound : g.Sound comp := by
      obtain ⟨⟨name', collector⟩, -, hsound⟩ := job_of_course hc.before hr₁
      rw [hj] at hsound
      cases hsound with
      | group h => exact h
    have hsamples : (Fate.ended (comp.collect runs []).1
        (Collector.endingOf (comp.collect runs []).2)).samples =
        (comp.parts runs).flatMap fun p => p.samples ++ p.figures := by
      rw [← List.nil_append ((comp.parts runs).flatMap _), comp.collect_eq runs []]
      dsimp only
      split <;> rfl
    rw [hsamples]
    refine .composite hg hr hserves hu (List.mem_append_right _ List.mem_cons_self) hr₁ hj
      (comp.length_parts runs (hsound.length_runs hruns)) ?_
    intro j child hchild
    obtain ⟨ch, h, hch, hrun, hset⟩ := hsettled j child hchild
    have hgives := gives_of_settled hc hr hplace hr₁ hj hchild hch hset
    rw [hserves.context] at hgives
    exact ⟨ch, _, _, h.elapsed, hch, hgives, comp.getElem?_parts runs hchild hrun⟩

theorem contributes_of_fares (hc : Course sc past e) (hs : e.scrapes[i]? = some s)
    (hphase : s.phase = .collecting c) {f : Fate} {elapsed : Duration}
    (hf : Fares sc past e s k f elapsed) :
    ∃ x, s.starts[k]? = some x ∧ x.Contributes sc past e i k c f.samples := by
  cases hf with
  | ended hx hg hr hu hret =>
    exact ⟨_, hx, contributes_of_returned hc hs hphase hx hg hr hu hret⟩
  | late hx hg waited => exact ⟨_, hx, .late hg⟩
  | skipped hx => exact ⟨_, hx, .skipped _⟩

/-- A run belongs to one unit of one scrape. -/
theorem start_unique (hc : Course sc past e) {i' k' : Nat} {s' : Scrape}
    (hs : e.scrapes[i]? = some s) (hx : s.starts[k]? = some (.started n))
    (hs' : e.scrapes[i']? = some s') (hx' : s'.starts[k']? = some (.started n)) :
    i' = i ∧ k' = k := by
  have hl := linked_of_course hc
  obtain ⟨r, hr, hi, hk⟩ := hl.run_of_start hs hx
  obtain ⟨r', hr', hi', hk'⟩ := hl.run_of_start hs' hx'
  cases hr.symm.trans hr'
  exact ⟨hi'.symm.trans hi, hk'.symm.trans hk⟩

/-! ### Reports -/

theorem collecting_of_answer? {report : Report} (h : s.answer? sc = some (.ok report)) :
    ∃ c, s.phase = .collecting c := by
  cases hp : s.phase with
  | fetching => simp [Scrape.answer?, hp] at h
  | failed => simp [Scrape.answer?, hp] at h
  | collecting c => exact ⟨c, rfl⟩

theorem figures_ofHandovers (sc : Scraper) (handovers : List Handover) :
    (Report.ofHandovers sc handovers).samples =
      (handovers.map Handover.samples).flatten ++ (Report.ofHandovers sc handovers).figures sc := by
  have hfigures : ∀ units : List (String × Collector),
      ((units.zip handovers).flatMap fun p =>
        metaSamples sc.duration sc.success p.1.1 p.2.elapsed p.2.isOk) =
      (units.zip ((units.zip handovers).map fun p => Outcome.ofHandover p.1.1 p.2)).flatMap
        fun p => metaSamples sc.duration sc.success p.1.1 p.2.duration p.2.success := by
    intro units
    induction units generalizing handovers with
    | nil => rfl
    | cons u units ih =>
      cases handovers with
      | nil => rfl
      | cons h handovers =>
        simp only [List.zip_cons_cons, List.map_cons, List.flatMap_cons, ih handovers]
        rfl
  simp only [Report.figures, Report.ofHandovers, ← List.flatMap_def, hfigures]

/-- In every course, the report of a scrape has of each unit what the run has pushed that this very
scrape has started for it, all of it, and worked for on the snapshot that the fetch of this scrape
came to, and after them the figures of all units.  A run that has been given up contributes nothing
to the report of its scrape, and no run belongs to more than one scrape. -/
theorem reports_own_runs (sc : Scraper) {past : History} {e : State} (hc : Course sc past e)
    {i : Nat} {s : Scrape} {report : Report} (hs : e.scrapes[i]? = some s)
    (ha : s.answer? sc = some (.ok report)) :
    ∃ (c : Context) (outs : List (List Sample)),
      s.phase = .collecting c ∧ Given sc (fetchEnds past i) c.snapshot ∧
      report.samples = outs.flatten ++ report.figures sc ∧
      outs.length = sc.units.length ∧ s.starts.length = sc.units.length ∧
      (∀ (k : Nat) (x : Start) (out : List Sample), s.starts[k]? = some x → outs[k]? = some out →
        x.Contributes sc past e i k c out) ∧
      (∀ n ∈ givenUp sc past, ∀ k : Nat, s.starts[k]? = some (.started n) → outs[k]? = some []) ∧
      ∀ k n : Nat, s.starts[k]? = some (.started n) → ∀ (i' k' : Nat) (s' : Scrape),
        e.scrapes[i']? = some s' → s'.starts[k']? = some (.started n) → i' = i ∧ k' = k := by
  obtain ⟨hlen, rfl⟩ := of_answer? ha
  obtain ⟨c, hphase⟩ := collecting_of_answer? ha
  have hfits := (linked_of_course hc).fits hs
  have hstarts : s.starts.length = sc.units.length :=
    Nat.le_antisymm hfits.starts_le (hlen ▸ hfits.outcomes_le)
  have hcontributes : ∀ (k : Nat) (x : Start) (out : List Sample), s.starts[k]? = some x →
      (s.outcomes.map Handover.samples)[k]? = some out →
      x.Contributes sc past e i k c out := by
    intro k x out hx hout
    rw [List.getElem?_map, Option.map_eq_some_iff] at hout
    obtain ⟨o, ho, rfl⟩ := hout
    obtain ⟨f, elapsed, hf, rfl⟩ := fares_of_outcome hc hs ho
    obtain ⟨x', hx', hcon⟩ := contributes_of_fares hc hs hphase hf
    cases hx.symm.trans hx'
    rw [Fate.samples_handover]
    exact hcon
  refine ⟨c, s.outcomes.map Handover.samples, hphase,
    ((fetched_of_course hc hs).given hphase).1, figures_ofHandovers sc s.outcomes, ?_, hstarts,
    hcontributes, ?_, ?_⟩
  · rw [List.length_map, hlen]
  · intro n hn k hx
    have hk := (List.getElem?_eq_some_iff.mp hx).1
    obtain ⟨out, hout⟩ : ∃ out, (s.outcomes.map Handover.samples)[k]? = some out :=
      ⟨_, List.getElem?_eq_getElem (by rw [List.length_map]; omega)⟩
    cases hcontributes k _ out hx hout with
    | late hg => exact hout
    | _ => contradiction
  · intro k n hx i' k' s' hs' hx'
    exact start_unique hc hs hx hs' hx'

/-! ### Overlapping scrapes -/

def countSample (count : Float) : Sample := ⟨⟨"windows_count", "", [], .gauge⟩, count, []⟩

/-- A composite with a child that pushes at once and one that waits at a gate, and a collector that
waits there as well. -/
def overlappingScraper : Scraper :=
  .ofUnits "windows"
    [("pair", .composite (.ofChildren "windows" "pair"
        [⟨"first", .push [countSample 1] (.done ())⟩,
          ⟨"second", .await "gate" (.push [countSample 2] (.done ()))⟩])),
      ("slow", .single (.await "gate" (.push [countSample 3] (.done ()))))] []

/-- The first scrape is late: it does without the second child and gives up on the collector.  Both
push when the gate is open, while the second scrape waits for runs of its own. -/
def overlappingPlay : History × State :=
  play overlappingScraper [] State.initial
    ([.begin (some 0), .note 0, .launch 0, .note 0, .launch 0,
      .begin none, .note 1, .launch 1, .note 1, .launch 1,
      .childWork 0 0 noRows, .send 0 0, .receive 0, .conclude 0, .release 0, .deliver 0, .collect 0,
      .pass grace, .giveUp 0, .openGate "gate"] ++
    [.childWork 0 1 noRows, .childWork 0 1 noRows, .send 0 1,
      .work 1 noRows, .work 1 noRows, .conclude 1, .release 1] ++
    [.childWork 2 0 noRows, .send 2 0, .receive 2, .childWork 2 1 noRows, .childWork 2 1 noRows,
      .send 2 1, .receive 2, .conclude 2, .release 2, .deliver 2,
      .work 3 noRows, .work 3 noRows, .conclude 3, .release 3, .deliver 3, .collect 1, .collect 1])

/-- The report of the second scrape has nothing of what the late runs of the first one push. -/
theorem reports_own_runs_overlapping :
    ∃ (s : Scrape) (report : Report) (c : Context) (outs : List (List Sample)),
      overlappingPlay.2.scrapes[1]? = some s ∧
      s.answer? overlappingScraper = some (.ok report) ∧
      pushed ⟨0, some 1⟩ overlappingPlay.1 = [countSample 2] ∧
      pushed ⟨1, none⟩ overlappingPlay.1 = [countSample 3] ∧
      1 ∈ givenUp overlappingScraper overlappingPlay.1 ∧
      report.samples = outs.flatten ++ report.figures overlappingScraper ∧
      (∀ out, outs[1]? = some out → (Start.started 3).Contributes overlappingScraper
        overlappingPlay.1 overlappingPlay.2 1 1 c out) := by
  have hc : Course overlappingScraper overlappingPlay.1 overlappingPlay.2 := Course.start.play _
  obtain ⟨c, outs, -, -, hsamples, -, -, hall, -⟩ :=
    reports_own_runs overlappingScraper hc (i := 1) rfl rfl
  exact ⟨_, _, c, outs, rfl, rfl, rfl, rfl, by decide, hsamples, fun out => hall 1 _ out rfl⟩

end Engine

end MetricScraper
