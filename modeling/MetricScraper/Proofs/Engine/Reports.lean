import MetricScraper.Proofs.Engine.Answers
import MetricScraper.Proofs.Engine.Fates

/-!
# Reports of scrapes

A report has the samples of all units in order, and after them the figures of all units in order.
What it has of a unit is told by the fate of that unit, whatever became of the others.
-/

namespace MetricScraper

/-- What a report has of a unit. -/
def Scraper.part (sc : Scraper) (name : String) (f : Fate) (elapsed : Duration) : Part :=
  .ofRun sc.duration sc.success name f.samples elapsed f.succeeded

/-- What a report has of all units, by their fates and the durations of their runs. -/
def Scraper.parts (sc : Scraper) (fares : List (Fate × Duration)) : List Part :=
  (sc.units.zip fares).map fun (u, f) => sc.part u.1 f.1 f.2

/-- The outcome of a unit. -/
def Fate.outcome (name : String) (elapsed : Duration) (f : Fate) : Outcome :=
  ⟨name, f.succeeded, elapsed, (f.error? elapsed).map CollectError.message⟩

/-- What a part has besides the duration of the run. -/
def Part.untimed (p : Part) : List Sample × Sample := (p.samples, p.success)

theorem Scraper.untimed_part (sc : Scraper) (name : String) (f : Fate) (elapsed : Duration) :
    (sc.part name f elapsed).untimed =
      (f.samples, ⟨sc.success, if f.succeeded then 1.0 else 0.0, [name]⟩) := rfl

/-- The same scraper with another collector in the place of one of its own. -/
def Scraper.replace (sc : Scraper) (k : Nat) (collector : Collector) (dependencies : List String) :
    Scraper :=
  { sc with
    units := sc.units.modify k fun u => (u.1, collector)
    dependencies := dependencies }

variable {sc : Scraper} {fares : List (Fate × Duration)}

theorem Fate.ofHandover_handover (name : String) (elapsed : Duration) (f : Fate) :
    Outcome.ofHandover name (f.handover elapsed) = f.outcome name elapsed := by
  simp only [Outcome.ofHandover, Fate.isOk_handover, Fate.elapsed_handover, Fate.outcome]
  cases h : f.error? elapsed with
  | none => simp [Fate.handover, h]
  | some error => simp [Fate.handover, h]

/-! ### Parts by place -/

theorem Scraper.length_parts (hlen : fares.length = sc.units.length) :
    (sc.parts fares).length = sc.units.length := by
  rw [Scraper.parts, List.length_map, List.length_zip, hlen, Nat.min_self]

theorem Scraper.getElem?_parts {k : Nat} {u : String × Collector} {f : Fate × Duration}
    (hu : sc.units[k]? = some u) (hf : fares[k]? = some f) :
    (sc.parts fares)[k]? = some (sc.part u.1 f.1 f.2) := by
  have hz : (sc.units.zip fares)[k]? = some (u, f) := List.getElem?_zip_eq_some.mpr ⟨hu, hf⟩
  simp [Scraper.parts, hz]

theorem Scraper.flatMap_samples_parts (hlen : fares.length = sc.units.length) :
    (sc.parts fares).flatMap Part.samples = fares.flatMap fun f => f.1.samples := by
  have hsnd : (sc.units.zip fares).map Prod.snd = fares :=
    List.map_snd_zip (Nat.le_of_eq hlen)
  conv_rhs => rw [← hsnd]
  rw [Scraper.parts, List.flatMap_map, List.flatMap_map]
  rfl

theorem ofHandovers_map (hlen : fares.length = sc.units.length) :
    Report.ofHandovers sc (fares.map fun f => f.1.handover f.2) =
      ⟨(sc.parts fares).flatMap Part.samples ++ (sc.parts fares).flatMap Part.figures,
        (sc.units.zip fares).map fun (u, f) => f.1.outcome u.1 f.2⟩ := by
  rw [Scraper.flatMap_samples_parts hlen]
  simp only [Report.ofHandovers, List.zip_map_right, List.flatMap_map, List.map_map, Scraper.parts]
  simp [Function.comp_def, Scraper.part, Fate.ofHandover_handover]

/-! ### One unit in the place of another -/

theorem Scraper.getElem?_replace (k : Nat) (collector : Collector) (dependencies : List String)
    {j : Nat} {u : String × Collector} (hu : sc.units[j]? = some u) :
    ∃ u', (sc.replace k collector dependencies).units[j]? = some u' ∧ u'.1 = u.1 := by
  simp only [Scraper.replace, List.getElem?_modify, hu]
  split <;> exact ⟨_, rfl, rfl⟩

/-- A unit contributes by its own fate: what the report has of the others stays the same when their
fates do. -/
theorem Scraper.parts_replace {k : Nat} {collector : Collector} {dependencies : List String}
    {fares' : List (Fate × Duration)} (hlen : fares.length = sc.units.length)
    (hlen' : fares'.length = sc.units.length)
    (hsame : ∀ j, j ≠ k → (fares'[j]?).map Prod.fst = (fares[j]?).map Prod.fst) :
    (((sc.replace k collector dependencies).parts fares').map Part.untimed).eraseIdx k =
      ((sc.parts fares).map Part.untimed).eraseIdx k := by
  apply Places.eraseIdx_eq_of_getElem?
  intro j hj
  have hunits : (sc.replace k collector dependencies).units.length = sc.units.length :=
    List.length_modify ..
  by_cases hlt : j < sc.units.length
  · obtain ⟨u, hu⟩ : ∃ u, sc.units[j]? = some u := ⟨_, List.getElem?_eq_getElem hlt⟩
    obtain ⟨f, hf⟩ : ∃ f, fares[j]? = some f := ⟨_, List.getElem?_eq_getElem (by omega)⟩
    obtain ⟨f', hf'⟩ : ∃ f', fares'[j]? = some f' := ⟨_, List.getElem?_eq_getElem (by omega)⟩
    obtain ⟨u', hu', hname⟩ := Scraper.getElem?_replace k collector dependencies hu
    -- a part without its duration is told by the name and the fate of its unit
    have hfate := hsame j hj
    rw [hf, hf', Option.map_some, Option.map_some, Option.some.injEq] at hfate
    rw [List.getElem?_map, List.getElem?_map, Scraper.getElem?_parts hu hf,
      Scraper.getElem?_parts hu' hf', Option.map_some, Option.map_some, Scraper.untimed_part,
      Scraper.untimed_part, hname, hfate]
    rfl
  · have hle := Scraper.length_parts hlen
    have hle' := Scraper.length_parts (hlen'.trans hunits.symm)
    rw [List.getElem?_eq_none (by rw [List.length_map]; omega),
      List.getElem?_eq_none (by rw [List.length_map]; omega)]

namespace Engine

/-- A report tells the fates of the units in a scrape. -/
structure Tells (sc : Scraper) (past : History) (e : State) (s : Scrape) (report : Report)
    (fares : List (Fate × Duration)) : Prop where
  length : fares.length = sc.units.length
  fates : ∀ (k : Nat) (f : Fate × Duration), fares[k]? = some f → Fares sc past e s k f.1 f.2
  samples : report.samples =
    (sc.parts fares).flatMap Part.samples ++ (sc.parts fares).flatMap Part.figures
  outcomes : report.outcomes = (sc.units.zip fares).map fun (u, f) => f.1.outcome u.1 f.2

theorem tells_of_answer {past : History} {e : State} (hc : Course sc past e) {i : Nat} {s : Scrape}
    {report : Report} (hs : e.scrapes[i]? = some s) (ha : s.answer? sc = some (.ok report)) :
    ∃ fares, Tells sc past e s report fares := by
  obtain ⟨hlen, rfl⟩ := of_answer? ha
  obtain ⟨fares, hmap, hfares⟩ :=
    Places.exists_map_of_getElem? (g := fun f : Fate × Duration => f.1.handover f.2)
      (P := fun k f => Fares sc past e s k f.1 f.2) fun k o ho => by
        obtain ⟨f, elapsed, hf, rfl⟩ := fares_of_outcome hc hs ho
        exact ⟨(f, elapsed), rfl, hf⟩
  have hlength : fares.length = sc.units.length := by
    rw [← hlen, hmap, List.length_map]
  rw [hmap, ofHandovers_map hlength]
  exact ⟨fares, hlength, hfares, rfl, rfl⟩

/-- In every course, the report of a scrape has the samples that each unit has handed in, in order,
and after them a duration and a success of each, with one outcome for each.  A unit has succeeded
exactly if its run has returned without an error and the scrape has not given up on it.  With any
other collector in the place of one unit, in any course in which the others come out as they did,
the report has the same samples and successes of the others, in the same order. -/
theorem scrape_reports (sc : Scraper) {past : History} {e : State} (hc : Course sc past e) {i : Nat}
    {s : Scrape} {report : Report} (hs : e.scrapes[i]? = some s)
    (ha : s.answer? sc = some (.ok report)) :
    ∃ fares, Tells sc past e s report fares ∧
      (∀ (k : Nat) (u : String × Collector), sc.units[k]? = some u →
        ∃ f elapsed p o, fares[k]? = some (f, elapsed) ∧ (sc.parts fares)[k]? = some p ∧
          report.outcomes[k]? = some o ∧
          p = .ofRun sc.duration sc.success u.1 f.samples elapsed o.success ∧
          o.collector = u.1 ∧ o.duration = elapsed ∧
          (p.success.value = 1.0 ↔ o.success = true) ∧ (o.success = true ↔ o.error = none) ∧
          (o.error = none ↔ ∃ n r h, s.starts[k]? = some (.started n) ∧ n ∉ givenUp sc past ∧
            e.runs[n]? = some r ∧ r.ending = some h ∧ h.result = .ok ())) ∧
      (sc.parts fares).length = sc.units.length ∧ report.outcomes.length = sc.units.length ∧
      ∀ (k : Nat) (collector : Collector) (dependencies : List String) (past' : History)
        (e' : State) (s' : Scrape) (report' : Report) (fares' : List (Fate × Duration)),
        Tells (sc.replace k collector dependencies) past' e' s' report' fares' →
        (∀ j, j ≠ k → (fares'[j]?).map Prod.fst = (fares[j]?).map Prod.fst) →
        (((sc.replace k collector dependencies).parts fares').map Part.untimed).eraseIdx k =
          ((sc.parts fares).map Part.untimed).eraseIdx k := by
  obtain ⟨fares, htells⟩ := tells_of_answer hc hs ha
  have hlen := htells.length
  refine ⟨fares, htells, ?_, Scraper.length_parts hlen, ?_, ?_⟩
  · intro k u hu
    have hlt := (List.getElem?_eq_some_iff.mp hu).1
    obtain ⟨⟨f, elapsed⟩, hf⟩ : ∃ f, fares[k]? = some f := ⟨_, List.getElem?_eq_getElem (by omega)⟩
    have ho : report.outcomes[k]? = some (f.outcome u.1 elapsed) := by
      have hz : (sc.units.zip fares)[k]? = some (u, f, elapsed) :=
        List.getElem?_zip_eq_some.mpr ⟨hu, hf⟩
      simp [htells.outcomes, hz]
    refine ⟨f, elapsed, _, _, hf, Scraper.getElem?_parts hu hf, ho, rfl, rfl, rfl, ?_, ?_, ?_⟩
    · exact Part.value_eq_one_iff ..
    · simp [Fate.outcome, Fate.error?_eq_none_iff]
    · rw [← (htells.fates k _ hf).succeeded_iff]
      simp [Fate.outcome, Fate.error?_eq_none_iff]
  · rw [htells.outcomes, List.length_map, List.length_zip, hlen, Nat.min_self]
  · intro k collector dependencies past' e' s' report' fares' htells' hsame
    exact Scraper.parts_replace hlen (htells'.length.trans (List.length_modify ..)) hsame

def loadSample (core : String) : Sample :=
  ⟨⟨"windows_load", "Load of a core.", ["core"], .gauge⟩, 0.5, [core]⟩

/-- A scraper whose first collector waits at a gate, and whose second hands in a sample. -/
def loadScraper : Scraper :=
  .ofUnits "windows" [("gated", .single (.await "gate" (.done ()))),
    ("load", .single (.push [loadSample "0"] (.done ())))] []

/-- The scrape gives up on the first collector after the second has returned. -/
def loadMoves : List Move := [
  .begin (some 0), .note 0, .launch 0, .note 0, .launch 0,
  .work 1 fun _ => .ok [], .conclude 1, .release 1, .deliver 1,
  .pass grace, .giveUp 0, .collect 0]

def loadPlay : History × State := play loadScraper [] State.initial loadMoves

/-- The same scraper with another first collector, which hands in a sample and fails. -/
def brokenScraper : Scraper :=
  loadScraper.replace 0 (.single (.push [loadSample "1"] (.fail (.missingObject "Cores")))) []

def brokenMoves : List Move := [
  .begin none, .note 0, .launch 0, .note 0, .launch 0,
  .work 1 fun _ => .ok [], .conclude 1, .release 1, .deliver 1,
  .work 0 fun _ => .ok [], .conclude 0, .release 0, .deliver 0, .collect 0, .collect 0]

def brokenPlay : History × State := play brokenScraper [] State.initial brokenMoves

/-- A scrape that gives up on the first of two collectors, and one with another collector in its
place: what the reports have of the second collector is the same. -/
theorem scrape_reports_gated :
    ∃ s report fares s' report' fares',
      loadPlay.2.scrapes[0]? = some s ∧ s.answer? loadScraper = some (.ok report) ∧
      Tells loadScraper loadPlay.1 loadPlay.2 s report fares ∧
      brokenPlay.2.scrapes[0]? = some s' ∧ s'.answer? brokenScraper = some (.ok report') ∧
      Tells brokenScraper brokenPlay.1 brokenPlay.2 s' report' fares' ∧
      (report.samples.map fun x => (x.name, x.value, x.labelValues)) = [
        ("windows_load", 0.5, ["0"]),
        ("windows_exporter_collector_duration_seconds", 0.1, ["gated"]),
        ("windows_exporter_collector_success", 0.0, ["gated"]),
        ("windows_exporter_collector_duration_seconds", 0.0, ["load"]),
        ("windows_exporter_collector_success", 1.0, ["load"])] ∧
      (report.outcomes.map fun o => (o.collector, o.success, o.error)) = [
        ("gated", false, some "collector timed out after 100ms"), ("load", true, none)] ∧
      (report'.samples.map fun x => (x.name, x.value, x.labelValues)) = [
        ("windows_load", 0.5, ["1"]), ("windows_load", 0.5, ["0"]),
        ("windows_exporter_collector_duration_seconds", 0.0, ["gated"]),
        ("windows_exporter_collector_success", 0.0, ["gated"]),
        ("windows_exporter_collector_duration_seconds", 0.0, ["load"]),
        ("windows_exporter_collector_success", 1.0, ["load"])] ∧
      ((brokenScraper.parts fares').map Part.untimed).eraseIdx 0 =
        ((loadScraper.parts fares).map Part.untimed).eraseIdx 0 := by
  have hc : Course loadScraper loadPlay.1 loadPlay.2 := Course.start.play _
  have hc' : Course brokenScraper brokenPlay.1 brokenPlay.2 := Course.start.play _
  obtain ⟨fares, htells, hunits, -, -, hreplace⟩ := scrape_reports loadScraper hc (i := 0) rfl rfl
  obtain ⟨fares', htells', hunits', -⟩ := scrape_reports brokenScraper hc' (i := 0) rfl rfl
  obtain ⟨f, elapsed, -, -, hf, -⟩ := hunits 1 _ rfl
  obtain ⟨f', elapsed', -, -, hf', -⟩ := hunits' 1 _ rfl
  -- in both scrapes the second collector has returned
  have hdone : f = .ended [loadSample "0"] (.done ()) :=
    (htells.fates 1 _ hf).eq_done rfl (by decide) rfl rfl
  have hdone' : f' = .ended [loadSample "0"] (.done ()) :=
    (htells'.fates 1 _ hf').eq_done rfl (by decide) rfl rfl
  have hsame : ∀ j, j ≠ 0 → (fares'[j]?).map Prod.fst = (fares[j]?).map Prod.fst := by
    intro j hj
    by_cases hone : j = 1
    · rw [hone, hf, hf', Option.map_some, Option.map_some, hdone, hdone']
    · have hlen : fares.length = 2 := htells.length
      have hlen' : fares'.length = 2 := htells'.length
      rw [List.getElem?_eq_none (by omega), List.getElem?_eq_none (by omega)]
  exact ⟨_, _, fares, _, _, fares', rfl, rfl, htells, rfl, rfl, htells', by decide +kernel,
    by decide +kernel, by decide +kernel, hreplace 0 _ _ _ _ _ _ _ htells' hsame⟩

end Engine

end MetricScraper
