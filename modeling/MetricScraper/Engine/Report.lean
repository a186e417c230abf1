import MetricScraper.Engine.State

/-!
# Reports

What a scrape answers: the samples of all collectors in order, and after them a duration and a
success sample of each.
-/

namespace MetricScraper

/-- How one collector did in a scrape. -/
structure Outcome where
  collector : String
  success : Bool
  duration : Duration
  /-- The message of the error of a collector that failed. -/
  error : Option String
  deriving DecidableEq, Repr, Inhabited

structure Report where
  samples : List Sample
  outcomes : List Outcome
  deriving Inhabited

/-- Why a scrape has no report. -/
inductive ScrapeError where
  /-- The fetch of the counters panicked. -/
  | context
  deriving DecidableEq, Repr, Inhabited

def ScrapeError.message : ScrapeError → String
  | .context => "failed to build scrape context: the fetch panicked"

namespace Outcome

def ofHandover (collector : String) (h : Handover) : Outcome :=
  ⟨collector, h.isOk, h.elapsed,
    match h.result with
    | .ok _ => none
    | .error e => some e.message⟩

end Outcome

namespace Report

/-- The report of what the units of a scraper handed over, in order. -/
def ofHandovers (sc : Scraper) (handovers : List Handover) : Report :=
  let units := sc.units.zip handovers
  ⟨handovers.flatMap Handover.samples ++
      units.flatMap fun ((name, _), h) =>
        metaSamples sc.duration sc.success name h.elapsed h.isOk,
    units.map fun ((name, _), h) => Outcome.ofHandover name h⟩

/-- The outcome of the first collector of a name. -/
def outcome? (r : Report) (collector : String) : Option Outcome :=
  r.outcomes.find? fun o => o.collector == collector

end Report

/-- The answer of a scrape, once it has one. -/
def Engine.Scrape.answer? (sc : Scraper) (s : Engine.Scrape) : Option (Except ScrapeError Report) :=
  match s.phase with
  | .fetching => none
  | .failed => some (.error .context)
  | .collecting _ =>
    if s.isReturned sc.units.length then some (.ok (.ofHandovers sc s.outcomes)) else none

end MetricScraper
