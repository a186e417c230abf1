import MetricScraper.Collector.Composite

/-!
# Scrapes under way

A scraper runs its collectors once per scrape, all of them side by side.  Scrapes may overlap, and
a run may outlast the scrape that started it.  The state says how far every scrape and every run
has got, and how many runs of each collector have been given up and have not ended.
-/

namespace MetricScraper

/-- The collectors of a program by name, and the counter objects that they read together. -/
structure Scraper where
  units : List (String × Collector)
  dependencies : List String
  duration : Descriptor
  success : Descriptor

/-- A scraper whose own figures are named after the metric namespace. -/
def Scraper.ofUnits (space : String) (units : List (String × Collector))
    (dependencies : List String) : Scraper :=
  ⟨units, dependencies,
    .ofSpec space "exporter" (durationSpec "Duration of a collection."),
    .ofSpec space "exporter" (successSpec "Whether the collector was successful.")⟩

namespace Engine

/-- What the collectors of one scrape are given. -/
structure Context where
  snapshot : Snapshot
  started : Duration
  deadline : Option Duration
  deriving Inhabited

/-! ### Runs -/

/-- A child of a composite that is under way; `sent` when its result is on its way. -/
structure ChildRun where
  task : Task
  sent : Bool

/-- A composite that is under way: the results on their way to it, in the order in which they were
sent, and those that it has taken in, by child. -/
structure GroupRun where
  children : List ChildRun
  channel : List (Nat × Handover)
  slots : List (Option Handover)
  /-- How many results it still waits for. -/
  pending : Nat

/-- What a run does. -/
inductive Job where
  | single (task : Task)
  | group (c : Composite) (state : GroupRun)

def GroupRun.start (c : Composite) : GroupRun :=
  ⟨c.children.map fun child => ⟨Task.start child.work, false⟩, [],
    c.children.map fun _ => none, c.children.length⟩

def Job.start : Collector → Job
  | .single work => .single (Task.start work)
  | .composite c => .group c (.start c)

/-- Where a run stands with the scrape that started it. -/
inductive RunStatus where
  | running
  /-- The scrape has given up on it, and it has not ended. -/
  | abandoned
  | finished
  deriving DecidableEq, Repr, Inhabited

/-- A run of a collector. -/
structure Run where
  /-- The scrape that started it. -/
  scrape : Nat
  /-- The collector, by its place among the units. -/
  place : Nat
  context : Context
  started : Duration
  job : Job
  /-- What the collector has returned. -/
  ending : Option Handover
  status : RunStatus
  /-- Whether the scrape can see that the run is over. -/
  delivered : Bool

/-! ### Scrapes -/

inductive Phase where
  /-- The counters are being fetched. -/
  | fetching
  /-- The fetch panicked; there is no report. -/
  | failed
  | collecting (context : Context)

/-- How a unit was started in a scrape. -/
inductive Start where
  | started (run : Nat)
  /-- So many earlier runs have been given up and have not ended. -/
  | skipped (stalled : Nat)
  deriving DecidableEq, Repr, Inhabited

structure Scrape where
  deadline : Option Duration
  phase : Phase
  /-- The number of stalled runs of the next unit, once it has been looked up. -/
  noted : Option Nat
  /-- The units that have been started, in order. -/
  starts : List Start
  /-- What the units handed over that have been waited for, in order. -/
  outcomes : List Handover

/-! ### The state -/

/-- The state of a scraper. -/
structure State where
  now : Duration
  /-- The number of stalled runs of each unit. -/
  stalled : Nat → Nat
  scrapes : List Scrape
  runs : List Run
  openGates : List String
  /-- The objects of every fetch so far. -/
  fetches : List (List String)

def State.initial : State := ⟨0, fun _ => 0, [], [], [], []⟩

/-- Whether a moment is past. -/
def State.isPast (e : State) (deadline : Option Duration) : Bool :=
  match deadline with
  | some d => d ≤ e.now
  | none => false

/-- What a task can get at this moment, with the rows that a query would be answered with. -/
def State.moment (e : State) (c : Context) (rows : Query → Except QueryError (List Row)) :
    Moment where
  table := c.snapshot.table
  rows := rows
  late := if e.isPast c.deadline then some (e.now - c.started) else none
  isOpen := fun gate => e.openGates.contains gate

/-- Whether a scrape has an answer for its caller. -/
def Scrape.isReturned (s : Scrape) (units : Nat) : Bool :=
  match s.phase with
  | .fetching => false
  | .failed => true
  | .collecting _ => s.outcomes.length == units

end Engine

end MetricScraper
