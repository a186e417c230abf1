import MetricScraper.Engine.Move
import MetricScraper.Engine.Report

/-!
# Playouts

One course of moves: every run gets as far as it can at once, and time passes only when a scrape
has to wait.  It asks the sources for answers as they are needed.
-/

namespace MetricScraper.Engine

/-- Where answers come from.  A source may change when it is asked; the truth value says whether
the deadline has passed. -/
structure Sources (σ : Type) where
  /-- What a fetch comes to, and the gate that it waits at before. -/
  fetch : σ → List String → Bool → (Option String × FetchAnswer) × σ
  rows : σ → Query → Bool → Except QueryError (List Row) × σ

/-- A state of a scraper with the state of its sources. -/
structure Playout (σ : Type) where
  state : State
  source : σ

/-- The time that a scrape takes to get going. -/
def headway : Duration := 1000

/-- No rows, where none are asked for. -/
def noRows : Rows := fun _ => .ok []

namespace Playout

variable {σ : Type} (sc : Scraper) (src : Sources σ)

/-- Makes a move, if it can be made. -/
def move (p : Playout σ) (m : Move) : Playout σ :=
  { p with state := (p.state.step sc m).getD p.state }

/-- Lets time pass up to a moment. -/
def passTo (p : Playout σ) (moment : Duration) : Playout σ :=
  p.move sc (.pass (moment - p.state.now))

/-- Follows a work as far as it goes; `act` is the move that takes its next step. -/
def follow (c : Context) (act : Rows → Move) : Work Unit → Playout σ → Playout σ
  | .done _, p => p
  | .fail _, p => p
  | .panic, p => p
  | .push _ rest, p => follow c act rest (p.move sc (act noRows))
  | .log _ rest, p => follow c act rest (p.move sc (act noRows))
  | .table object next, p =>
    match c.snapshot.table object with
    | .ok table => follow c act (next table) (p.move sc (act noRows))
    | .error _ => p.move sc (act noRows)
  | .rows query next, p =>
    let (answer, source) := src.rows p.source query (p.state.isPast c.deadline)
    let p := { p.move sc (act fun _ => answer) with source := source }
    match answer with
    | .ok rows => follow c act (next rows) p
    | .error _ => p
  | .check rest, p =>
    if p.state.isPast c.deadline then p.move sc (act noRows)
    else follow c act rest (p.move sc (act noRows))
  | .await gate rest, p =>
    if p.state.openGates.contains gate then follow c act rest (p.move sc (act noRows)) else p

/-- Lets a child of a composite get as far as it can, up to its result. -/
def playChild (run : Nat) (c : Context) (p : Playout σ) (child : Nat × Work Unit) : Playout σ :=
  let p := follow sc src c (.childWork run child.1) child.2 p
  (p.move sc (.send run child.1)).move sc (.receive run)

/-- Lets the job of a run get as far as it can.  A composite whose deadline has passed waits no
longer. -/
def playJob (run : Nat) (c : Context) (p : Playout σ) : Job → Playout σ
  | .single t => follow sc src c (.work run) t.work p
  | .group _ g =>
    let works := g.children.map fun k => k.task.work
    (works.mapIdx Prod.mk).foldl (playChild sc src run c) (p.move sc (.conclude run))

/-- Lets a run get as far as it can. -/
def playRun (p : Playout σ) (i : Nat) : Playout σ :=
  match p.state.runs[i]? with
  | none => p
  | some r =>
    let p := playJob sc src i r.context p r.job
    ((p.move sc (.conclude i)).move sc (.release i)).move sc (.deliver i)

/-- Lets every run get as far as it can. -/
def playRuns (p : Playout σ) : Playout σ :=
  (List.range p.state.runs.length).foldl (playRun sc src) p

/-! ### Scrapes -/

/-- Begins a scrape, and gives its number. -/
def beginScrape (timeout : Option Duration) (p : Playout σ) : Nat × Playout σ :=
  (p.state.scrapes.length, (p.move sc (.begin timeout)).move sc (.pass headway))

/-- The deadline of a scrape. -/
def deadline? (p : Playout σ) (i : Nat) : Option Duration :=
  (p.state.scrapes[i]?).bind Scrape.deadline

/-- Lets time pass up to the deadline of a scrape and some time more. -/
def passDeadline (p : Playout σ) (i : Nat) (more : Duration) : Playout σ :=
  match p.deadline? i with
  | some d => p.passTo sc (d + more)
  | none => p

/-- Whether a scrape waits for its counters. -/
def isFetching (p : Playout σ) (i : Nat) : Bool :=
  match p.state.scrapes[i]? with
  | some ⟨_, .fetching, _, _, _⟩ => true
  | _ => false

/-- Whether a fetch that waits at a gate is held up. -/
def isHeldUp (p : Playout σ) (gate : Option String) : Bool :=
  match gate with
  | some g => !p.state.openGates.contains g
  | none => false

/-- Fetches the counters of a scrape, up to its deadline. -/
def fetchFor (p : Playout σ) (i : Nat) : Playout σ :=
  if !p.isFetching i then p
  else
    let isPast := p.state.isPast (p.deadline? i)
    let ((gate, answer), source) := src.fetch p.source sc.dependencies isPast
    let p := { p with source := source }
    if isPast then p.move sc (.fetchLate i)
    else if p.isHeldUp gate then (p.passDeadline sc i 0).move sc (.fetchLate i)
    else p.move sc (.fetched i answer)

/-- Starts the units of a scrape. -/
def launchUnits (p : Playout σ) (i : Nat) : Playout σ :=
  sc.units.foldl (fun p _ => (p.move sc (.note i)).move sc (.launch i)) p

/-- The number of units that a scrape has waited for. -/
def outcomeCount (p : Playout σ) (i : Nat) : Nat :=
  match p.state.scrapes[i]? with
  | some s => s.outcomes.length
  | none => 0

/-- Waits for the next unit of a scrape: to its deadline, and then a little longer. -/
def awaitUnit (i : Nat) (p : Playout σ) : Playout σ :=
  let count := p.outcomeCount i
  let p := p.move sc (.collect i)
  if count < p.outcomeCount i then p
  else
    let p := (playRuns sc src (p.passDeadline sc i 0)).move sc (.collect i)
    if count < p.outcomeCount i then p
    else (p.passDeadline sc i grace).move sc (.giveUp i)

/-- Waits for every unit of a scrape. -/
def awaitUnits (p : Playout σ) (i : Nat) : Playout σ :=
  sc.units.foldl (fun p _ => awaitUnit sc src i p) p

/-- The answer of a scrape, if it has one. -/
def answer? (p : Playout σ) (i : Nat) : Option (Except ScrapeError Report) :=
  (p.state.scrapes[i]?).bind (Scrape.answer? sc)

/-- Plays several scrapes side by side, from their beginning to their answers. -/
def scrapes (timeouts : List (Option Duration)) (p : Playout σ) :
    List (Option (Except ScrapeError Report)) × Playout σ :=
  let (ids, p) :=
    timeouts.foldl
      (fun (ids, p) timeout =>
        let (i, p) := beginScrape sc timeout p
        (ids ++ [i], fetchFor sc src p i))
      ([], p)
  let p := playRuns sc src (ids.foldl (launchUnits sc) p)
  let p := ids.foldl (awaitUnits sc src) p
  (ids.map (p.answer? sc), p)

/-- Opens a gate, and lets the runs that waited at it go on. -/
def release (gate : String) (p : Playout σ) : Playout σ :=
  playRuns sc src (p.move sc (.openGate gate))

end Playout

/-! ### Counts of runs -/

/-- The names of what a run runs: a collector, or the children of a composite. -/
def runNames (sc : Scraper) (r : Run) : List String :=
  match sc.units[r.place]? with
  | some (name, .single _) => [name]
  | some (_, .composite c) => c.children.map Child.name
  | none => []

/-- The names of all that has been run, in order of their first run, with the number of runs. -/
def runCounts (sc : Scraper) (e : State) : List (String × Nat) :=
  let names := e.runs.flatMap (runNames sc)
  names.eraseDups.map fun n => (n, names.count n)

end MetricScraper.Engine
