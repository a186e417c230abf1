import MetricScraper.Engine.State

/-!
# Moves

Scrapes and runs get on by single moves, in any order in which they can be made.  A move that
cannot be made at some state leads nowhere.
-/

namespace MetricScraper.Engine

/-- What a fetch came to. -/
inductive FetchAnswer where
  | answered (result : Except FetchError Snapshot)
  | panicked

/-- The rows that queries would be answered with. -/
abbrev Rows := Query → Except QueryError (List Row)

inductive Move where
  /-- Time passes. -/
  | pass (time : Duration)
  | openGate (gate : String)
  /-- A scrape begins, with a timeout or without. -/
  | begin (timeout : Option Duration)
  /-- The fetch of a scrape is answered. -/
  | fetched (scrape : Nat) (answer : FetchAnswer)
  /-- A scrape gives up on its fetch. -/
  | fetchLate (scrape : Nat)
  /-- A scrape looks up the stalled runs of its next unit. -/
  | note (scrape : Nat)
  /-- A scrape starts its next unit, unless runs of it are stalled. -/
  | launch (scrape : Nat)
  /-- A run takes a step. -/
  | work (run : Nat) (rows : Rows)
  /-- A child of a run takes a step. -/
  | childWork (run child : Nat) (rows : Rows)
  /-- A child of a run sends its result. -/
  | send (run child : Nat)
  /-- A composite takes in the first result on its way. -/
  | receive (run : Nat)
  /-- The collector of a run returns; a composite may do so without the results of all children. -/
  | conclude (run : Nat)
  /-- A run ends, and is no longer counted as stalled. -/
  | release (run : Nat)
  /-- The end of a run reaches its scrape. -/
  | deliver (run : Nat)
  /-- A scrape takes the outcome of the next unit. -/
  | collect (scrape : Nat)
  /-- A scrape gives up on the run of the next unit. -/
  | giveUp (scrape : Nat)

/-- How long after the deadline a scrape still waits for its runs: a tenth of a second. -/
def grace : Duration := 100000000

/-! ### Parts of moves -/

/-- The answers with which a fetch leaves a scrape, if it leaves it any. -/
def FetchAnswer.snapshot? (dependencies : List String) : FetchAnswer → Option Snapshot
  | .answered (.ok snapshot) => some snapshot
  | .answered (.error e) => some (.failed dependencies e)
  | .panicked => none

/-- The phase of a scrape that has its snapshot, or cannot have one. -/
def phaseAfter (now : Duration) (deadline : Option Duration) : Option Snapshot → Phase
  | some snapshot => .collecting ⟨snapshot, now, deadline⟩
  | none => .failed

/-- The next step of a job of one task. -/
def Job.step (m : Moment) : Job → Option Job
  | .single t => (t.step m).map .single
  | .group _ _ => none

/-- The next step of a child. -/
def Job.stepChild (m : Moment) (child : Nat) : Job → Option Job
  | .single _ => none
  | .group c g => do
    let k ← g.children[child]?
    let t ← k.task.step m
    some (.group c { g with children := g.children.set child { k with task := t } })

/-- A child that has ended sends its result, once. -/
def Job.send (elapsed : Duration) (child : Nat) : Job → Option Job
  | .single _ => none
  | .group c g => do
    let k ← g.children[child]?
    if k.sent then none
    let h ← k.task.handover? elapsed
    some (.group c { g with
      children := g.children.set child { k with sent := true }
      channel := g.channel ++ [(child, h)] })

/-- A composite that waits for results takes in the first one on its way. -/
def Job.receive : Job → Option Job
  | .single _ => none
  | .group c g =>
    if g.pending = 0 then none
    else
      match g.channel with
      | [] => none
      | (child, h) :: rest =>
        some (.group c { g with
          channel := rest
          slots := g.slots.set child (some h)
          pending := g.pending - 1 })

/-- Why a composite waits no longer for the results that it has not got. -/
inductive Silence where
  /-- The deadline has passed. -/
  | late
  /-- No child is left that could send a result. -/
  | disconnected
  deriving DecidableEq, Repr, Inhabited

/-- Why nothing comes any more, where a composite waits for results and none is on its way. -/
def GroupRun.silence? (g : GroupRun) (isLate : Bool) : Option Silence :=
  if g.pending = 0 || !g.channel.isEmpty then none
  else if g.children.all ChildRun.sent then some .disconnected
  else if isLate then some .late
  else none

/-- The run of a child that has handed in no result. -/
def Silence.record (elapsed : Duration) : Option Silence → Handover
  | some .late => .failed (.timeout elapsed) elapsed
  | _ => .failed .panicked elapsed

/-- The runs of the children, where some may be missing. -/
def GroupRun.records (g : GroupRun) (silence : Option Silence) (elapsed : Duration) :
    List Handover :=
  g.slots.map fun slot => slot.getD (Silence.record elapsed silence)

/-- The runs of the children once a composite waits no longer: because it has a result of every
child, or because nothing comes any more. -/
def GroupRun.runs? (g : GroupRun) (isLate : Bool) (elapsed : Duration) : Option (List Handover) :=
  if g.pending = 0 then some (g.records none elapsed)
  else (g.silence? isLate).map fun silence => g.records (some silence) elapsed

/-- What a job hands over when its collector returns. -/
def Job.conclude? (isLate : Bool) (elapsed : Duration) : Job → Option Handover
  | .single t => t.handover? elapsed
  | .group c g => (g.runs? isLate elapsed).map fun runs => c.handover runs elapsed

namespace State

def setScrape (e : State) (i : Nat) (s : Scrape) : State :=
  { e with scrapes := e.scrapes.set i s }

def setRun (e : State) (i : Nat) (r : Run) : State := { e with runs := e.runs.set i r }

/-- Changes the number of stalled runs of a unit. -/
def recount (e : State) (place : Nat) (change : Nat → Nat) : State :=
  { e with stalled := fun i => if i = place then change (e.stalled i) else e.stalled i }

@[simp] theorem scrapes_setScrape (e : State) (i : Nat) (s : Scrape) :
    (e.setScrape i s).scrapes = e.scrapes.set i s := rfl

@[simp] theorem runs_setScrape (e : State) (i : Nat) (s : Scrape) :
    (e.setScrape i s).runs = e.runs := rfl

@[simp] theorem stalled_setScrape (e : State) (i : Nat) (s : Scrape) :
    (e.setScrape i s).stalled = e.stalled := rfl

@[simp] theorem scrapes_setRun (e : State) (n : Nat) (r : Run) :
    (e.setRun n r).scrapes = e.scrapes := rfl

@[simp] theorem runs_setRun (e : State) (n : Nat) (r : Run) :
    (e.setRun n r).runs = e.runs.set n r := rfl

@[simp] theorem stalled_setRun (e : State) (n : Nat) (r : Run) :
    (e.setRun n r).stalled = e.stalled := rfl

@[simp] theorem scrapes_recount (e : State) (place : Nat) (change : Nat → Nat) :
    (e.recount place change).scrapes = e.scrapes := rfl

@[simp] theorem runs_recount (e : State) (place : Nat) (change : Nat → Nat) :
    (e.recount place change).runs = e.runs := rfl

theorem stalled_recount (e : State) (place : Nat) (change : Nat → Nat) (i : Nat) :
    (e.recount place change).stalled i = if i = place then change (e.stalled i) else e.stalled i :=
  rfl

/-- Changes the job of a run.  The children of a composite go on when it has returned. -/
def changeJob (e : State) (i : Nat) (change : Run → Option Job) : Option State := do
  let r ← e.runs[i]?
  let job ← change r
  some (e.setRun i { r with job := job })

/-- Ends the collector of a run that has not returned yet. -/
def endJob (e : State) (i : Nat) (ending : Run → Option Handover) : Option State := do
  let r ← e.runs[i]?
  if r.ending.isSome then none
  let h ← ending r
  some (e.setRun i { r with ending := some h })

/-- The time since a run was started. -/
def elapsed (e : State) (r : Run) : Duration := e.now - r.started

/-! ### Scrapes -/

/-- A scrape begins: it fetches the objects that its collectors read, if there are any. -/
def begin (sc : Scraper) (e : State) (timeout : Option Duration) : State :=
  let deadline := timeout.map (e.now + ·)
  let isFetching := !sc.dependencies.isEmpty
  let phase := if isFetching then .fetching else phaseAfter e.now deadline (some .empty)
  { e with
    scrapes := e.scrapes ++ [⟨deadline, phase, none, [], []⟩]
    fetches := if isFetching then e.fetches ++ [sc.dependencies] else e.fetches }

/-- Ends the fetch of a scrape. -/
def endFetch (e : State) (i : Nat) (snapshot : Option Snapshot) : Option State := do
  let s ← e.scrapes[i]?
  match s.phase with
  | .fetching => some (e.setScrape i { s with phase := phaseAfter e.now s.deadline snapshot })
  | _ => none

def fetchLate (sc : Scraper) (e : State) (i : Nat) : Option State := do
  let s ← e.scrapes[i]?
  if e.isPast s.deadline then e.endFetch i (some (.failed sc.dependencies .timedOut)) else none

/-- Looks up the stalled runs of the next unit. -/
def note (sc : Scraper) (e : State) (i : Nat) : Option State := do
  let s ← e.scrapes[i]?
  match s.phase, s.noted with
  | .collecting _, none =>
    if s.starts.length < sc.units.length then
      some (e.setScrape i { s with noted := some (e.stalled s.starts.length) })
    else none
  | _, _ => none

/-- Starts the next unit of a scrape, unless runs of it are stalled. -/
def launch (sc : Scraper) (e : State) (i : Nat) : Option State := do
  let s ← e.scrapes[i]?
  match s.phase, s.noted with
  | .collecting c, some stalled => do
    let place := s.starts.length
    let (_, collector) ← sc.units[place]?
    if 0 < stalled then
      some (e.setScrape i { s with noted := none, starts := s.starts ++ [.skipped stalled] })
    else
      let run : Run := ⟨i, place, c, e.now, .start collector, none, .running, false⟩
      let e := e.setScrape i
        { s with noted := none, starts := s.starts ++ [.started e.runs.length] }
      some { e with runs := e.runs ++ [run] }
  | _, _ => none

/-- The start of the unit whose turn it is to be waited for, once all units have been started. -/
def nextStart? (sc : Scraper) (s : Scrape) : Option Start :=
  if s.starts.length = sc.units.length then s.starts[s.outcomes.length]? else none

/-- Takes the outcome of the next unit. -/
def collect (sc : Scraper) (e : State) (i : Nat) : Option State := do
  let s ← e.scrapes[i]?
  let h ←
    match nextStart? sc s with
    | none => none
    | some (.skipped stalled) => some (Handover.failed (.stalled stalled) 0)
    | some (.started run) => do
      let r ← e.runs[run]?
      if r.delivered then r.ending else none
  some (e.setScrape i { s with outcomes := s.outcomes ++ [h] })

/-- Gives up on the run of the next unit; a run that has not ended is stalled from now on. -/
def giveUp (sc : Scraper) (e : State) (i : Nat) : Option State := do
  let s ← e.scrapes[i]?
  match nextStart? sc s with
  | some (.started run) => do
    let r ← e.runs[run]?
    if r.delivered || !e.isPast (s.deadline.map (· + grace)) then none
    let waited := e.elapsed r
    let late := Handover.failed (.timeout waited) waited
    let e := e.setScrape i { s with outcomes := s.outcomes ++ [late] }
    if r.status = .running then
      some ((e.setRun run { r with status := .abandoned }).recount r.place (· + 1))
    else some e
  | _ => none

/-! ### Ends of runs -/

/-- A run whose collector has returned ends; it is stalled no longer. -/
def release (e : State) (i : Nat) : Option State := do
  let r ← e.runs[i]?
  if r.ending.isNone then none
  match r.status with
  | .running => some (e.setRun i { r with status := .finished })
  | .abandoned =>
    some ((e.setRun i { r with status := .finished }).recount r.place (· - 1))
  | .finished => none

def deliver (e : State) (i : Nat) : Option State := do
  let r ← e.runs[i]?
  if r.status = .finished then some (e.setRun i { r with delivered := true }) else none

end State

/-! ### Moves -/

/-- The state after a move, if the move can be made. -/
def State.step (sc : Scraper) (e : State) : Move → Option State
  | .pass time => some { e with now := e.now + time }
  | .openGate gate => some { e with openGates := gate :: e.openGates }
  | .begin timeout => some (e.begin sc timeout)
  | .fetched i answer => e.endFetch i (answer.snapshot? sc.dependencies)
  | .fetchLate i => e.fetchLate sc i
  | .note i => e.note sc i
  | .launch i => e.launch sc i
  | .work i rows => e.changeJob i fun r => r.job.step (e.moment r.context rows)
  | .childWork i child rows =>
    e.changeJob i fun r => r.job.stepChild (e.moment r.context rows) child
  | .send i child => e.changeJob i fun r => r.job.send (e.elapsed r) child
  | .receive i => e.changeJob i fun r => if r.ending.isSome then none else r.job.receive
  | .conclude i =>
    e.endJob i fun r => r.job.conclude? (e.isPast r.context.deadline) (e.elapsed r)
  | .release i => e.release i
  | .deliver i => e.deliver i
  | .collect i => e.collect sc i
  | .giveUp i => e.giveUp sc i

/-- The states that some course of moves leads to. -/
inductive Reachable (sc : Scraper) : State → Prop where
  | initial : Reachable sc State.initial
  | step {e e' : State} (m : Move) : Reachable sc e → e.step sc m = some e' → Reachable sc e'

end MetricScraper.Engine
