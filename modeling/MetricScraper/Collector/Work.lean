import MetricScraper.Collector.Failure
import MetricScraper.Metric.Basic

/-!
# The work of a collector

A run of a collector is a course of requests: for tables, for rows, for a look at the clock, for
leave to go on.  The work says what comes next after each answer; a refusal ends the run.  Samples
and log entries are handed out on the way.
-/

namespace MetricScraper

/-! ### Logs -/

inductive LogLevel where
  | error
  | warn
  | info
  | debug
  deriving DecidableEq, Repr, Inhabited

def LogLevel.word : LogLevel → String
  | .error => "ERROR"
  | .warn => "WARN"
  | .info => "INFO"
  | .debug => "DEBUG"

structure LogEntry where
  level : LogLevel
  message : String
  deriving DecidableEq, Repr, Inhabited

/-! ### Work -/

/-- What a collector does in one run, up to a result of type `α`. -/
inductive Work (α : Type) where
  | done (result : α)
  | fail (error : CollectError)
  | panic
  /-- Hands out samples. -/
  | push (samples : List Sample) (rest : Work α)
  | log (entry : LogEntry) (rest : Work α)
  /-- Asks for the table of an object. -/
  | table (object : String) (next : CounterTable → Work α)
  /-- Asks for the rows of a query. -/
  | rows (query : Query) (next : List Row → Work α)
  /-- Goes on only before the deadline. -/
  | check (rest : Work α)
  /-- Waits until a gate is open. -/
  | await (gate : String) (rest : Work α)

namespace Work

variable {α β : Type}

/-- One work after another. -/
def bind : Work α → (α → Work β) → Work β
  | .done result, f => f result
  | .fail error, _ => .fail error
  | .panic, _ => .panic
  | .push samples rest, f => .push samples (rest.bind f)
  | .log entry rest, f => .log entry (rest.bind f)
  | .table object next, f => .table object fun t => (next t).bind f
  | .rows query next, f => .rows query fun r => (next r).bind f
  | .check rest, f => .check (rest.bind f)
  | .await gate rest, f => .await gate (rest.bind f)

instance : Monad Work where
  pure := .done
  bind := bind

def emit (samples : List Sample) : Work Unit := .push samples (.done ())

def note (level : LogLevel) (message : String) : Work Unit := .log ⟨level, message⟩ (.done ())

def notes (entries : List LogEntry) : Work Unit :=
  entries.foldr (fun entry rest => .log entry rest) (.done ())

def checkDeadline : Work Unit := .check (.done ())

end Work

/-! ### Runs -/

/-- What a run has done so far. -/
structure Record where
  samples : List Sample
  calls : List Query
  /-- How often the clock was looked at. -/
  looks : Nat
  logs : List LogEntry
  deriving Inhabited

namespace Record

def empty : Record := ⟨[], [], 0, []⟩

/-- A run that begins with samples of others before its own. -/
def after (samples : List Sample) : Record := ⟨samples, [], 0, []⟩

def push (r : Record) (samples : List Sample) : Record := { r with samples := r.samples ++ samples }

def log (r : Record) (entry : LogEntry) : Record := { r with logs := r.logs ++ [entry] }

def call (r : Record) (query : Query) : Record := { r with calls := r.calls ++ [query] }

def look (r : Record) : Record := { r with looks := r.looks + 1 }

end Record

/-- What a collector can get at some moment of its run. -/
structure Moment where
  table : String → Except CollectError CounterTable
  rows : Query → Except QueryError (List Row)
  /-- The time since the scrape began, once its deadline has passed. -/
  late : Option Duration
  isOpen : String → Bool

/-- How a run ended; a panic has no result of its own. -/
inductive Ending (α : Type) where
  | done (result : α)
  | failed (error : CollectError)
  | panicked
  deriving Inhabited

/-- What the run of a collector hands over when it ends. -/
structure Handover where
  samples : List Sample
  result : Except CollectError Unit
  elapsed : Duration
  deriving Inhabited

namespace Handover

/-- A run that has nothing to hand over but an error. -/
def failed (error : CollectError) (elapsed : Duration) : Handover := ⟨[], .error error, elapsed⟩

def isOk (h : Handover) : Bool :=
  match h.result with
  | .ok _ => true
  | .error _ => false

/-- What a run hands over that ended: its samples, even when it failed; nothing after a panic. -/
def ofEnding (samples : List Sample) (elapsed : Duration) : Ending Unit → Handover
  | .done _ => ⟨samples, .ok (), elapsed⟩
  | .failed error => ⟨samples, .error error, elapsed⟩
  | .panicked => failed .panicked elapsed

end Handover

/-- A course of moments: what can be got, from what has been done. -/
abbrev World := Record → Moment

namespace Work

variable {α : Type}

/-- Runs a work from its start to its end, where no gate holds it up. -/
def run (world : World) : Work α → Record → Record × Ending α
  | .done result, r => (r, .done result)
  | .fail error, r => (r, .failed error)
  | .panic, r => (r, .panicked)
  | .push samples rest, r => rest.run world (r.push samples)
  | .log entry rest, r => rest.run world (r.log entry)
  | .table object next, r =>
    match (world r).table object with
    | .ok t => (next t).run world r
    | .error e => (r, .failed e)
  | .rows query next, r =>
    match (world r).rows query with
    | .ok answer => (next answer).run world (r.call query)
    | .error e => (r.call query, .failed (.query e))
  | .check rest, r =>
    match (world r).late with
    | none => rest.run world r.look
    | some waited => (r.look, .failed (.timeout waited))
  | .await _ rest, r => rest.run world r

end Work

/-! ### Tasks -/

/-- A run that is under way: what it has done, and what is left to do. -/
structure Task where
  record : Record
  work : Work Unit

namespace Task

def start (work : Work Unit) : Task := ⟨Record.empty, work⟩

/-- How the run ended, if it has. -/
def ending? (t : Task) : Option (Ending Unit) :=
  match t.work with
  | .done result => some (.done result)
  | .fail error => some (.failed error)
  | .panic => some .panicked
  | _ => none

/-- What the run hands over, if it has ended. -/
def handover? (t : Task) (elapsed : Duration) : Option Handover :=
  t.ending?.map (Handover.ofEnding t.record.samples elapsed)

/-- The next step of the run; `none` when it has ended or waits at a closed gate. -/
def step (m : Moment) (t : Task) : Option Task :=
  match t.work with
  | .done _ => none
  | .fail _ => none
  | .panic => none
  | .push samples rest => some ⟨t.record.push samples, rest⟩
  | .log entry rest => some ⟨t.record.log entry, rest⟩
  | .table object next =>
    match m.table object with
    | .ok table => some ⟨t.record, next table⟩
    | .error e => some ⟨t.record, .fail e⟩
  | .rows query next =>
    match m.rows query with
    | .ok rows => some ⟨t.record.call query, next rows⟩
    | .error e => some ⟨t.record.call query, .fail (.query e)⟩
  | .check rest =>
    match m.late with
    | none => some ⟨t.record.look, rest⟩
    | some waited => some ⟨t.record.look, .fail (.timeout waited)⟩
  | .await gate rest => if m.isOpen gate then some ⟨t.record, rest⟩ else none

end Task

end MetricScraper
