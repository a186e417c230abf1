import MetricScraper.Collector.Work

/-!
# Composite collectors

A composite runs its children side by side and gives each of them a duration and a success sample.
The samples of a child count only when it succeeded; a child that does not answer before the
deadline has timed out, and hides nothing of the others.
-/

namespace MetricScraper

/-- A named part of a composite. -/
structure Child where
  name : String
  work : Work Unit

/-- A collector made of children. -/
structure Composite where
  name : String
  children : List Child
  duration : Descriptor
  success : Descriptor

/-- The two figures that are kept of every collector, by the name of the collector. -/
def durationSpec (help : String) : MetricSpec :=
  .gauge "collector_duration_seconds" help ["collector"]

def successSpec (help : String) : MetricSpec := .gauge "collector_success" help ["collector"]

/-- The duration and the success of a collector as samples. -/
def metaSamples (duration success : Descriptor) (name : String) (elapsed : Duration)
    (succeeded : Bool) : List Sample :=
  [⟨duration, elapsed.toSeconds, [name]⟩, ⟨success, if succeeded then 1.0 else 0.0, [name]⟩]

namespace Composite

def ofChildren (space name : String) (children : List Child) : Composite :=
  ⟨name, children,
    .ofSpec space name (durationSpec "Duration of a child collection."),
    .ofSpec space name (successSpec "Whether a child collector succeeded.")⟩

def childLog (c : Composite) (child : Child) (h : Handover) : LogEntry :=
  let after := " after " ++ h.elapsed.secondsText ++ "s"
  match h.result with
  | .ok _ => ⟨.debug, c.name ++ " child " ++ child.name ++ " succeeded" ++ after⟩
  | .error e =>
    ⟨.error, c.name ++ " child " ++ child.name ++ " failed" ++ after ++ ": " ++ e.message⟩

def logs (c : Composite) (runs : List Handover) : List LogEntry :=
  (c.children.zip runs).map fun (child, h) => c.childLog child h

/-- The result of the whole: it succeeds when every child does. -/
def result (c : Composite) (failed : Nat) : Except CollectError Unit :=
  if 0 < failed then .error (.childrenFailed failed c.children.length) else .ok ()

/-- Takes in one child: the samples so far and the number of failed children so far. -/
def append (c : Composite) (done : List Sample × Nat) (part : Child × Handover) :
    List Sample × Nat :=
  let figures :=
    metaSamples c.duration c.success part.1.name part.2.elapsed part.2.isOk
  match part.2.result with
  | .ok _ => (done.1 ++ part.2.samples ++ figures, done.2)
  | .error _ => (done.1 ++ figures, done.2 + 1)

/-- Appends the output of the children to samples of others, child after child. -/
def collect (c : Composite) (runs : List Handover) (samples : List Sample) :
    List Sample × Except CollectError Unit :=
  let (samples, failed) := (c.children.zip runs).foldl c.append (samples, 0)
  (samples, c.result failed)

/-- What the composite hands over once the runs of its children are settled. -/
def handover (c : Composite) (runs : List Handover) (elapsed : Duration) : Handover :=
  let (samples, result) := c.collect runs []
  ⟨samples, result, elapsed⟩

end Composite

/-! ### Collectors -/

/-- A collector: a work of its own, or several side by side. -/
inductive Collector where
  | single (work : Work Unit)
  | composite (c : Composite)

namespace Collector

/-- Runs a child where nothing holds it up. -/
def runChild (world : World) (child : Child) : Handover :=
  let (record, ending) := child.work.run world Record.empty
  Handover.ofEnding record.samples 0 ending

/-- The runs of the children of a composite where nothing holds them up.  When the deadline has
passed before they start, none of them is waited for. -/
def runChildren (world : World) (c : Composite) : List Handover :=
  match (world Record.empty).late with
  | some waited => c.children.map fun _ => Handover.failed (.timeout waited) waited
  | none => c.children.map (runChild world)

def endingOf : Except CollectError Unit → Ending Unit
  | .ok _ => .done ()
  | .error e => .failed e

/-- Runs a collector where nothing holds it up, on top of what the record already has. -/
def run (world : World) : Collector → Record → Record × Ending Unit
  | .single work, r => work.run world r
  | .composite c, r =>
    let runs := runChildren world c
    let (samples, result) := c.collect runs r.samples
    (⟨samples, r.calls, r.looks, r.logs ++ c.logs runs⟩, endingOf result)

end Collector

end MetricScraper
