import MetricScraper.Counter.Snapshot
import MetricScraper.Metric.Basic

/-!
# Field tables

Most collectors publish a fixed choice of counters, each as one metric.  A field table lists them,
and turns the counters of an instance into samples in table order.
-/

namespace MetricScraper

/-- A counter, or column, of a source and the metric it is published as. -/
structure Field where
  counter : String
  spec : MetricSpec
  deriving DecidableEq, Repr, Inhabited

/-- A list of fields with their metrics under full names. -/
structure FieldTable where
  fields : List (String × Descriptor)
  deriving DecidableEq, Repr, Inhabited

namespace FieldTable

def ofFields (space subsystem : String) (fields : List Field) : FieldTable :=
  ⟨fields.map fun f => (f.counter, Descriptor.ofSpec space subsystem f.spec)⟩

/-- The samples of the fields that `lookup` has a value for, up to its first error: with it come
the samples of the fields before. -/
def collectFields {ε : Type} (labels : List String) (lookup : String → Except ε (Option Float)) :
    List (String × Descriptor) → List Sample × Except ε Unit
  | [] => ([], .ok ())
  | (counter, descriptor) :: rest =>
    match lookup counter with
    | .error e => ([], .error e)
    | .ok found =>
      let (samples, result) := collectFields labels lookup rest
      match found with
      | some value => (⟨descriptor, value, labels⟩ :: samples, result)
      | none => (samples, result)

/-- The samples of one instance, and the error that cut them short. -/
def collectInstance {ε : Type} (t : FieldTable) (labels : List String)
    (lookup : String → Except ε (Option Float)) : List Sample × Except ε Unit :=
  collectFields labels lookup t.fields

/-- The samples of one instance, unless an error cuts them short. -/
def readInstance {ε : Type} (t : FieldTable) (labels : List String)
    (lookup : String → Except ε (Option Float)) : Except ε (List Sample) :=
  match t.collectInstance labels lookup with
  | (samples, .ok _) => .ok samples
  | (_, .error e) => .error e

/-- The samples of one instance whose counters can all be read. -/
def instanceSamples (t : FieldTable) (i : Instance) : List Sample :=
  t.fields.filterMap fun (counter, descriptor) =>
    (i.counter? counter).map fun value => ⟨descriptor, value, [i.label]⟩

/-- The samples of every instance of a counter table, labelled with the name of the instance. -/
def collectTable (t : FieldTable) (table : CounterTable) : List Sample :=
  table.instances.flatMap t.instanceSamples

end FieldTable

end MetricScraper
