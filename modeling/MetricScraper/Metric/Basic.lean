/-!
# Metrics and samples

A descriptor names a metric and says what its samples carry; a sample is one value of it, with a
value for each of its label names.
-/

namespace MetricScraper

/-- The kinds of metric. -/
inductive MetricType where
  | counter
  | gauge
  deriving DecidableEq, Repr, Inhabited

/-- The word for a kind of metric in the exposition format. -/
def MetricType.word : MetricType → String
  | .counter => "counter"
  | .gauge => "gauge"

/-- A metric as a collector declares it, before its name is qualified. -/
structure MetricSpec where
  name : String
  help : String
  labels : List String
  type : MetricType
  deriving DecidableEq, Repr, Inhabited

namespace MetricSpec

def counter (name help : String) (labels : List String) : MetricSpec :=
  ⟨name, help, labels, .counter⟩

def gauge (name help : String) (labels : List String) : MetricSpec :=
  ⟨name, help, labels, .gauge⟩

end MetricSpec

/-- The parts of a metric name that are not empty, joined with underscores. -/
def qualifiedName (space subsystem name : String) : String :=
  "_".intercalate ([space, subsystem, name].filter fun part => !part.isEmpty)

/-- A metric under its full name. -/
structure Descriptor where
  name : String
  help : String
  labelNames : List String
  type : MetricType
  deriving DecidableEq, Repr, Inhabited

/-- The descriptor of a declared metric, qualified by a namespace and a subsystem. -/
def Descriptor.ofSpec (space subsystem : String) (spec : MetricSpec) : Descriptor :=
  ⟨qualifiedName space subsystem spec.name, spec.help, spec.labels, spec.type⟩

/-- One value of a metric; the label values stand in the order of the label names. -/
structure Sample where
  descriptor : Descriptor
  value : Float
  labelValues : List String
  deriving DecidableEq, Inhabited

namespace Sample

def name (s : Sample) : String := s.descriptor.name

/-- The label names with their values. -/
def labels (s : Sample) : List (String × String) := s.descriptor.labelNames.zip s.labelValues

/-- The value of the first label of a name. -/
def label? (s : Sample) (name : String) : Option String := s.labels.lookup name

end Sample

end MetricScraper
