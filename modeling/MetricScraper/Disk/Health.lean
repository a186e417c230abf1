import MetricScraper.Disk.Signal

/-!
# Disk health

The signals of a disk, the number of its critical attributes, and the figures derived from them.
The arithmetic of the figures is written once, over any numbers: it runs on floats and can be read
over exact ones.
-/

namespace MetricScraper.Disk

/-- Signals with their values, and the number of critical conditions met. -/
structure Health where
  /-- The value of each signal that some attribute reports. -/
  signal? : Signal → Option UInt64
  critical : Nat

namespace Health

def empty : Health := ⟨fun _ => none, 0⟩

/-- Adds what one attribute tells; it replaces an earlier value of its signal. -/
def add (h : Health) (a : Attribute) : Health :=
  ⟨fun s => if a.signal? = some s then some (s.valueIn a) else h.signal? s,
    h.critical + a.violations⟩

/-- The health that a list of attributes tells. -/
def assess (attributes : List Attribute) : Health := attributes.foldl add empty

/-- The signals that were reported, in the order of their declaration. -/
def signals (h : Health) : List (Signal × UInt64) :=
  Signal.all.filterMap fun s => (h.signal? s).map fun v => (s, v)

end Health

/-! ### Weights -/

/-- How strongly errors count against the health of a disk. -/
inductive HealthCalculation where
  | standard
  | restricted
  deriving DecidableEq, Repr, Inhabited

/-- Numbers in which the health of a disk can be figured out. -/
class Arithmetic (α : Type) extends Add α, Sub α, Mul α, Div α, LT α, OfScientific α where
  ofCount : UInt64 → α
  ltDec : DecidableRel (fun a b : α => a < b)

instance : Arithmetic Float where
  ofCount := UInt64.toFloat
  ltDec := fun a b => inferInstanceAs (Decidable (a < b))

attribute [reducible, instance] Arithmetic.ltDec

section Figures

variable {α : Type} [Arithmetic α]

/-- The percentage of health that one unit of a signal costs. -/
def HealthCalculation.weights (c : HealthCalculation) : List (Signal × α) :=
  match c with
  | .standard =>
    [(.reallocatedSectors, 1.0), (.readErrorRate, 0.5), (.spinRetries, 3.0),
      (.reallocationEvents, 0.6), (.pendingSectors, 0.6), (.uncorrectableSectors, 1.0)]
  | .restricted =>
    [(.reallocatedSectors, 6.0), (.readErrorRate, 2.0), (.spinRetries, 6.0),
      (.reallocationEvents, 4.0), (.pendingSectors, 4.0), (.uncorrectableSectors, 6.0)]

/-- The nearest number to `x` between zero and one. -/
def clampUnit (x : α) : α := if x < 0.0 then 0.0 else if 1.0 < x then 1.0 else x

/-- The number of a signal, zero if it was not reported. -/
def Health.amount (h : Health) (s : Signal) : α := Arithmetic.ofCount ((h.signal? s).getD 0)

/-- The share of health that a weighted signal leaves. -/
def Health.factor (h : Health) (entry : Signal × α) : α :=
  clampUnit (1.0 - entry.2 * h.amount entry.1 / 100.0)

/-- The health in percent, 100 without any error counts. -/
def Health.percent (h : Health) (c : HealthCalculation) : α :=
  100.0 * ((c.weights (α := α)).map h.factor).foldl (fun product f => product * f) 1.0

/-- The share of the reserve blocks that are left, if the disk reports any. -/
def Health.reservePercent? (h : Health) : Option α :=
  match h.signal? .reserveBlocks with
  | none => none
  | some blocks =>
    if blocks = 0 then none
    else
      let reserve : α := Arithmetic.ofCount blocks
      some (100.0 * reserve / (reserve + h.amount .reallocatedSectors))

end Figures

/-! ### Units -/

/-- The unit in which a disk reports the time it has been powered on. -/
inductive PowerOnUnit where
  | hour
  | min
  | sec
  deriving DecidableEq, Repr, Inhabited

def PowerOnUnit.hours (u : PowerOnUnit) (raw : Float) : Float :=
  match u with
  | .hour => raw
  | .min => raw / 60.0
  | .sec => raw / 3600.0

/-- The unit in which a disk counts what was written to it. -/
inductive WriteUnit where
  | block32MiB
  | sector
  deriving DecidableEq, Repr, Inhabited

/-- Whether `part` stands at the start of some end of the text. -/
def containsText (part : List Char) : List Char → Bool
  | [] => part.isEmpty
  | c :: cs => part.isPrefixOf (c :: cs) || containsText part cs

/-- The unit of the disk of an instance name: disks of one maker count blocks of 32 MiB. -/
def WriteUnit.ofInstance (name : String) : WriteUnit :=
  if containsText "Intel".toList name.toList then .block32MiB else .sector

def WriteUnit.bytes : WriteUnit → Float
  | .block32MiB => 32.0 * 1024.0 * 1024.0
  | .sector => 512.0

/-- The power-on time above which a disk is old. -/
def oldAgeHours : Float := 30000.0

namespace Health

/-- The power-on time in hours, if the disk reports it. -/
def powerOnHours? (h : Health) (u : PowerOnUnit) : Option Float :=
  (h.signal? .powerOnTime).map fun raw => u.hours raw.toFloat

/-- Whether the disk has been powered on for longer than `oldAgeHours`. -/
def isOld (h : Health) (u : PowerOnUnit) : Bool :=
  match h.powerOnHours? u with
  | some hours => oldAgeHours < hours
  | none => false

/-- The number of bytes written to the disk, if it reports it. -/
def writtenBytes? (h : Health) (u : WriteUnit) : Option Float :=
  (h.signal? .lbasWritten).map fun lbas => lbas.toFloat * u.bytes

end Health

end MetricScraper.Disk
