import MetricScraper.Disk.AttributeTable

/-!
# Signals

Attributes report signals: several ids may stand for one.  For each known id a rule names the
signal and the conditions under which the attribute is critical.
-/

namespace MetricScraper.Disk

/-- What attributes tell about the health of a disk. -/
inductive Signal where
  | readErrorRate
  | spinUpTime
  | reallocatedSectors
  | powerOnTime
  | spinRetries
  | reserveBlocks
  | programFailures
  | eraseFailures
  | endToEndErrors
  | commandTimeouts
  | temperature
  | reallocationEvents
  | pendingSectors
  | uncorrectableSectors
  | crcErrors
  | offTrackErrors
  | lifetimeRemaining
  | lbasWritten
  deriving DecidableEq, Repr, Inhabited

namespace Signal

/-- Every signal, in the order in which they are published. -/
def all : List Signal :=
  [readErrorRate, spinUpTime, reallocatedSectors, powerOnTime, spinRetries, reserveBlocks,
    programFailures, eraseFailures, endToEndErrors, commandTimeouts, temperature,
    reallocationEvents, pendingSectors, uncorrectableSectors, crcErrors, offTrackErrors,
    lifetimeRemaining, lbasWritten]

/-- The metric name of a signal. -/
def metricName : Signal → String
  | readErrorRate => "read_error_rate"
  | spinUpTime => "spin_up_time_milliseconds"
  | reallocatedSectors => "reallocated_sectors"
  | powerOnTime => "power_on_time"
  | spinRetries => "spin_retries"
  | reserveBlocks => "reserve_blocks"
  | programFailures => "program_failures"
  | eraseFailures => "erase_failures"
  | endToEndErrors => "end_to_end_errors"
  | commandTimeouts => "command_timeouts"
  | temperature => "temperature_celsius"
  | reallocationEvents => "reallocation_events"
  | pendingSectors => "pending_sectors"
  | uncorrectableSectors => "uncorrectable_sectors"
  | crcErrors => "crc_errors"
  | offTrackErrors => "off_track_errors"
  | lifetimeRemaining => "lifetime_remaining_percent"
  | lbasWritten => "lbas_written"

/-- The value of a signal in an attribute that reports it: the spin-up time is the two raw bytes
from offset 10 on, the remaining lifetime is the normalized value, all else is the raw value. -/
def valueIn (s : Signal) (a : Attribute) : UInt64 :=
  match s with
  | spinUpTime => littleEndian ((a.rawBytes.drop 2).take 2)
  | lifetimeRemaining => a.normalized.toUInt64
  | _ => a.raw

end Signal

/-- A limit that the normalized values must stay above. -/
inductive Threshold where
  | unlimited
  /-- Critical when the normalized or the worst value is at most the limit. -/
  | either (limit : UInt8)
  /-- Critical when the worst value is at most the limit. -/
  | worst (limit : UInt8)
  deriving DecidableEq, Repr, Inhabited

def Threshold.isReached (t : Threshold) (a : Attribute) : Bool :=
  match t with
  | .unlimited => false
  | .either limit => a.normalized ≤ limit || a.worst ≤ limit
  | .worst limit => a.worst ≤ limit

/-- What is known about an attribute id. -/
structure Rule where
  signal : Option Signal
  threshold : Threshold
  /-- Whether a raw value other than zero is critical. -/
  rawIsCritical : Bool
  deriving DecidableEq, Repr, Inhabited

/-- Whether the attribute has a raw value that the rule counts as critical. -/
def Rule.rawIsReached (r : Rule) (a : Attribute) : Bool := r.rawIsCritical && a.raw != 0

/-- The number of critical conditions that an attribute meets. -/
def Rule.violations (r : Rule) (a : Attribute) : Nat :=
  (if r.threshold.isReached a then 1 else 0) + (if r.rawIsReached a then 1 else 0)

/-- The known attribute ids and their rules. -/
def ruleTable : List (List UInt8 × Rule) := [
  ([1], ⟨some .readErrorRate, .either 50, false⟩),
  ([3], ⟨some .spinUpTime, .either 50, false⟩),
  ([5], ⟨some .reallocatedSectors, .either 10, false⟩),
  ([7], ⟨none, .either 60, false⟩),
  ([9], ⟨some .powerOnTime, .unlimited, false⟩),
  ([10], ⟨some .spinRetries, .unlimited, true⟩),
  ([170], ⟨some .reserveBlocks, .either 10, false⟩),
  ([171, 181], ⟨some .programFailures, .either 10, false⟩),
  ([172, 182], ⟨some .eraseFailures, .either 10, false⟩),
  ([173, 177, 179, 183, 226, 232], ⟨none, .either 10, false⟩),
  ([180], ⟨some .reserveBlocks, .unlimited, false⟩),
  ([184], ⟨some .endToEndErrors, .either 50, true⟩),
  ([188], ⟨some .commandTimeouts, .unlimited, true⟩),
  ([194], ⟨some .temperature, .unlimited, false⟩),
  ([196], ⟨some .reallocationEvents, .unlimited, false⟩),
  ([197], ⟨some .pendingSectors, .unlimited, true⟩),
  ([198], ⟨some .uncorrectableSectors, .unlimited, true⟩),
  ([199], ⟨some .crcErrors, .unlimited, true⟩),
  ([200], ⟨none, .either 99, false⟩),
  ([201], ⟨some .offTrackErrors, .unlimited, true⟩),
  ([202, 231, 233], ⟨some .lifetimeRemaining, .either 10, false⟩),
  ([225, 241, 246], ⟨some .lbasWritten, .unlimited, false⟩),
  ([230], ⟨none, .worst 90, false⟩)]

/-- The rule of an attribute id, if the id is known. -/
def rule? (id : UInt8) : Option Rule :=
  (ruleTable.find? fun entry => entry.1.contains id).map Prod.snd

/-- The signal that an attribute reports, if any. -/
def Attribute.signal? (a : Attribute) : Option Signal := (rule? a.id).bind Rule.signal

/-- The number of critical conditions that an attribute meets under the rule of its id. -/
def Attribute.violations (a : Attribute) : Nat :=
  match rule? a.id with
  | some r => r.violations a
  | none => 0

end MetricScraper.Disk
