import MetricScraper.Collector.Work
import MetricScraper.Disk.Health

/-!
# Disk status

What the disks report about themselves: the attribute table of every active disk, the health
figures that follow from it, and whether the disk predicts its own failure.
-/

namespace MetricScraper.DiskStatus

open Disk

/-- The name of the collector. -/
def name : String := "smart"

/-- What can be chosen about the figures. -/
structure Options where
  powerOnUnit : PowerOnUnit
  healthCalculation : HealthCalculation
  temperatureWarn : Option Float
  temperatureCrit : Option Float
  deriving Inhabited

/-! ### Queries -/

def space : String := "root\\wmi"

def dataQuery : Query :=
  (Query.select "MSStorageDriver_ATAPISmartData"
    ["InstanceName", "Active", "SelfTestStatus", "TotalTime", "SmartCapability",
      "VendorSpecific"]).inSpace space

def predictionQuery : Query :=
  (Query.select "MSStorageDriver_FailurePredictStatus"
    ["InstanceName", "PredictFailure"]).inSpace space

/-- What a row says about an active disk. -/
structure DiskRow where
  volume : String
  selfTestStatus : Float
  totalTime : Float
  capability : Float
  vendor : List UInt8
  deriving Inhabited

/-- Reads the row of an active disk, column by column. -/
def DiskRow.ofRow (row : Row) : Except QueryError DiskRow := do
  let volume ← row.text "InstanceName"
  let selfTestStatus ← row.float "SelfTestStatus"
  let totalTime ← row.float "TotalTime"
  let capability ← row.float "SmartCapability"
  let vendor ← row.bytes "VendorSpecific"
  return ⟨volume, selfTestStatus, totalTime, capability, vendor⟩

/-- What a row predicts of the disk of a name. -/
def readPrediction (row : Row) : Except QueryError (String × Bool) := do
  let volume ← row.text "InstanceName"
  let predicted ← row.bool "PredictFailure"
  return (volume, predicted)

/-- All predictions, the latest first; the latest of a name counts. -/
def readPredictions (before : List (String × Bool)) :
    List Row → Except QueryError (List (String × Bool))
  | [] => .ok before
  | row :: rest =>
    match readPrediction row with
    | .ok p => readPredictions (p :: before) rest
    | .error e => .error e

/-! ### Samples -/

/-- A gauge of a disk. -/
def diskMetric (space metric help : String) : Descriptor :=
  .ofSpec space name (.gauge metric help ["volume"])

/-- A gauge of an attribute of a disk. -/
def attributeMetric (space metric help : String) : Descriptor :=
  .ofSpec space name (.gauge metric help ["volume", "id"])

/-- The three samples of an attribute. -/
def attributeSamples (space volume : String) (a : Attribute) : List Sample :=
  let labels := [volume, toString a.id.toNat]
  [⟨attributeMetric space "attribute_normalized" "Current normalized value of a SMART attribute.",
      a.normalized.toFloat, labels⟩,
    ⟨attributeMetric space "attribute_worst" "Worst normalized value of a SMART attribute.",
      a.worst.toFloat, labels⟩,
    ⟨attributeMetric space "attribute_raw" "Raw value of a SMART attribute.",
      a.raw.toFloat, labels⟩]

/-- The signals that are published as they are: all but the power-on time, which has a unit. -/
def signalSamples (space volume : String) (h : Health) : List Sample :=
  (h.signals.filter fun entry => entry.1 ≠ .powerOnTime).map fun (s, value) =>
    ⟨diskMetric space s.metricName "Value derived from SMART attributes.", value.toFloat,
      [volume]⟩

def truth (b : Bool) : Float := if b then 1.0 else 0.0

/-- The samples of an active disk. -/
def diskSamples (space : String) (options : Options) (disk : DiskRow) (predicted : Option Bool) :
    List Sample :=
  let decoded := decode disk.vendor
  let health := Health.assess decoded.attributes
  let gauge (metric help : String) (value : Float) : Sample :=
    ⟨diskMetric space metric help, value, [disk.volume]⟩
  [gauge "self_test_status" "Status of the last self test." disk.selfTestStatus,
    gauge "total_time" "Time the last offline collection took." disk.totalTime,
    gauge "capability" "SMART capability flags." disk.capability] ++
  decoded.attributes.flatMap (attributeSamples space disk.volume) ++
  signalSamples space disk.volume health ++
  ((health.powerOnHours? options.powerOnUnit).map
    (gauge "power_on_hours" "Power-on time in hours.")).toList ++
  ((health.writtenBytes? (WriteUnit.ofInstance disk.volume)).map
    (gauge "written_bytes" "Bytes written to the disk over its lifetime.")).toList ++
  [gauge "old_age" "Whether the disk has been powered on for more than 30000 hours."
      (truth (health.isOld options.powerOnUnit)),
    gauge "critical_attributes" "Number of critical conditions reported by SMART attributes."
      health.critical.toFloat,
    gauge "attribute_decode_errors" "Number of malformed SMART attribute records."
      decoded.skipped.length.toFloat,
    gauge "health_percent" "Disk health estimated from error counting attributes."
      (health.percent options.healthCalculation)] ++
  ((health.reservePercent?).map
    (gauge "reserve_remaining_percent" "Share of reserve blocks not used for reallocation.")
    ).toList ++
  (predicted.map fun p =>
    gauge "predict_failure" "Whether the drive predicts its own failure." (truth p)).toList

/-! ### Logs -/

/-- Whether a temperature is above a limit, if there is one. -/
def isAbove (temperature : UInt64) (limit : Option Float) : Bool :=
  match limit with
  | some x => x < temperature.toFloat
  | none => false

def temperatureLogs (options : Options) (volume : String) (h : Health) : List LogEntry :=
  match h.signal? .temperature with
  | none => []
  | some t =>
    let reading := volume ++ ": temperature " ++ toString t.toNat ++ "°C is above the "
    if isAbove t options.temperatureCrit then [⟨.error, reading ++ "critical limit"⟩]
    else if isAbove t options.temperatureWarn then [⟨.warn, reading ++ "warning limit"⟩]
    else []

/-- A slot that the end of the attribute table cuts off is mentioned. -/
def cutOffLogs (vendor : List UInt8) : List LogEntry :=
  if cutOff vendor = 0 then []
  else
    [⟨.debug, "ignoring " ++ toString (cutOff vendor) ++ " trailing bytes of attribute table"⟩]

/-- What is logged about an active disk. -/
def diskLogs (options : Options) (disk : DiskRow) : List LogEntry :=
  let decoded := decode disk.vendor
  let health := Health.assess decoded.attributes
  cutOffLogs disk.vendor ++
  decoded.skipped.map (fun s => ⟨.warn, disk.volume ++ ": " ++ s.message⟩) ++
  (if health.isOld options.powerOnUnit then
    [⟨.warn, disk.volume ++ ": old age, powered on for more than 30000 hours, " ++
      "check the configured power-on unit"⟩]
  else []) ++
  temperatureLogs options disk.volume health

/-- What is logged at the end: the number of disks that predict their failure, or of all disks. -/
def closingLog (disks failing : Nat) : LogEntry :=
  if 0 < failing then ⟨.error, toString failing ++ " disks predict their failure"⟩
  else ⟨.info, "checked " ++ toString disks ++ " disks"⟩

/-! ### Collecting -/

/-- Reads the row of a disk; an inactive one is passed over. -/
def readDisk? (row : Row) : Except QueryError (Option DiskRow) := do
  if ← row.bool "Active" then return some (← DiskRow.ofRow row) else return none

/-- Goes through the disks, adding to the samples, and to the number of failing ones, of the disks
before; `count` is the number of all rows. -/
def collectDisks (space : String) (options : Options) (predictions : List (String × Bool))
    (count : Nat) (out : List Sample) (failing : Nat) : List Row → Work Unit
  | [] => .log (closingLog count failing) (Work.emit out)
  | row :: rest =>
    .check <|
      match readDisk? row with
      | .error e => .fail (.query e)
      | .ok none => collectDisks space options predictions count out failing rest
      | .ok (some disk) =>
        let predicted := predictions.lookup disk.volume
        let failing := failing + (if predicted = some true then 1 else 0)
        (Work.notes (diskLogs options disk)).bind fun _ =>
          collectDisks space options predictions count
            (out ++ diskSamples space options disk predicted) failing rest

/-- Publishes the attributes and the health of every active disk. -/
def collect (metricSpace : String) (options : Options) : Work Unit :=
  .rows dataQuery fun disks =>
    .check <| .rows predictionQuery fun rows =>
      match readPredictions [] rows with
      | .error e => .fail (.query e)
      | .ok predictions => collectDisks metricSpace options predictions disks.length [] 0 disks

end MetricScraper.DiskStatus
