import MetricScraper.Collector.Work
import MetricScraper.Metric.FieldTable

/-!
# Containers

Memory, processor and network usage of the containers that the compute service runs.  A container
whose statistics are missing or malformed is logged and left out; the others are still published.
-/

namespace MetricScraper.Containers

/-- The name of the collector. -/
def name : String := "container"

/-! ### Fields -/

def containerLabels : List String := ["container_id"]

def interfaceLabels : List String := ["container_id", "interface"]

def available : MetricSpec := .counter "available" "Available" containerLabels

def memoryFields : List Field := [
  ⟨"MemoryUsageCommitBytes",
    .gauge "memory_usage_commit_bytes" "Memory Usage Commit Bytes" containerLabels⟩,
  ⟨"MemoryUsageCommitPeakBytes",
    .gauge "memory_usage_commit_peak_bytes" "Memory Usage Commit Peak Bytes" containerLabels⟩,
  ⟨"MemoryUsagePrivateWorkingSetBytes",
    .gauge "memory_usage_private_working_set_bytes" "Memory Usage Private Working Set Bytes"
      containerLabels⟩]

/-- Times, which the service counts in ticks. -/
def processorFields : List Field := [
  ⟨"TotalRuntime100ns",
    .counter "cpu_usage_seconds_total" "Total Run time in Seconds" containerLabels⟩,
  ⟨"RuntimeUser100ns",
    .counter "cpu_usage_seconds_usermode" "Run Time in User mode in Seconds" containerLabels⟩,
  ⟨"RuntimeKernel100ns",
    .counter "cpu_usage_seconds_kernelmode" "Run time in Kernel mode in Seconds"
      containerLabels⟩]

def networkFields : List Field := [
  ⟨"BytesReceived",
    .counter "network_receive_bytes_total" "Bytes Received on Interface" interfaceLabels⟩,
  ⟨"BytesSent",
    .counter "network_transmit_bytes_total" "Bytes Sent on Interface" interfaceLabels⟩,
  ⟨"PacketsReceived",
    .counter "network_receive_packets_total" "Packets Received on Interface" interfaceLabels⟩,
  ⟨"PacketsSent",
    .counter "network_transmit_packets_total" "Packets Sent on Interface" interfaceLabels⟩,
  ⟨"DroppedPacketsIncoming",
    .counter "network_receive_packets_dropped_total" "Dropped Incoming Packets on Interface"
      interfaceLabels⟩,
  ⟨"DroppedPacketsOutgoing",
    .counter "network_transmit_packets_dropped_total" "Dropped Outgoing Packets on Interface"
      interfaceLabels⟩]

/-- The number of ticks in a second. -/
def ticksPerSecond : Float := 10000000.0

/-! ### Queries -/

def space : String := "hcs"

def systemQuery : Query := (Query.select "HCS_ComputeSystem" ["Id", "Type"]).inSpace space

def statisticsQuery : Query :=
  (Query.select "HCS_ContainerStatistics"
    ("Id" :: (memoryFields ++ processorFields).map Field.counter)).inSpace space

def networkQuery : Query :=
  (Query.select "HCS_ContainerNetworkStatistics"
    ("ContainerId" :: "EndpointId" :: networkFields.map Field.counter)).inSpace space

/-- The ids of the systems that are containers, in row order. -/
def readIds : List Row → Except QueryError (List String)
  | [] => .ok []
  | row :: rest => do
    if (← row.text "Type") == "Container" then
      let id ← row.text "Id"
      let ids ← readIds rest
      return id :: ids
    else readIds rest

/-- The rows with the text that a column identifies them by, in row order. -/
def keyRows (column : String) : List Row → Except QueryError (List (String × Row))
  | [] => .ok []
  | row :: rest => do
    let key ← row.text column
    let keyed ← keyRows column rest
    return (key, row) :: keyed

/-- The last row of a key. -/
def lastRow? (keyed : List (String × Row)) (key : String) : Option Row := keyed.reverse.lookup key

/-- The rows of a key, in row order. -/
def rowsOf (keyed : List (String × Row)) (key : String) : List Row :=
  (keyed.filter fun entry => entry.1 == key).map Prod.snd

/-! ### Samples -/

/-- The id of a container as a label. -/
def label (id : String) : String := "docker://" ++ id

/-- A column that has to hold a number. -/
def number (row : Row) (column : String) : Except QueryError (Option Float) :=
  (row.float column).map some

/-- A column that has to hold a number of ticks, in seconds. -/
def seconds (row : Row) (column : String) : Except QueryError (Option Float) :=
  (row.float column).map fun ticks => some (ticks / ticksPerSecond)

def interfaceSamples (table : FieldTable) (id : String) (row : Row) :
    Except QueryError (List Sample) := do
  let endpoint ← row.text "EndpointId"
  table.readInstance [label id, endpoint] (number row)

/-- The samples of the interfaces of a container, one interface after another. -/
def interfacesSamples (table : FieldTable) (id : String) :
    List Row → Except QueryError (List Sample)
  | [] => .ok []
  | row :: rest => do
    let samples ← interfaceSamples table id row
    let others ← interfacesSamples table id rest
    return samples ++ others

/-- All samples of a container. -/
def containerSamples (metricSpace id : String) (statistics : Row) (interfaces : List Row) :
    Except QueryError (List Sample) := do
  let table := FieldTable.ofFields metricSpace name
  let memory ← (table memoryFields).readInstance [label id] (number statistics)
  let processor ← (table processorFields).readInstance [label id] (seconds statistics)
  let network ← interfacesSamples (table networkFields) id interfaces
  return ⟨.ofSpec metricSpace name available, 1.0, [label id]⟩ :: memory ++ processor ++ network

/-- What one container contributes, with what is logged about it. -/
def containerPart (metricSpace id : String) (statistics : Option Row) (interfaces : List Row) :
    List Sample × List LogEntry :=
  match statistics with
  | none => ([], [⟨.error, "no statistics for container " ++ id⟩])
  | some row =>
    match containerSamples metricSpace id row interfaces with
    | .ok samples =>
      (samples,
        if interfaces.isEmpty then
          [⟨.warn, "no network statistics for container " ++ label id⟩]
        else [])
    | .error e =>
      ([], [⟨.error,
        "failed to read statistics of container " ++ id ++ ": " ++ e.message⟩])

/-! ### Collecting -/

/-- Goes through the containers, adding to the samples of those before. -/
def collectContainers (metricSpace : String) (statistics network : List (String × Row))
    (out : List Sample) : List String → Work Unit
  | [] => Work.emit out
  | id :: rest =>
    let (samples, logs) :=
      containerPart metricSpace id (lastRow? statistics id) (rowsOf network id)
    .check <| (Work.notes logs).bind fun _ =>
      collectContainers metricSpace statistics network (out ++ samples) rest

/-- Goes on with a result; an error of a query ends the run. -/
def orFail {α : Type} (result : Except QueryError α) (next : α → Work Unit) : Work Unit :=
  match result with
  | .ok x => next x
  | .error e => .fail (.query e)

/-- Publishes the usage of every container. -/
def collect (metricSpace : String) : Work Unit :=
  .rows systemQuery fun systems =>
    orFail (readIds systems) fun ids =>
      if ids.isEmpty then Work.note .warn "no containers on node"
      else
        .check <| .rows statisticsQuery fun statisticsRows =>
          orFail (keyRows "Id" statisticsRows) fun statistics =>
            .check <| .rows networkQuery fun networkRows =>
              orFail (keyRows "ContainerId" networkRows) fun network =>
                collectContainers metricSpace statistics network [] ids

end MetricScraper.Containers
