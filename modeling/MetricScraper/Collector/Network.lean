import MetricScraper.Collector.Composite
import MetricScraper.Metric.FieldTable
import MetricScraper.Pattern.InstanceFilter

/-!
# Network interfaces

The raw counters of the network interfaces whose names pass a filter, one series per interface.
-/

namespace MetricScraper.Network

/-- The name of the collector. -/
def name : String := "net"

def className : String := "Win32_PerfRawData_Tcpip_NetworkInterface"

/-- A column that counts, and its metric. -/
def counted (column metric : String) : Field :=
  ⟨column, .counter metric ("(Network." ++ column ++ ")") ["nic"]⟩

def fields : List Field := [
  counted "BytesReceivedPerSec" "bytes_received_total",
  counted "BytesSentPerSec" "bytes_sent_total",
  counted "BytesTotalPerSec" "bytes_total",
  counted "PacketsOutboundDiscarded" "packets_outbound_discarded",
  counted "PacketsOutboundErrors" "packets_outbound_errors",
  counted "PacketsPerSec" "packets_total",
  counted "PacketsReceivedDiscarded" "packets_received_discarded",
  counted "PacketsReceivedErrors" "packets_received_errors",
  counted "PacketsReceivedPerSec" "packets_received_total",
  counted "PacketsReceivedUnknown" "packets_received_unknown",
  counted "PacketsSentPerSec" "packets_sent_total"]

def query : Query := .select className ("Name" :: fields.map Field.counter)

/-- The name of an interface as a label: every character that is not a letter or digit of ASCII
becomes an underscore. -/
def mangle (name : String) : String :=
  String.ofList (name.toList.map fun c => if c.isAlphanum then c else '_')

/-- The samples of one row; a row that the filter refuses, or without a name, has none. -/
def rowSamples (filter : InstanceFilter) (table : FieldTable) (row : Row) :
    Except QueryError (List Sample) :=
  match row.text "Name" with
  | .error e => .error e
  | .ok name =>
    if !filter.admits name || (mangle name).isEmpty then .ok []
    else table.readInstance [mangle name] row.float?

/-- Goes through the rows, adding to the samples of the rows before. -/
def collectRows (filter : InstanceFilter) (table : FieldTable) (out : List Sample) :
    List Row → Work Unit
  | [] => Work.emit out
  | row :: rest =>
    .check <|
      match rowSamples filter table row with
      | .error e => .fail (.query e)
      | .ok samples => collectRows filter table (out ++ samples) rest

/-- Publishes the counters of the interfaces that pass the filter. -/
def collect (space : String) (filter : InstanceFilter) : Work Unit :=
  .rows query (collectRows filter (FieldTable.ofFields space name fields) [])

end MetricScraper.Network
