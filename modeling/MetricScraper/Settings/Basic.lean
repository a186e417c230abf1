import MetricScraper.Collector.DiskStatus
import MetricScraper.Settings.Address
import MetricScraper.Settings.ConfigError
import MetricScraper.Text.CommaList

/-!
# Settings

What can be chosen on the command line, with its defaults.
-/

namespace MetricScraper

/-- How metrics are served. -/
structure WebSettings where
  listenAddress : SocketAddress
  telemetryPath : String
  /-- Seconds by which the timeout of a request is shortened. -/
  timeoutMargin : Float
  /-- Seconds that a scrape may take when a request does not say. -/
  timeout : Float
  deriving Inhabited

namespace WebSettings

/-- The path of the health check. -/
def healthPath : String := "/health"

/-- What keeps the telemetry path from being served next to the other paths. -/
def pathFault? (w : WebSettings) : Option PathFault :=
  if !(w.telemetryPath.toList.head? == some '/') then some .notRooted
  else if w.telemetryPath == healthPath then some .reserved
  else if w.telemetryPath.toList.any fun c => c == ':' || c == '*' then some .holdsPlaceholder
  else none

/-- Checks that the telemetry path can be served. -/
def validate (w : WebSettings) : Except ConfigError Unit :=
  match w.pathFault? with
  | some fault => .error (.invalidTelemetryPath w.telemetryPath fault)
  | none => .ok ()

/-- The margin as a duration; one that is none counts as zero. -/
def margin (w : WebSettings) : Duration := (Duration.ofSeconds? w.timeoutMargin).getD 0

/-- The timeout as a duration, unless it is zero or none. -/
def defaultTimeout? (w : WebSettings) : Option Duration :=
  (Duration.ofSeconds? w.timeout).filter fun d => d ≠ 0

end WebSettings

/-- The configuration of the program. -/
structure Settings where
  /-- The collectors to run, as a comma separated list. -/
  collectors : String
  /-- What every metric name begins with. -/
  space : String
  /-- The path of the file that counters and rows are read from. -/
  fixture : Option String
  logLevel : String
  web : WebSettings
  nicWhitelist : String
  nicBlacklist : String
  /-- The sources of file replication, as a comma separated list. -/
  replicationSources : String
  disk : DiskStatus.Options
  deriving Inhabited

namespace Settings

def standard : Settings where
  collectors := "[defaults]"
  space := "windows"
  fixture := none
  logLevel := "info"
  web := ⟨.v4 [0, 0, 0, 0] 9182, "/metrics", 0.5, 10.0⟩
  nicWhitelist := ".+"
  nicBlacklist := ""
  replicationSources := "connection,folder,volume"
  disk := ⟨.hour, .standard, none, none⟩

/-- The names of the collectors to run. -/
def enabledNames (s : Settings) : List String := Text.parseCommaList s.collectors

end Settings

end MetricScraper
