import MetricScraper.Collector.Containers
import MetricScraper.Collector.Network
import MetricScraper.Collector.Replication
import MetricScraper.Registry.Basic
import MetricScraper.Settings.Basic

/-!
# Built-in collectors

The collectors that come with the program, and the group of all of them.
-/

namespace MetricScraper

/-- A built-in collector. -/
inductive Builtin where
  | network
  | replication
  | diskStatus
  | containers
  deriving DecidableEq, Repr, Inhabited

namespace Builtin

/-- The name of the group of all built-in collectors. -/
def defaults : String := "[defaults]"

def name : Builtin → String
  | network => Network.name
  | replication => Replication.name
  | diskStatus => DiskStatus.name
  | containers => Containers.name

/-- The sources of file replication that the settings choose. -/
def sources (s : Settings) : Except ConfigError (List Replication.Source) :=
  match Replication.sourcesOfList s.replicationSources with
  | .ok sources => .ok sources
  | .error unknown => .error (.unknownReplicationSource unknown)

/-- The filter of network interfaces that the settings choose. -/
def filter (s : Settings) : Except ConfigError InstanceFilter :=
  match InstanceFilter.ofPatterns s.nicWhitelist s.nicBlacklist with
  | .ok filter => .ok filter
  | .error .whitelist => .error (.invalidPattern .whitelist s.nicWhitelist)
  | .error .blacklist => .error (.invalidPattern .blacklist s.nicBlacklist)

/-- Builds a collector as the settings say. -/
def build (s : Settings) : Builtin → Except ConfigError Collector
  | network => (filter s).map fun f => .single (Network.collect s.space f)
  | replication => (sources s).map fun ss => .composite (Replication.composite s.space ss)
  | diskStatus => .ok (.single (DiskStatus.collect s.space s.disk))
  | containers => .ok (.single (Containers.collect s.space))

/-- The counter objects that file replication reads under the settings. -/
def replicationObjects (s : Settings) : Except ConfigError (List String) :=
  (sources s).map fun ss => ss.map Replication.Source.object

/-- The registry of the built-in collectors. -/
def registry (s : Settings) : Except ConfigError (Registry Builtin) := do
  let r ← Registry.empty.register network.name network []
  let r ← r.register replication.name replication (← replicationObjects s)
  let r ← r.register diskStatus.name diskStatus []
  let r ← r.register containers.name containers []
  r.registerMeta defaults [network.name, replication.name, diskStatus.name, containers.name]

end Builtin

end MetricScraper
