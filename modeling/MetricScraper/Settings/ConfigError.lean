import MetricScraper.Pattern.InstanceFilter
import MetricScraper.Text.Quoted

/-!
# Configuration errors

What can be wrong with a configuration; any of it keeps the program from starting.
-/

namespace MetricScraper

/-- Why a path cannot be served. -/
inductive PathFault where
  | notRooted
  | reserved
  /-- It holds a character that stands for a part of a path. -/
  | holdsPlaceholder
  deriving DecidableEq, Repr, Inhabited

def PathFault.message : PathFault → String
  | .notRooted => "must start with '/'"
  | .reserved => "reserved for the health check"
  | .holdsPlaceholder => "must not contain ':' or '*'"

inductive ConfigError where
  /-- The name of a collector, or of a group of them, is taken. -/
  | duplicateCollector (name : String)
  | unknownCollectors (names : List String)
  /-- A group refers to a collector that is not registered. -/
  | invalidMeta (name member : String)
  /-- A pattern of a filter does not compile. -/
  | invalidPattern (part : FilterPart) (pattern : String)
  | unknownReplicationSource (name : String)
  | invalidTelemetryPath (path : String) (fault : PathFault)
  deriving DecidableEq, Repr, Inhabited

def ConfigError.message : ConfigError → String
  | .duplicateCollector name => "collector " ++ Text.quote name ++ " is already registered"
  | .unknownCollectors names => "unknown collectors: " ++ ", ".intercalate names
  | .invalidMeta name member =>
    "meta entry " ++ Text.quote name ++ " refers to unknown collector " ++ Text.quote member
  | .invalidPattern part pattern =>
    "invalid pattern " ++ Text.quote pattern ++ " for " ++ part.word
  | .unknownReplicationSource name =>
    "unknown dfsr source " ++ Text.quote name ++ ", expected one of connection, folder, volume"
  | .invalidTelemetryPath path fault =>
    "invalid telemetry path " ++ Text.quote path ++ ": " ++ fault.message

end MetricScraper
