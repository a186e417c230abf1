import MetricScraper.Settings.Basic

/-!
# The command line

Every option has a long name and takes one value, either as the next argument or after an equals
sign.  An option is settled when the next one comes up or the line ends, so that an unknown
argument is noticed before a bad value.
-/

namespace MetricScraper

/-! ### Options -/

inductive CommandOption where
  | collectors
  | space
  | fixture
  | logLevel
  | listenAddress
  | telemetryPath
  | timeoutMargin
  | timeout
  | nicWhitelist
  | nicBlacklist
  | replicationSources
  | powerOnUnit
  | healthCalculation
  | temperatureWarn
  | temperatureCrit
  deriving DecidableEq, Repr, Inhabited

namespace CommandOption

def all : List CommandOption :=
  [collectors, space, fixture, logLevel, listenAddress, telemetryPath, timeoutMargin, timeout,
    nicWhitelist, nicBlacklist, replicationSources, powerOnUnit, healthCalculation,
    temperatureWarn, temperatureCrit]

/-- The name of an option, after the two hyphens. -/
def longName : CommandOption → String
  | collectors => "collectors.enabled"
  | space => "namespace"
  | fixture => "source.fixture"
  | logLevel => "log.level"
  | listenAddress => "web.listen-address"
  | telemetryPath => "telemetry.path"
  | timeoutMargin => "scrape.timeout-margin"
  | timeout => "scrape.timeout"
  | nicWhitelist => "collector.net.nic-whitelist"
  | nicBlacklist => "collector.net.nic-blacklist"
  | replicationSources => "collectors.dfsr.sources-enabled"
  | powerOnUnit => "collector.smart.power-on-unit"
  | healthCalculation => "collector.smart.health-calculation"
  | temperatureWarn => "collector.smart.temperature-warn"
  | temperatureCrit => "collector.smart.temperature-crit"

/-- What the option is for, as the help shows it. -/
def about : CommandOption → String
  | collectors => "Comma separated list of collectors to enable"
  | space => "Namespace prefixed to every metric name"
  | fixture => "JSON fixture to read counters and query results from"
  | logLevel => "Log level"
  | listenAddress => "Address to listen on for web interface and telemetry"
  | telemetryPath => "Path under which to expose metrics"
  | timeoutMargin => "Seconds subtracted from the scraper's timeout header"
  | timeout => "Scrape timeout in seconds when the scraper sends none"
  | nicWhitelist => "Regexp of NIC names to include, whole name has to match"
  | nicBlacklist => "Regexp of NIC names to exclude, whole name has to match"
  | replicationSources => "Comma separated list of DFSR sources to use"
  | powerOnUnit => "Unit power-on time is reported in by the disks: hour, min, sec"
  | healthCalculation => "Weighting of the health percentage: standard, restricted"
  | temperatureWarn => "Temperature in °C above which a warning is logged"
  | temperatureCrit => "Temperature in °C above which an error is logged"

def ofName? (name : String) : Option CommandOption := all.find? fun o => o.longName == name

end CommandOption

/-- Why the arguments give no settings. -/
inductive UsageError where
  | unknownArgument
  /-- An option has no value, or one that is not offered. -/
  | invalidValue
  /-- A value cannot be read. -/
  | valueValidation
  /-- An option comes twice. -/
  | argumentConflict
  /-- A switch was given a value. -/
  | tooManyValues
  | helpWanted
  | versionWanted
  deriving DecidableEq, Repr, Inhabited

def UsageError.message : UsageError → String
  | .unknownArgument => "unexpected argument"
  | .invalidValue => "an option has no value, or one that is not offered"
  | .valueValidation => "the value of an option cannot be read"
  | .argumentConflict => "an option is given twice"
  | .tooManyValues => "a switch takes no value"
  | .helpWanted => "help is wanted"
  | .versionWanted => "the version is wanted"

/-- The help: a line per option. -/
def helpText : String :=
  "Usage: counter-exporter [OPTIONS]\n\nOptions:\n" ++
    String.join (CommandOption.all.map fun o =>
      "  --" ++ o.longName ++ " <VALUE>  " ++ o.about ++ "\n") ++
    "  -h, --help  Print help\n  -V, --version  Print version\n"

/-! ### Values -/

def powerOnUnit? (word : String) : Option Disk.PowerOnUnit :=
  match word with
  | "hour" => some .hour
  | "min" => some .min
  | "sec" => some .sec
  | _ => none

def healthCalculation? (word : String) : Option Disk.HealthCalculation :=
  match word with
  | "standard" => some .standard
  | "restricted" => some .restricted
  | _ => none

/-- A value that was read, or the error of one that was not. -/
def orError {α : Type} (error : UsageError) (value : Option α) : Except UsageError α :=
  match value with
  | some x => .ok x
  | none => .error error

def floatValue (text : String) : Except UsageError Float :=
  orError .valueValidation (Decimal.readFloat? text)

/-- Sets the value of an option. -/
def Settings.set (s : Settings) (text : String) : CommandOption → Except UsageError Settings
  | .collectors => .ok { s with collectors := text }
  | .space => .ok { s with space := text }
  | .fixture => if text.isEmpty then .error .invalidValue else .ok { s with fixture := some text }
  | .logLevel => .ok { s with logLevel := text }
  | .listenAddress =>
    (orError .valueValidation (SocketAddress.ofText? text)).map fun a =>
      { s with web := { s.web with listenAddress := a } }
  | .telemetryPath => .ok { s with web := { s.web with telemetryPath := text } }
  | .timeoutMargin =>
    (floatValue text).map fun x => { s with web := { s.web with timeoutMargin := x } }
  | .timeout => (floatValue text).map fun x => { s with web := { s.web with timeout := x } }
  | .nicWhitelist => .ok { s with nicWhitelist := text }
  | .nicBlacklist => .ok { s with nicBlacklist := text }
  | .replicationSources => .ok { s with replicationSources := text }
  | .powerOnUnit =>
    (orError .invalidValue (powerOnUnit? text)).map fun u =>
      { s with disk := { s.disk with powerOnUnit := u } }
  | .healthCalculation =>
    (orError .invalidValue (healthCalculation? text)).map fun c =>
      { s with disk := { s.disk with healthCalculation := c } }
  | .temperatureWarn =>
    (floatValue text).map fun x => { s with disk := { s.disk with temperatureWarn := some x } }
  | .temperatureCrit =>
    (floatValue text).map fun x => { s with disk := { s.disk with temperatureCrit := some x } }

/-! ### Arguments -/

/-- What an argument looks like. -/
inductive Argument where
  | known (option : CommandOption) (value : Option String)
  | help (value : Option String)
  | version (value : Option String)
  | unknown
  /-- The two hyphens after which nothing is an option. -/
  | escape
  | plain (text : String)
  deriving DecidableEq, Repr, Inhabited

/-- A long argument, without its hyphens. -/
def Argument.ofLong (cs : List Char) : Argument :=
  let name := String.ofList (cs.takeWhile (· ≠ '='))
  let value :=
    match cs.dropWhile (· ≠ '=') with
    | [] => none
    | _ :: rest => some (String.ofList rest)
  if name == "help" then .help value
  else if name == "version" then .version value
  else
    match CommandOption.ofName? name with
    | some o => .known o value
    | none => .unknown

def Argument.ofText (text : String) : Argument :=
  match text.toList with
  | ['-', '-'] => .escape
  | '-' :: '-' :: cs => .ofLong cs
  | '-' :: 'h' :: _ => .help none
  | '-' :: 'V' :: _ => .version none
  | '-' :: _ :: _ => .unknown
  | _ => .plain text

/-- The settings so far, the options that were given, and the one that is not settled yet, with
its value if that has come. -/
structure CommandState where
  settings : Settings
  given : List CommandOption
  pending : Option (CommandOption × Option String)

namespace CommandState

/-- Takes the value of an option. -/
def accept (s : CommandState) (option : CommandOption) (value : String) :
    Except UsageError CommandState :=
  if s.given.contains option then .error .argumentConflict
  else (s.settings.set value option).map fun settings => ⟨settings, option :: s.given, none⟩

/-- Settles the option that is pending. -/
def settle (s : CommandState) : Except UsageError CommandState :=
  match s.pending with
  | none => .ok s
  | some (_, none) => .error .invalidValue
  | some (option, some value) => s.accept option value

/-- A switch that ends the reading of the arguments; it takes no value. -/
def stop (s : CommandState) (value : Option String) (error : UsageError) :
    Except UsageError CommandState :=
  match value, s.settle with
  | some _, _ => .error .tooManyValues
  | none, .error e => .error e
  | none, .ok _ => .error error

/-- Takes in one argument. -/
def argument (s : CommandState) : Argument → Except UsageError CommandState
  | .unknown => .error .unknownArgument
  | .help value => s.stop value .helpWanted
  | .version value => s.stop value .versionWanted
  | .known option none => s.settle.map fun s => { s with pending := some (option, none) }
  | .known option (some value) =>
    match s.settle with
    | .error e => .error e
    | .ok s => s.accept option value
  | .escape => .ok s
  | .plain text =>
    match s.pending with
    | some (option, none) => .ok { s with pending := some (option, some text) }
    | _ => .error .unknownArgument

/-- Takes in all arguments; after the two hyphens none is accepted. -/
def arguments (s : CommandState) : List Argument → Except UsageError CommandState
  | [] => s.settle
  | .escape :: rest => if rest.isEmpty then s.settle else .error .unknownArgument
  | a :: rest =>
    match s.argument a with
    | .error e => .error e
    | .ok s => s.arguments rest

end CommandState

/-- The settings that the arguments of a command line give. -/
def Settings.ofArguments (args : List String) : Except UsageError Settings :=
  let start : CommandState := ⟨.standard, [], none⟩
  (start.arguments (args.map Argument.ofText)).map CommandState.settings

end MetricScraper
