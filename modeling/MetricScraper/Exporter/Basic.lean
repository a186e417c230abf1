import MetricScraper.Engine.Playout
import MetricScraper.Fixture.Source
import MetricScraper.Registry.Builtin

/-!
# The exporter

The program as a whole: its settings, the source that it reads, and the scraper over the
collectors that are enabled.
-/

namespace MetricScraper

/-- What counters and rows are read from. -/
inductive DataSource where
  | fixture (source : FixtureSource)
  /-- No source is configured; every fetch and query fails. -/
  | unavailable
  deriving Inhabited

namespace DataSource

def unavailableReason : String := "no counter source configured"

/-- Fetches a number of objects; `file` is the file as it is now. -/
def fetch (d : DataSource) (file : Option FixtureFile) (objects : List String) (expired : Bool) :
    Except FetchError Snapshot × DataSource :=
  match d with
  | .fixture s =>
    let (answer, s) := s.fetch file objects expired
    (answer, .fixture s)
  | .unavailable => (.error (.unavailable unavailableReason), .unavailable)

/-- Answers a query; `file` is the file as it is now. -/
def rows (d : DataSource) (file : Option FixtureFile) (query : Query) (expired : Bool) :
    Except QueryError (List Row) × DataSource :=
  match d with
  | .fixture s =>
    let (answer, s) := s.rows file query expired
    (answer, .fixture s)
  | .unavailable => (.error (.unavailable unavailableReason), .unavailable)

/-- The source as the sources of a playout. -/
def sources (file : Option FixtureFile) : Engine.Sources DataSource where
  fetch d objects expired :=
    let (answer, d) := d.fetch file objects expired
    ((none, .answered answer), d)
  rows d query expired := d.rows file query expired

end DataSource

/-- Why the program does not start. -/
inductive StartError where
  | config (error : ConfigError)
  | fixture (path : String) (error : FixtureError)
  deriving DecidableEq, Repr, Inhabited

def StartError.message : StartError → String
  | .config e => e.message
  | .fixture path e => e.message path

structure Exporter where
  settings : Settings
  scraper : Scraper
  playout : Engine.Playout DataSource

namespace Exporter

/-- Opens the source that the settings name. -/
def openSource (s : Settings) (file : Option FixtureFile) : Except StartError DataSource :=
  match s.fixture with
  | none => .ok .unavailable
  | some path =>
    match FixtureSource.open? path file with
    | .ok source => .ok (.fixture source)
    | .error e => .error (.fixture path e)

/-- The scraper over the collectors that the settings enable. -/
def scraperOf (s : Settings) : Except ConfigError Scraper := do
  let registry ← Builtin.registry s
  let enabled ← registry.resolve s.enabledNames
  let units ← registry.build (Builtin.build s) enabled
  return .ofUnits s.space units (registry.dependencies enabled)

def orStartError {α : Type} (result : Except ConfigError α) : Except StartError α :=
  match result with
  | .ok x => .ok x
  | .error e => .error (.config e)

/-- Starts the program; the first thing that is wrong keeps it from starting. -/
def start (s : Settings) (file : Option FixtureFile) : Except StartError Exporter := do
  orStartError s.web.validate
  let source ← openSource s file
  let scraper ← orStartError (scraperOf s)
  return ⟨s, scraper, ⟨.initial, source⟩⟩

/-- The names of the collectors, in the order in which they run. -/
def collectors (x : Exporter) : List String := x.scraper.units.map Prod.fst

/-- Runs one scrape. -/
def scrape (x : Exporter) (file : Option FixtureFile) (timeout : Option Duration) :
    Except ScrapeError Report × Exporter :=
  match x.playout.scrapes x.scraper (DataSource.sources file) [timeout] with
  | ([some answer], p) => (answer, { x with playout := p })
  | (_, p) => (.error .context, { x with playout := p })

end Exporter

end MetricScraper
