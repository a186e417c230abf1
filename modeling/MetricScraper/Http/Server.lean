import MetricScraper.Exporter.Basic
import MetricScraper.Http.Target
import MetricScraper.Http.Timeout
import MetricScraper.Metric.Exposition

/-!
# Requests and responses

Three paths are served: the telemetry path, a health check, and a landing page that leads to the
metrics.  All of them can be read, and nothing else.
-/

namespace MetricScraper.Http

structure Request where
  method : String
  /-- The path, with what may follow it after a question mark. -/
  target : String
  headers : List Header
  deriving DecidableEq, Repr, Inhabited

/-- Whether a text is a name in the grammar of requests: of a method or of a header. -/
def isToken (text : String) : Bool :=
  let isTokenChar (c : Char) : Bool :=
    c.isAlphanum || c.toNat = 0x27 || c.toNat = 0x60 || "!#$%&*+-.^_|~".toList.contains c
  !text.isEmpty && text.toList.all isTokenChar

/-- Whether a header has a name, and a value without control characters other than tabs. -/
def Header.isWellFormed (h : Header) : Bool :=
  isToken h.name && h.value.all fun b => (32 ≤ b && b != 127) || b = 9

/-- Whether the parts of a request are what they should be. -/
def Request.isWellFormed (r : Request) : Bool :=
  isToken r.method && (targetPath? r.target).isSome && r.headers.all Header.isWellFormed

structure Response where
  status : Nat
  contentType : Option String
  /-- The methods that the path allows, when it does not allow the one asked for. -/
  allow : Option String
  body : String
  deriving DecidableEq, Repr, Inhabited

/-! ### Routes -/

inductive Route where
  | metrics
  | health
  | landing
  deriving DecidableEq, Repr, Inhabited

/-- The path of the landing page. -/
def landingPath : String := "/"

/-- The paths that are served; a path that comes twice is that of the metrics. -/
def routes (telemetryPath : String) : List (String × Route) :=
  [(telemetryPath, .metrics), (WebSettings.healthPath, .health)] ++
    if telemetryPath == landingPath then [] else [(landingPath, .landing)]

/-- What a path leads to; paths are compared as they are. -/
def route? (telemetryPath path : String) : Option Route := (routes telemetryPath).lookup path

/-- The path of a request, without a query. -/
def Request.path (r : Request) : String := (targetPath? r.target).getD ""

/-! ### Pages -/

/-- The version of the program. -/
def version : String := "0.1.0"

def landingPage (telemetryPath : String) : String :=
  "<html>\n" ++
  "<head><title>counter-exporter</title></head>\n" ++
  "<body>\n" ++
  "<h1>counter-exporter</h1>\n" ++
  "<p><a href=\"" ++ telemetryPath ++ "\">Metrics</a></p>\n" ++
  "<p><i>" ++ version ++ "</i></p>\n" ++
  "</body>\n" ++
  "</html>\n"

def healthBody : String := "\x7b\"status\":\"ok\"\x7d"

def notFound : Response := ⟨404, none, none, ""⟩

/-- The response to a method that a path does not allow. -/
def notAllowed : Response := ⟨405, none, some "GET,HEAD", ""⟩

def page (contentType body : String) : Response := ⟨200, some contentType, none, body⟩

/-- The response with the outcome of a scrape. -/
def metricsResponse : Except ScrapeError Report → Response
  | .ok report => page Exposition.contentType (Exposition.encode .shortest report.samples)
  | .error e => ⟨500, some "text/plain; charset=utf-8", none, e.message⟩

/-! ### Serving -/

/-- Follows a route; only the metrics need a scrape. -/
def follow (x : Exporter) (file : Option FixtureFile) (r : Request) : Route → Response × Exporter
  | .metrics =>
    let web := x.settings.web
    let (answer, x) := x.scrape file (scrapeTimeout r.headers web.margin web.defaultTimeout?)
    (metricsResponse answer, x)
  | .health => (page "application/json" healthBody, x)
  | .landing => (page "text/html; charset=utf-8" (landingPage x.settings.web.telemetryPath), x)

/-- Responds to a request; a `HEAD` request gets everything but the body. -/
def respond (x : Exporter) (file : Option FixtureFile) (r : Request) : Response × Exporter :=
  match route? x.settings.web.telemetryPath r.path with
  | none => (notFound, x)
  | some route =>
    if r.method == "GET" then follow x file r route
    else if r.method == "HEAD" then
      let (response, x) := follow x file r route
      ({ response with body := "" }, x)
    else (notAllowed, x)

end MetricScraper.Http
