import MetricScraper.Decimal.Reading
import MetricScraper.Duration
import MetricScraper.Text.Blank

/-!
# The timeout of a request

A request may say how many seconds it waits.  Its scrape has to end a margin earlier, unless that
leaves it no time.
-/

namespace MetricScraper.Http

/-- A request header: a name, and a value in bytes. -/
structure Header where
  name : String
  value : List UInt8
  deriving DecidableEq, Repr, Inhabited

/-- The header in which a request says how many seconds it waits. -/
def timeoutHeader : String := "X-Prometheus-Scrape-Timeout-Seconds"

/-- Whether two header names are the same; the case of letters does not count. -/
def sameName (a b : String) : Bool := a.toList.map Char.toLower == b.toList.map Char.toLower

/-- The value of the first header of a name. -/
def headerValue? (headers : List Header) (name : String) : Option (List UInt8) :=
  (headers.find? fun h => sameName h.name name).map Header.value

/-- The text of a header value, if it holds printable characters of ASCII and tabs only. -/
def headerText? (value : List UInt8) : Option (List Char) :=
  if value.all fun b => (32 ≤ b && b < 127) || b = 9 then
    some (value.map fun b => Char.ofNat b.toNat)
  else none

/-- The duration that a header value asks for; zero is none. -/
def requested? (value : List UInt8) : Option Duration := do
  let text ← headerText? value
  let seconds ← Decimal.readFloat? (String.ofList (Text.trim text))
  let d ← Duration.ofSeconds? seconds
  if d = 0 then none else some d

/-- A duration less a margin, unless nothing is left of it. -/
def lessMargin (d margin : Duration) : Duration := if margin < d then d - margin else d

/-- The time that the scrape of a request may take, if it is limited. -/
def scrapeTimeout (headers : List Header) (margin : Duration) (default : Option Duration) :
    Option Duration :=
  let requested := (headerValue? headers timeoutHeader).bind requested?
  (requested.or default).map fun d => lessMargin d margin

end MetricScraper.Http
