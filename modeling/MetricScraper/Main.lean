import MetricScraper.Http.Message
import MetricScraper.Settings.CommandLine

/-!
# The program

Reads requests from standard input and writes the responses to standard output, one after another,
until the input ends.  The fixture file is looked at anew for every request.
-/

open MetricScraper

/-- The file at a path as it is now, if it can be read. -/
def readFixture (path : String) : IO (Option FixtureFile) :=
  try
    let file := (← IO.currentDir) / path
    let time := (← file.metadata).modified
    let content ← IO.FS.readBinFile file
    return some ⟨time.sec.toNat * Duration.nanosPerSecond + time.nsec.toNat, content⟩
  catch _ => return none

/-- The file that the settings name, as it is now. -/
def currentFile (s : Settings) : IO (Option FixtureFile) :=
  match s.fixture with
  | some path => readFixture path
  | none => return none

/-- A line without what ends it. -/
def stripLine (line : String) : String :=
  String.ofList (line.toList.filter fun c => c ≠ '\n' && c ≠ '\r')

/-- Reads lines up to an empty one; `none` when the input has ended. -/
partial def readLines (input : IO.FS.Stream) (before : List String) :
    IO (Option (List String)) := do
  let line ← input.getLine
  if line.isEmpty then return none
  let text := stripLine line
  if text.isEmpty then return some before.reverse
  readLines input (text :: before)

/-- Answers requests until the input ends. -/
partial def serve (input output : IO.FS.Stream) (x : Exporter) : IO Unit := do
  match ← readLines input [] with
  | none => return
  | some lines =>
    let file ← currentFile x.settings
    let (response, x) :=
      match Http.Request.ofLines? lines with
      | some request => Http.respond x file request
      | none => (Http.badRequest, x)
    output.putStr response.text
    output.flush
    serve input output x

def run (s : Settings) : IO UInt32 := do
  match Exporter.start s (← currentFile s) with
  | .error e =>
    IO.eprintln e.message
    return 1
  | .ok x =>
    IO.eprintln ("enabled collectors: " ++ ", ".intercalate x.collectors)
    serve (← IO.getStdin) (← IO.getStdout) x
    return 0

def main (args : List String) : IO UInt32 := do
  match Settings.ofArguments args with
  | .ok s => run s
  | .error .helpWanted =>
    IO.print helpText
    return 0
  | .error .versionWanted =>
    IO.println ("counter-exporter " ++ Http.version)
    return 0
  | .error e =>
    IO.eprintln e.message
    return 2
