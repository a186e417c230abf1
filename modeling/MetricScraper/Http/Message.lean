import MetricScraper.Http.Server

/-!
# Messages on the wire

A request is a line with a method and a target, a line per header, and an empty line; its body is
not read.  A response says how long its body is, so that several of them can follow each other.
-/

namespace MetricScraper.Http

/-- A header line, if it has a colon: the name before it and the value after it, trimmed. -/
def Header.ofLine? (line : String) : Option Header :=
  let cs := line.toList
  match cs.dropWhile (· ≠ ':') with
  | [] => none
  | _ :: value =>
    some ⟨String.ofList (cs.takeWhile (· ≠ ':')),
      (String.ofList (Text.trim value)).toUTF8.toList⟩

/-- The words of a line. -/
def words (line : String) : List String := (line.splitOn " ").filter fun w => !w.isEmpty

/-- The request of its first line and its header lines, if they make a proper one. -/
def Request.ofLines? : List String → Option Request
  | [] => none
  | first :: rest =>
    match words first with
    | method :: target :: _ =>
      let request : Request := ⟨method, target, rest.filterMap Header.ofLine?⟩
      if request.isWellFormed then some request else none
    | _ => none

def reason (status : Nat) : String :=
  match status with
  | 200 => "OK"
  | 400 => "Bad Request"
  | 404 => "Not Found"
  | 405 => "Method Not Allowed"
  | _ => "Internal Server Error"

/-- The response to lines that are no request. -/
def badRequest : Response := ⟨400, none, none, ""⟩

def headerLine (name : String) (value : Option String) : String :=
  match value with
  | some v => name ++ ": " ++ v ++ "\r\n"
  | none => ""

/-- The text of a response. -/
def Response.text (r : Response) : String :=
  "HTTP/1.1 " ++ toString r.status ++ " " ++ reason r.status ++ "\r\n" ++
    headerLine "content-type" r.contentType ++ headerLine "allow" r.allow ++
    headerLine "content-length" (some (toString r.body.utf8ByteSize)) ++ "\r\n" ++ r.body

end MetricScraper.Http
