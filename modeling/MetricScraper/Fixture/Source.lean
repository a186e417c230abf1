import MetricScraper.Fixture.Document

/-!
# Fixture files

A source that answers from a file.  It keeps the last document that it read, for as long as the
modification time of the file is the same.
-/

namespace MetricScraper

/-- A file as it is at some moment. -/
structure FixtureFile where
  modified : Nat
  content : ByteArray
  deriving Inhabited

/-- Why a file gives no document. -/
inductive FixtureError where
  | unreadable
  | malformed
  deriving DecidableEq, Repr, Inhabited

namespace FixtureError

def message (path : String) : FixtureError → String
  | .unreadable => "failed to read fixture " ++ Text.quote path
  | .malformed => "failed to parse fixture " ++ Text.quote path

def cause : FixtureError → String
  | .unreadable => "no such file, or not a text in UTF-8"
  | .malformed => "not a fixture document"

/-- The message with its cause. -/
def chain (path : String) (e : FixtureError) : String := e.message path ++ ": " ++ e.cause

end FixtureError

/-- The document of the content of a file, if the file could be read. -/
def Document.ofContent (content : Option ByteArray) : Except FixtureError Document :=
  match content.bind String.fromUTF8? with
  | none => .error .unreadable
  | some text =>
    match Document.ofText? text with
    | some d => .ok d
    | none => .error .malformed

theorem Document.ofContent_toUTF8 (text : String) :
    Document.ofContent (some text.toUTF8) =
      match Document.ofText? text with
      | some d => .ok d
      | none => .error .malformed := by
  have hutf8 : String.fromUTF8? text.toUTF8 = some text := dif_pos text.isValidUTF8
  rw [Document.ofContent, Option.bind_some, hutf8]

/-- The last document that was read, with the modification time that the file had. -/
structure FixtureCache where
  entry : Option (Nat × Document)
  deriving Inhabited

namespace FixtureCache

def empty : FixtureCache := ⟨none⟩

/-- The kept document, if it is of that modification time. -/
def answer? (c : FixtureCache) (modified : Nat) : Option Document :=
  match c.entry with
  | some (time, d) => if time = modified then some d else none
  | none => none

/-- The document of a content that has been read, which is kept instead of the last one with the
modification time that was looked up before; what is no document changes nothing. -/
def refresh (c : FixtureCache) (modified : Nat) (content : Option ByteArray) :
    Except FixtureError Document × FixtureCache :=
  match Document.ofContent content with
  | .ok d => (.ok d, ⟨some (modified, d)⟩)
  | .error e => (.error e, c)

/-- The document of a file whose modification time was `modified`, and what is kept of it;
`content` is what the file holds when it is read. -/
def load (c : FixtureCache) (modified : Nat) (content : Option ByteArray) :
    Except FixtureError Document × FixtureCache :=
  match c.answer? modified with
  | some d => (.ok d, c)
  | none => c.refresh modified content

end FixtureCache

/-- A source over the file at a path. -/
structure FixtureSource where
  path : String
  cache : FixtureCache
  deriving Inhabited

namespace FixtureSource

/-- Reads the file, if there is one, unless its document is at hand. -/
def load (s : FixtureSource) (file : Option FixtureFile) :
    Except FixtureError Document × FixtureSource :=
  match file with
  | none => (.error .unreadable, s)
  | some f =>
    let (document, cache) := s.cache.load f.modified (some f.content)
    (document, { s with cache := cache })

/-- Opens a source over a file that can be loaded right away. -/
def open? (path : String) (file : Option FixtureFile) : Except FixtureError FixtureSource :=
  match load ⟨path, .empty⟩ file with
  | (.ok _, s) => .ok s
  | (.error e, _) => .error e

/-- Fetches a number of objects; `expired` says that the deadline has passed. -/
def fetch (s : FixtureSource) (file : Option FixtureFile) (objects : List String)
    (expired : Bool) : Except FetchError Snapshot × FixtureSource :=
  if expired then (.error .timedOut, s)
  else
    match s.load file with
    | (.ok d, s) => (.ok (d.snapshot objects), s)
    | (.error e, s) => (.error (.unavailable (e.chain s.path)), s)

/-- Answers a query; `expired` says that the deadline has passed. -/
def rows (s : FixtureSource) (file : Option FixtureFile) (query : Query) (expired : Bool) :
    Except QueryError (List Row) × FixtureSource :=
  if expired then (.error (.timedOut query.text), s)
  else
    match s.load file with
    | (.ok d, s) => (d.rows query, s)
    | (.error e, s) => (.error (.failed query.text (e.chain s.path)), s)

end FixtureSource

end MetricScraper
