import MetricScraper.Counter.Snapshot
import MetricScraper.Json.Meaning
import MetricScraper.Query.Basic

/-!
# Fixture documents

A document holds the counter objects that can be fetched, the objects that fail with a reason, and
the rows of the classes that can be queried.
-/

namespace MetricScraper

open Json (Tree)

/-- What a source answers with; of two entries of a name the first counts. -/
structure Document where
  objects : List (String × List Instance)
  failing : List (String × String)
  queries : List (String × List Row)
  deriving Inhabited

namespace Document

/-! ### Shapes -/

/-- The values of the members of a name. -/
def membersNamed (name : String) (members : List (Option String × Tree)) : List Tree :=
  (members.filter fun m => m.1 == some name).map Prod.snd

/-- The values of the fields of a record, which is written as an object, or as an array in the
order of the fields.  A field may be missing but does not come twice; other members of an object
do not count. -/
def fieldTrees? (fields : List String) : Tree → Option (List (Option Tree))
  | .array items =>
    if items.length ≤ fields.length then
      some ((List.range fields.length).map fun i => items[i]?)
    else none
  | .object members =>
    if members.any fun m => m.1.isNone then none
    else
      fields.mapM fun field =>
        match membersNamed field members with
        | [] => some none
        | [tree] => some (some tree)
        | _ => none
  | _ => none

/-- The items of an array, each read in its turn. -/
def list? {α : Type} (read : Tree → Option α) : Tree → Option (List α)
  | .array items => items.mapM read
  | _ => none

def readMember {α : Type} (read : Tree → Option α) (m : Option String × Tree) :
    Option (String × α) := do
  let name ← m.1
  let value ← read m.2
  some (name, value)

/-- The members of an object, the last one first, each read in its turn. -/
def map? {α : Type} (read : Tree → Option α) : Tree → Option (List (String × α))
  | .object members => (members.mapM (readMember read)).map List.reverse
  | _ => none

def text? : Tree → Option String
  | .string s => s
  | _ => none

def float? : Tree → Option Float
  | .number n => n.number?.map Json.Number.toFloat
  | _ => none

/-- A text or nothing. -/
def optionalText? : Tree → Option (Option String)
  | .null => some none
  | tree => (text? tree).map some

/-- A field that is the default when it is missing. -/
def orDefault {α : Type} (default : α) (read : Tree → Option α) : Option Tree → Option α
  | none => some default
  | some tree => read tree

/-! ### Cells -/

/-- The byte of a number that is one. -/
def byte? : Json.Value → Option UInt8
  | .number (.unsigned n) => if n < 256 then some n.toUInt8 else none
  | _ => none

/-- A JSON value as a cell: an array of bytes is one, any other array and any object is text. -/
def cell : Json.Value → Value
  | .null => .null
  | .bool b => .bool b
  | .number (.unsigned n) => .unsigned n
  | .number n => .float n.toFloat
  | .string s => .text s
  | .array items =>
    match items.mapM byte? with
    | some bytes => .bytes bytes
    | none => .text (String.ofList (Json.Value.array items).text)
  | .object members => .text (String.ofList (Json.Value.object members).text)

/-- The level of the arrays and objects in a cell. -/
def cellLevel : Nat := 5

/-! ### Documents -/

def instance? (tree : Tree) : Option Instance := do
  match ← fieldTrees? ["instance", "counters"] tree with
  | [name, counters] =>
    let name ← orDefault none optionalText? name
    let counters ← orDefault [] (map? float?) counters
    some ⟨name, counters⟩
  | _ => none

def row? (tree : Tree) : Option Row :=
  (map? (fun t => (t.value? cellLevel).map cell) tree).map Row.mk

def ofTree? (tree : Tree) : Option Document := do
  match ← fieldTrees? ["objects", "failing", "queries"] tree with
  | [objects, failing, queries] =>
    let objects ← orDefault [] (map? (list? instance?)) objects
    let failing ← orDefault [] (map? text?) failing
    let queries ← orDefault [] (map? (list? row?)) queries
    some ⟨objects, failing, queries⟩
  | _ => none

/-- The document that a text writes. -/
def ofText? (text : String) : Option Document := (Tree.ofText? text).bind ofTree?

/-! ### Answers -/

/-- The answer for an object; a reason to fail comes before its instances. -/
def answer (d : Document) (object : String) : ObjectAnswer :=
  match d.failing.lookup object with
  | some reason => .error (.read object reason)
  | none =>
    match d.objects.lookup object with
    | some instances => .ok ⟨object, instances⟩
    | none => .error (.notFound object)

/-- Enters the answer for an object: a table under the name that it carries, an error under the
name that was asked for. -/
def enter (d : Document) (s : Snapshot) (object : String) : Snapshot :=
  match d.answer object with
  | .ok table => s.insert table
  | .error e => s.insertError object e

/-- The answers for a number of objects. -/
def snapshot (d : Document) (objects : List String) : Snapshot := objects.foldl d.enter .empty

/-- The rows of a query, each with the selected columns. -/
def rows (d : Document) (query : Query) : Except QueryError (List Row) :=
  match d.queries.lookup query.className with
  | some rows => .ok (rows.map fun row => row.restrict query.selects)
  | none => .error (.failed query.text "invalid class")

theorem object_of_answer {d : Document} {object : String} {table : CounterTable}
    (h : d.answer object = .ok table) : table.object = object := by
  unfold answer at h
  split at h
  · cases h
  · split at h
    · cases h
      rfl
    · cases h

/-- A table carries the name that was asked for, so every answer is under this name. -/
theorem enter_eq_set (d : Document) (s : Snapshot) (object : String) :
    d.enter s object = s.set object (d.answer object) := by
  unfold enter
  split
  · rename_i table htable
    rw [Snapshot.insert, object_of_answer htable, htable]
  · rename_i e he
    rw [Snapshot.insertError, he]

theorem get?_foldl_enter (d : Document) (s : Snapshot) (objects : List String) (object : String) :
    (objects.foldl d.enter s).get? object =
      if object ∈ objects then some (d.answer object) else s.get? object := by
  induction objects generalizing s with
  | nil => rfl
  | cons o rest ih =>
    rw [List.foldl_cons, ih, enter_eq_set, Snapshot.get?_set]
    by_cases hrest : object ∈ rest
    · simp [hrest]
    · by_cases h : object = o <;> simp [hrest, h]

theorem get?_snapshot (d : Document) (objects : List String) (object : String) :
    (d.snapshot objects).get? object =
      if object ∈ objects then some (d.answer object) else none := by
  rw [snapshot, get?_foldl_enter, Snapshot.get?_empty]

end Document

end MetricScraper
