import MetricScraper.Text.Quoted

/-!
# Counter snapshots

A source of counters is asked once per scrape for a number of objects.  It answers with a
snapshot: for each object its table of instances, or why it could not be read.
-/

namespace MetricScraper

/-- One row of a counter object; a singleton object has one instance without a name.  The latest
entry of a counter counts. -/
structure Instance where
  name : Option String
  counters : List (String × Float)
  deriving DecidableEq, Inhabited

namespace Instance

/-- An instance whose counters are set one after another. -/
def ofCounters (name : Option String) (counters : List (String × Float)) : Instance :=
  ⟨name, counters.reverse⟩

/-- The value of a counter. -/
def counter? (i : Instance) (counter : String) : Option Float := i.counters.lookup counter

/-- The name as a label value; an instance without a name has the empty one. -/
def label (i : Instance) : String := i.name.getD ""

end Instance

/-- All instances of one counter object, in the order of the source. -/
structure CounterTable where
  object : String
  instances : List Instance
  deriving DecidableEq, Inhabited

/-- Why counter objects could not be read. -/
inductive FetchError where
  /-- The source does not know the object. -/
  | notFound (object : String)
  /-- The object exists, but reading it failed. -/
  | read (object reason : String)
  /-- The source as a whole could not be reached. -/
  | unavailable (reason : String)
  /-- The fetch did not end before the deadline of the scrape. -/
  | timedOut
  deriving DecidableEq, Repr, Inhabited

def FetchError.message : FetchError → String
  | .notFound object => "counter object " ++ Text.quote object ++ " is not available"
  | .read object reason =>
    "failed to read counter object " ++ Text.quote object ++ ": " ++ reason
  | .unavailable reason => "counter source unavailable: " ++ reason
  | .timedOut => "counter fetch timed out"

/-- The answer of a source for one object. -/
abbrev ObjectAnswer := Except FetchError CounterTable

/-- The counter tables of one scrape by object; the latest entry of an object counts. -/
structure Snapshot where
  entries : List (String × ObjectAnswer)
  deriving Inhabited

namespace Snapshot

def empty : Snapshot := ⟨[]⟩

/-- The answer for an object; `none` if the object was not part of the fetch. -/
def get? (s : Snapshot) (object : String) : Option ObjectAnswer := s.entries.lookup object

/-- Sets the answer for an object. -/
def set (s : Snapshot) (object : String) (answer : ObjectAnswer) : Snapshot :=
  ⟨(object, answer) :: s.entries⟩

/-- Adds a table under the name of its object. -/
def insert (s : Snapshot) (table : CounterTable) : Snapshot := s.set table.object (.ok table)

/-- Records that an object could not be read. -/
def insertError (s : Snapshot) (object : String) (error : FetchError) : Snapshot :=
  s.set object (.error error)

/-- The snapshot in which every one of the objects failed with one error. -/
def failed (objects : List String) (error : FetchError) : Snapshot :=
  ⟨objects.map fun object => (object, .error error)⟩

theorem get?_empty (object : String) : empty.get? object = none := rfl

theorem get?_set (s : Snapshot) (object other : String) (answer : ObjectAnswer) :
    (s.set object answer).get? other = if other = object then some answer else s.get? other := by
  simp only [get?, set, List.lookup_cons]
  by_cases h : other = object
  · simp [h]
  · simp [h, beq_false_of_ne h]

theorem get?_failed (objects : List String) (error : FetchError) (object : String) :
    (failed objects error).get? object =
      if object ∈ objects then some (.error error) else none := by
  induction objects with
  | nil => rfl
  | cons o rest ih =>
    simp only [get?, failed, List.map_cons, List.lookup_cons] at ih ⊢
    by_cases h : object = o
    · simp [h]
    · simp [h, beq_false_of_ne h, ih]

end Snapshot

end MetricScraper
