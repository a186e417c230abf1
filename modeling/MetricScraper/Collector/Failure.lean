import MetricScraper.Counter.Snapshot
import MetricScraper.Duration
import MetricScraper.Query.Basic

/-!
# Failures of collectors

Why one run of a collector failed.  A failure concerns that collector alone, never the scrape.
-/

namespace MetricScraper

/-- Why a run of a collector failed. -/
inductive CollectError where
  /-- An object that the collector reads is not part of the snapshot. -/
  | missingObject (object : String)
  | fetch (error : FetchError)
  | query (error : QueryError)
  /-- The deadline of the scrape passed, after so much time. -/
  | timeout (waited : Duration)
  | panicked
  /-- So many earlier runs timed out and have not ended yet. -/
  | stalled (runs : Nat)
  | childrenFailed (failed total : Nat)
  deriving DecidableEq, Repr, Inhabited

def CollectError.message : CollectError → String
  | .missingObject object => "counter object " ++ Text.quote object ++ " missing from snapshot"
  | .fetch error => error.message
  | .query error => error.message
  | .timeout waited => "collector timed out after " ++ waited.text
  | .panicked => "collector panicked"
  | .stalled runs => toString runs ++ " earlier run(s) still in progress after timing out"
  | .childrenFailed failed total =>
    toString failed ++ " of " ++ toString total ++ " child collectors failed"

/-- The table of an object, or why a collector cannot have it. -/
def Snapshot.table (s : Snapshot) (object : String) : Except CollectError CounterTable :=
  match s.get? object with
  | some (.ok table) => .ok table
  | some (.error e) => .error (.fetch e)
  | none => .error (.missingObject object)

theorem Snapshot.table_eq_ok_iff (s : Snapshot) (object : String) (table : CounterTable) :
    s.table object = .ok table ↔ s.get? object = some (.ok table) := by
  simp only [Snapshot.table]
  split <;> simp_all

end MetricScraper
