import MetricScraper.Text.Quoted

/-!
# Queries

The second kind of source answers queries: a selection of columns of a class, with a list of rows.
A cell holds a value of one of a few kinds, and each getter of a row accepts some of them.
-/

namespace MetricScraper

/-- A selection of columns of one class; no columns select all of them. -/
structure Query where
  space : Option String
  className : String
  columns : List String
  deriving DecidableEq, Repr, Inhabited

namespace Query

/-- The selection in the default namespace. -/
def select (className : String) (columns : List String) : Query := ⟨none, className, columns⟩

/-- The same selection in another namespace. -/
def inSpace (q : Query) (space : String) : Query := ⟨some space, q.className, q.columns⟩

/-- The text of a query. -/
def text (q : Query) : String :=
  let columns := if q.columns.isEmpty then "*" else ", ".intercalate q.columns
  "SELECT " ++ columns ++ " FROM " ++ q.className

/-- Whether the result of the query has a column. -/
def selects (q : Query) (column : String) : Bool := q.columns.isEmpty || q.columns.contains column

end Query

/-- The kinds of cell. -/
inductive ValueKind where
  | bool
  | unsigned
  | float
  | text
  | bytes
  | null
  deriving DecidableEq, Repr, Inhabited

def ValueKind.word : ValueKind → String
  | .bool => "bool"
  | .unsigned => "unsigned"
  | .float => "float"
  | .text => "text"
  | .bytes => "bytes"
  | .null => "null"

/-- The value of a cell. -/
inductive Value where
  | bool (value : Bool)
  | unsigned (value : UInt64)
  | float (value : Float)
  | text (value : String)
  | bytes (value : List UInt8)
  | null
  deriving DecidableEq, Inhabited

def Value.kind : Value → ValueKind
  | .bool _ => .bool
  | .unsigned _ => .unsigned
  | .float _ => .float
  | .text _ => .text
  | .bytes _ => .bytes
  | .null => .null

/-- Why a query failed, or its result could not be read. -/
inductive QueryError where
  /-- The source refused the query. -/
  | failed (query reason : String)
  /-- A row lacks a selected column. -/
  | missingColumn (column : String)
  /-- A cell holds a value of an unexpected kind. -/
  | type (column : String) (expected found : ValueKind)
  /-- The source as a whole could not be reached. -/
  | unavailable (reason : String)
  /-- The query did not end before the deadline of the scrape. -/
  | timedOut (query : String)
  deriving DecidableEq, Repr, Inhabited

def QueryError.message : QueryError → String
  | .failed query reason => "query " ++ Text.quote query ++ " failed: " ++ reason
  | .missingColumn column => "missing column " ++ Text.quote column
  | .type column expected found =>
    "column " ++ Text.quote column ++ ": expected " ++ expected.word ++ ", found " ++ found.word
  | .unavailable reason => "query source unavailable: " ++ reason
  | .timedOut query => "query " ++ Text.quote query ++ " timed out"

/-- One row of a result: columns with their values, the latest entry of a column counts. -/
structure Row where
  cells : List (String × Value)
  deriving DecidableEq, Inhabited

namespace Row

def empty : Row := ⟨[]⟩

/-- Sets the value of a column. -/
def insert (r : Row) (column : String) (value : Value) : Row := ⟨(column, value) :: r.cells⟩

/-- The value of a column. -/
def get? (r : Row) (column : String) : Option Value := r.cells.lookup column

/-- The row less the columns that the predicate refuses. -/
def restrict (r : Row) (keep : String → Bool) : Row := ⟨r.cells.filter fun cell => keep cell.1⟩

/-! ### Getters -/

/-- The value of a column that has to be there. -/
def require (r : Row) (column : String) : Except QueryError Value :=
  match r.get? column with
  | some value => .ok value
  | none => .error (.missingColumn column)

/-- A number; a truth value counts as one or zero. -/
def float (r : Row) (column : String) : Except QueryError Float :=
  match r.require column with
  | .error e => .error e
  | .ok (.float x) => .ok x
  | .ok (.unsigned n) => .ok n.toFloat
  | .ok (.bool b) => .ok (if b then 1.0 else 0.0)
  | .ok value => .error (.type column .float value.kind)

/-- A number, if the row has the column and it is not null. -/
def float? (r : Row) (column : String) : Except QueryError (Option Float) :=
  match r.get? column with
  | none => .ok none
  | some .null => .ok none
  | some _ => (r.float column).map some

def bool (r : Row) (column : String) : Except QueryError Bool :=
  match r.require column with
  | .error e => .error e
  | .ok (.bool b) => .ok b
  | .ok value => .error (.type column .bool value.kind)

def text (r : Row) (column : String) : Except QueryError String :=
  match r.require column with
  | .error e => .error e
  | .ok (.text s) => .ok s
  | .ok value => .error (.type column .text value.kind)

def bytes (r : Row) (column : String) : Except QueryError (List UInt8) :=
  match r.require column with
  | .error e => .error e
  | .ok (.bytes b) => .ok b
  | .ok value => .error (.type column .bytes value.kind)

end Row

end MetricScraper
