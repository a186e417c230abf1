import MetricScraper.Query.Basic

/-!
# Cells

What a cell can be read as, said by its value alone, and the getters of a row in these terms.
-/

namespace MetricScraper

namespace Value

def number? : Value → Option Float
  | .float x => some x
  | .unsigned n => some n.toFloat
  | .bool b => some (if b then 1.0 else 0.0)
  | _ => none

def truth? : Value → Option Bool
  | .bool b => some b
  | _ => none

def text? : Value → Option String
  | .text s => some s
  | _ => none

def bytes? : Value → Option (List UInt8)
  | .bytes b => some b
  | _ => none

end Value

namespace Row

/-- The number in a column, if there is one. -/
def number? (r : Row) (column : String) : Option Float := (r.get? column).bind Value.number?

def truth? (r : Row) (column : String) : Option Bool := (r.get? column).bind Value.truth?

def text? (r : Row) (column : String) : Option String := (r.get? column).bind Value.text?

def bytes? (r : Row) (column : String) : Option (List UInt8) := (r.get? column).bind Value.bytes?

variable {r : Row} {column : String}

theorem float_eq_ok_iff {x : Float} : r.float column = .ok x ↔ r.number? column = some x := by
  rw [float, require, number?]
  cases r.get? column with
  | none => simp
  | some value => cases value <;> simp [Value.number?]

theorem bool_eq_ok_iff {b : Bool} : r.bool column = .ok b ↔ r.truth? column = some b := by
  rw [bool, require, truth?]
  cases r.get? column with
  | none => simp
  | some value => cases value <;> simp [Value.truth?]

theorem text_eq_ok_iff {s : String} : r.text column = .ok s ↔ r.text? column = some s := by
  rw [text, require, text?]
  cases r.get? column with
  | none => simp
  | some value => cases value <;> simp [Value.text?]

theorem bytes_eq_ok_iff {b : List UInt8} : r.bytes column = .ok b ↔ r.bytes? column = some b := by
  rw [bytes, require, bytes?]
  cases r.get? column with
  | none => simp
  | some value => cases value <;> simp [Value.bytes?]

end Row

/-- The rows that hold a text in a column, in order. -/
def rowsWith (column text : String) (rows : List Row) : List Row :=
  rows.filter fun row => row.text? column = some text

theorem mem_rowsWith {column text : String} {rows : List Row} {row : Row} :
    row ∈ rowsWith column text rows ↔ row ∈ rows ∧ row.text? column = some text := by
  rw [rowsWith, List.mem_filter, decide_eq_true_eq]

theorem rowsWith_append (column text : String) (rows more : List Row) :
    rowsWith column text (rows ++ more) = rowsWith column text rows ++ rowsWith column text more :=
  List.filter_append ..

/-- The rows that do not. -/
def rowsWithout (column text : String) (rows : List Row) : List Row :=
  rows.filter fun row => row.text? column ≠ some text

theorem rowsWith_rowsWithout {column text other : String} (h : other ≠ text) (rows : List Row) :
    rowsWith column other (rowsWithout column text rows) = rowsWith column other rows := by
  rw [rowsWith, rowsWithout, List.filter_filter]
  refine List.filter_congr fun row _ => ?_
  by_cases hrow : row.text? column = some other
  · simp [hrow, h]
  · simp [hrow]

end MetricScraper
