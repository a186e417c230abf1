import MetricScraper.Text.Blank

/-!
# Lists written with commas

An entry is what stands between two commas, less the white space around it; empty entries do
not count.
-/

namespace MetricScraper.Text

/-- The pieces between the commas, in order; there is always one piece more than commas. -/
def splitCommas : List Char → List (List Char)
  | [] => [[]]
  | c :: cs =>
    if c = ',' then [] :: splitCommas cs
    else
      match splitCommas cs with
      | [] => [[c]]
      | piece :: pieces => (c :: piece) :: pieces

theorem splitCommas_ne_nil (cs : List Char) : splitCommas cs ≠ [] := by
  cases cs with
  | nil => simp [splitCommas]
  | cons c cs =>
    by_cases h : c = ','
    · simp [splitCommas, h]
    · simp only [splitCommas, h, if_false]
      split <;> simp

/-- The entries of a comma separated text, over characters. -/
def commaEntries (cs : List Char) : List (List Char) :=
  ((splitCommas cs).map trim).filter fun piece => !piece.isEmpty

/-- The entries of a comma separated list: trimmed, without the empty ones. -/
def parseCommaList (text : String) : List String :=
  (commaEntries text.toList).map String.ofList

end MetricScraper.Text
