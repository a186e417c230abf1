import MetricScraper.Metric.Family
import MetricScraper.Metric.NumberFormat

/-!
# The text exposition format

Each family is written as a line of help, a line of type and a line per sample.  Help texts escape
backslashes and line feeds, label values the double quote as well, so that a line is always a line.
The numbers in it are written by a number format.
-/

namespace MetricScraper.Exposition

/-- The media type of the format. -/
def contentType : String := "text/plain; version=0.0.4; charset=utf-8"

/-! ### Values -/

/-- The whole number that a finite float is, if it is one. -/
def wholeNumber? (x : Float) : Option Int :=
  let b := Decimal.Binary.ofFloat x
  let down := Decimal.twoTo (-b.exponent)
  if b.mantissa % down = 0 then
    let n : Int := b.mantissa * Decimal.twoTo b.exponent / down
    some (if Decimal.isNegative x then -n else n)
  else none

/-- The magnitude from which on not every whole number is a float, `2 ^ 53`. -/
def exactLimit : Nat := 0x20000000000000

variable (format : NumberFormat)

/-- The text of a sample value. -/
def valueText (x : Float) : List Char :=
  if x.isNaN then ['N', 'a', 'N']
  else if x.isInf then (if x < 0.0 then '-' else '+') :: ['I', 'n', 'f']
  else
    match wholeNumber? x with
    | some n => if n.natAbs < exactLimit then format.whole n else format.float x
    | none => format.float x

theorem isValueText_valueText (x : Float) : IsValueText (valueText format x) := by
  unfold valueText
  split
  · exact ⟨by decide, by decide⟩
  · split
    · split
      · exact ⟨by decide, by decide⟩
      · exact ⟨by decide, by decide⟩
    · split
      · split
        · exact format.isValueText_whole _
        · exact format.isValueText_float x
      · exact format.isValueText_float x

/-! ### Escaped texts -/

def escapeHelpChar (c : Char) : List Char :=
  if c = '\\' then ['\\', '\\'] else if c = '\n' then ['\\', 'n'] else [c]

def escapeLabelChar (c : Char) : List Char :=
  if c = '"' then ['\\', '"'] else escapeHelpChar c

def escapeHelp (text : List Char) : List Char := text.flatMap escapeHelpChar

def escapeLabelValue (text : List Char) : List Char := text.flatMap escapeLabelChar

/-! ### Lines -/

/-- One label of a sample, `name="value"`. -/
def labelText (label : String × String) : List Char :=
  label.1.toList ++ '=' :: '"' :: escapeLabelValue label.2.toList ++ ['"']

/-- The labels with commas between them. -/
def labelsText : List (String × String) → List Char
  | [] => []
  | [label] => labelText label
  | label :: rest => labelText label ++ ',' :: labelsText rest

/-- The line of a sample. -/
def sampleLine (s : Sample) : List Char :=
  let labels :=
    if s.descriptor.labelNames.isEmpty then [] else '\x7b' :: labelsText s.labels ++ ['\x7d']
  s.name.toList ++ labels ++ ' ' :: valueText format s.value ++ ['\n']

def helpMark : List Char := "# HELP ".toList

def typeMark : List Char := "# TYPE ".toList

/-- The lines of a family: its help and type are those of its first sample. -/
def familyText : List Sample → List Char
  | [] => []
  | s :: rest =>
    let d := s.descriptor
    helpMark ++ d.name.toList ++ ' ' :: escapeHelp d.help.toList ++ '\n' :: typeMark ++
      d.name.toList ++ ' ' :: d.type.word.toList ++ '\n' :: (s :: rest).flatMap (sampleLine format)

/-- The exposition text of a list of samples, over characters. -/
def encodeChars (samples : List Sample) : List Char :=
  (families samples).flatMap (familyText format)

/-- The exposition text of a list of samples. -/
def encode (samples : List Sample) : String := String.ofList (encodeChars format samples)

end MetricScraper.Exposition
