import MetricScraper.Metric.Exposition

/-!
# Reading the exposition format

A reader of the text format, from characters to families.  It takes nothing for granted about who
wrote the text: lines that are not of the format make it give up.
-/

namespace MetricScraper.Exposition

/-! ### Names -/

/-- The characters of names; outside ASCII every character counts as a letter. -/
def isNameChar (c : Char) : Bool := c.isAlphanum || c == '_' || c == ':' || 0x7F < c.toNat

/-- Whether a text can name a metric or a label. -/
def isName (name : String) : Bool :=
  match name.toList with
  | [] => false
  | c :: cs => !c.isDigit && (c :: cs).all isNameChar

/-- The name that a text begins with, and what follows it. -/
def readName? (cs : List Char) : Option (String × List Char) :=
  let name := String.ofList (cs.takeWhile isNameChar)
  if isName name then some (name, cs.dropWhile isNameChar) else none

/-! ### Escaped texts -/

/-- What a character stands for behind a backslash. -/
def unescapeHelp? (c : Char) : Option Char :=
  if c = '\\' then some '\\' else if c = 'n' then some '\n' else none

def unescapeLabel? (c : Char) : Option Char :=
  if c = '"' then some '"' else unescapeHelp? c

/-- A help text; it ends with its line. -/
def readHelpText? : List Char → Option (List Char)
  | [] => some []
  | c :: cs =>
    if c = '\\' then
      match cs with
      | [] => none
      | d :: rest => do
        let meant ← unescapeHelp? d
        let text ← readHelpText? rest
        some (meant :: text)
    else (readHelpText? cs).map (c :: ·)

theorem readHelpText?_cons {c : Char} (h : c ≠ '\\') (cs : List Char) :
    readHelpText? (c :: cs) = (readHelpText? cs).map (c :: ·) := by
  rw [readHelpText?.eq_def]
  exact if_neg h

theorem readHelpText?_escaped {c meant : Char} (h : unescapeHelp? c = some meant)
    (cs : List Char) :
    readHelpText? ('\\' :: c :: cs) = (readHelpText? cs).map (meant :: ·) := by
  rw [readHelpText?.eq_def]
  simp only [if_true, h, Option.bind_eq_bind, Option.bind_some]
  cases readHelpText? cs <;> rfl

/-- A label value up to its closing quote, and what follows the quote. -/
def readQuoted? : List Char → Option (List Char × List Char)
  | [] => none
  | c :: cs =>
    if c = '"' then some ([], cs)
    else if c = '\\' then
      match cs with
      | [] => none
      | d :: rest => do
        let meant ← unescapeLabel? d
        let (text, rest) ← readQuoted? rest
        some (meant :: text, rest)
    else (readQuoted? cs).map fun (text, rest) => (c :: text, rest)

theorem readQuoted?_quote (cs : List Char) : readQuoted? ('"' :: cs) = some ([], cs) := by
  rw [readQuoted?.eq_def]
  exact if_pos rfl

theorem readQuoted?_cons {c : Char} (hquote : c ≠ '"') (hslash : c ≠ '\\') (cs : List Char) :
    readQuoted? (c :: cs) = (readQuoted? cs).map fun (text, rest) => (c :: text, rest) := by
  rw [readQuoted?.eq_def]
  exact (if_neg hquote).trans (if_neg hslash)

theorem readQuoted?_escaped {c meant : Char} (h : unescapeLabel? c = some meant)
    (cs : List Char) :
    readQuoted? ('\\' :: c :: cs) =
      (readQuoted? cs).map fun (text, rest) => (meant :: text, rest) := by
  have hquote : '\\' ≠ '"' := by decide
  rw [readQuoted?.eq_def]
  simp only [if_neg hquote, if_true, h, Option.bind_eq_bind, Option.bind_some]
  cases readQuoted? cs <;> rfl

theorem length_of_readQuoted? {cs text rest : List Char}
    (h : readQuoted? cs = some (text, rest)) : rest.length < cs.length := by
  fun_induction readQuoted? cs generalizing text rest with
  | case1 => cases h
  | case2 cs => simp_all
  | case3 => cases h
  | case4 d after _ ih =>
    simp only [Option.bind_eq_bind, Option.bind_eq_some_iff] at h
    obtain ⟨_, -, ⟨inner, behind⟩, hinner, h⟩ := h
    cases h
    have hshorter := ih hinner
    simp only [List.length_cons]
    omega
  | case5 c cs _ _ ih =>
    obtain ⟨⟨inner, behind⟩, hinner, h⟩ := Option.map_eq_some_iff.mp h
    cases h
    have hshorter := ih hinner
    simp only [List.length_cons]
    omega

/-! ### Labels -/

/-- One label, and what follows it. -/
def readLabel? (cs : List Char) : Option ((String × String) × List Char) :=
  match readName? cs with
  | some (name, '=' :: '"' :: rest) =>
    (readQuoted? rest).map fun (value, rest) => ((name, String.ofList value), rest)
  | _ => none

theorem length_of_readLabel? {cs rest : List Char} {label : String × String}
    (h : readLabel? cs = some (label, rest)) : rest.length < cs.length := by
  unfold readLabel? at h
  split at h
  · rename_i name after hname
    obtain ⟨⟨value, behind⟩, hvalue, h⟩ := Option.map_eq_some_iff.mp h
    cases h
    have hquoted := length_of_readQuoted? hvalue
    have hafter : after.length + 2 ≤ cs.length := by
      simp only [readName?] at hname
      split at hname
      · have hdrop := (List.dropWhile_suffix isNameChar (l := cs)).length_le
        injection hname with hname
        rw [(Prod.mk.inj hname).2] at hdrop
        exact hdrop
      · cases hname
    omega
  · cases h

/-- The labels up to the closing brace, and what follows it. -/
def readLabels? (cs : List Char) : Option (List (String × String) × List Char) :=
  match _h : readLabel? cs with
  | some (label, ',' :: rest) =>
    (readLabels? rest).map fun (labels, rest) => (label :: labels, rest)
  | some (label, '\x7d' :: rest) => some ([label], rest)
  | _ => none
termination_by cs.length
decreasing_by
  have := length_of_readLabel? _h
  simp only [List.length_cons] at this
  omega

theorem readLabels?_comma {cs rest : List Char} {label : String × String}
    (h : readLabel? cs = some (label, ',' :: rest)) :
    readLabels? cs = (readLabels? rest).map fun (labels, rest) => (label :: labels, rest) := by
  rw [readLabels?]
  split <;> simp_all

theorem readLabels?_last {cs rest : List Char} {label : String × String}
    (h : readLabel? cs = some (label, '\x7d' :: rest)) :
    readLabels? cs = some ([label], rest) := by
  rw [readLabels?]
  split <;> simp_all

/-- The labels in braces that a text begins with, if any, and what follows them. -/
def readLabelSet? : List Char → Option (List (String × String) × List Char)
  | '\x7b' :: '\x7d' :: rest => some ([], rest)
  | '\x7b' :: rest => readLabels? rest
  | rest => some ([], rest)

theorem readLabelSet?_cons {c : Char} (h : c ≠ '\x7d') (cs : List Char) :
    readLabelSet? ('\x7b' :: c :: cs) = readLabels? (c :: cs) := by
  unfold readLabelSet?
  split <;> simp_all

/-! ### Lines -/

/-- What the line of a sample says besides the name. -/
structure SampleReading where
  labels : List (String × String)
  value : String
  deriving DecidableEq, Repr

/-- What one line of the format says. -/
inductive Line where
  | help (name help : String)
  | type (name : String) (type : MetricType)
  | sample (name : String) (reading : SampleReading)
  deriving DecidableEq, Repr

def readType? (word : List Char) : Option MetricType :=
  if word = MetricType.counter.word.toList then some .counter
  else if word = MetricType.gauge.word.toList then some .gauge
  else none

def readHelpLine? (cs : List Char) : Option Line :=
  match readName? cs with
  | some (name, ' ' :: rest) =>
    (readHelpText? rest).map fun text => .help name (String.ofList text)
  | _ => none

def readTypeLine? (cs : List Char) : Option Line :=
  match readName? cs with
  | some (name, ' ' :: rest) => (readType? rest).map fun type => .type name type
  | _ => none

def readSampleLine? (cs : List Char) : Option Line := do
  let (name, rest) ← readName? cs
  let (labels, rest) ← readLabelSet? rest
  match rest with
  | ' ' :: value =>
    if !value.isEmpty && value.all isValueChar then
      some (.sample name ⟨labels, String.ofList value⟩)
    else none
  | _ => none

def readLine? (cs : List Char) : Option Line :=
  match helpMark.isPrefixOf? cs with
  | some rest => readHelpLine? rest
  | none =>
    match typeMark.isPrefixOf? cs with
    | some rest => readTypeLine? rest
    | none => readSampleLine? cs

/-- The lines of a text, without their line feeds. -/
def textLines : List Char → List (List Char)
  | [] => []
  | c :: cs =>
    if c = '\n' then [] :: textLines cs
    else
      match textLines cs with
      | [] => [[c]]
      | line :: lines => (c :: line) :: lines

def readLines? (cs : List Char) : Option (List Line) := (textLines cs).mapM readLine?

/-! ### Families -/

/-- What a text says about one family. -/
structure FamilyReading where
  name : String
  help : String
  type : MetricType
  samples : List SampleReading
  deriving DecidableEq, Repr

/-- The families that lines make up, and the samples that stand before the first of them.  A family
begins with a line of help and a line of type and has samples of its own name only. -/
def gather? : List Line → Option (List (String × SampleReading) × List FamilyReading)
  | [] => some ([], [])
  | .sample name reading :: rest =>
    (gather? rest).map fun (samples, families) => ((name, reading) :: samples, families)
  | .help name help :: .type typed type :: rest => do
    let (samples, families) ← gather? rest
    if name == typed && samples.all fun s => s.1 == name then
      some ([], ⟨name, help, type, samples.map Prod.snd⟩ :: families)
    else none
  | _ => none

/-- The families of a text in the exposition format; `none` when it is not in the format. -/
def read? (text : String) : Option (List FamilyReading) :=
  match (readLines? text.toList).bind gather? with
  | some ([], families) => some families
  | _ => none

end MetricScraper.Exposition
