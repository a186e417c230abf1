import MetricScraper.Proofs.Exposition.Reader

/-!
# The exposition text reads back

Each part of a text is read back as what it was written from, whatever follows it: a name, an
escaped text, a label, a line, a family.  So the text of samples under proper names says all of
their names, help texts, types, labels and value texts, and no label value can pass for anything
else.
-/

namespace MetricScraper.Exposition

/-! ### Names -/

theorem all_of_isName {name : String} (h : isName name = true) :
    name.toList.all isNameChar = true := by
  unfold isName at h
  split at h
  · cases h
  · rename_i c cs hcs
    rw [hcs]
    exact (Bool.and_eq_true_iff.mp h).2

theorem not_mem_of_isName {name : String} (h : isName name = true) {c : Char}
    (hc : isNameChar c = false) : c ∉ name.toList := by
  intro hmem
  have := List.all_eq_true.mp (all_of_isName h) c hmem
  rw [hc] at this
  cases this

theorem readName?_append {name : String} (h : isName name = true) {c : Char}
    (hc : isNameChar c = false) (rest : List Char) :
    readName? (name.toList ++ c :: rest) = some (name, c :: rest) := by
  have hall := List.all_eq_true.mp (all_of_isName h)
  have htake : (name.toList ++ c :: rest).takeWhile isNameChar = name.toList := by
    simp [List.takeWhile_append_of_pos hall, hc]
  have hdrop : (name.toList ++ c :: rest).dropWhile isNameChar = c :: rest := by
    simp [List.dropWhile_append_of_pos hall, hc]
  simp [readName?, htake, hdrop, h]

/-! ### Escaped texts -/

/-- A character is escaped by a backslash and a character that stands for it, or stands for
itself and is no backslash. -/
theorem escapeHelpChar_cases (c : Char) :
    (∃ d, escapeHelpChar c = ['\\', d] ∧ unescapeHelp? d = some c) ∨
      c ≠ '\\' ∧ escapeHelpChar c = [c] := by
  by_cases hslash : c = '\\'
  · subst hslash
    exact .inl ⟨'\\', rfl, rfl⟩
  · by_cases hfeed : c = '\n'
    · subst hfeed
      exact .inl ⟨'n', rfl, rfl⟩
    · exact .inr ⟨hslash, by simp [escapeHelpChar, hslash, hfeed]⟩

theorem escapeLabelChar_cases (c : Char) :
    (∃ d, escapeLabelChar c = ['\\', d] ∧ unescapeLabel? d = some c) ∨
      c ≠ '"' ∧ c ≠ '\\' ∧ escapeLabelChar c = [c] := by
  by_cases hquote : c = '"'
  · subst hquote
    exact .inl ⟨'"', rfl, rfl⟩
  · have hsame : escapeLabelChar c = escapeHelpChar c := if_neg hquote
    rw [hsame]
    rcases escapeHelpChar_cases c with ⟨d, hd, hmeant⟩ | ⟨hslash, hself⟩
    · refine .inl ⟨d, hd, ?_⟩
      unfold unescapeLabel?
      split
      · rename_i hdquote
        subst hdquote
        cases hmeant
      · exact hmeant
    · exact .inr ⟨hquote, hslash, hself⟩

theorem readHelpText?_escape (text : List Char) : readHelpText? (escapeHelp text) = some text := by
  induction text with
  | nil => rfl
  | cons c cs ih =>
    rw [escapeHelp, List.flatMap_cons, ← escapeHelp]
    rcases escapeHelpChar_cases c with ⟨d, hd, hmeant⟩ | ⟨hslash, hself⟩
    · rw [hd, List.cons_append, List.singleton_append, readHelpText?_escaped hmeant, ih,
        Option.map_some]
    · rw [hself, List.singleton_append, readHelpText?_cons hslash, ih, Option.map_some]

theorem readQuoted?_escape (text rest : List Char) :
    readQuoted? (escapeLabelValue text ++ '"' :: rest) = some (text, rest) := by
  induction text with
  | nil => exact readQuoted?_quote rest
  | cons c cs ih =>
    rw [escapeLabelValue, List.flatMap_cons, ← escapeLabelValue, List.append_assoc]
    rcases escapeLabelChar_cases c with ⟨d, hd, hmeant⟩ | ⟨hquote, hslash, hself⟩
    · rw [hd, List.cons_append, List.singleton_append, readQuoted?_escaped hmeant, ih,
        Option.map_some]
    · rw [hself, List.singleton_append, readQuoted?_cons hquote hslash, ih, Option.map_some]

theorem feed_notMem_escapeHelpChar (c : Char) : '\n' ∉ escapeHelpChar c := by
  unfold escapeHelpChar
  split
  · decide
  · split
    · decide
    · rename_i hfeed
      simpa using Ne.symm hfeed

theorem feed_notMem_escapeHelp (text : List Char) : '\n' ∉ escapeHelp text := by
  simp only [escapeHelp, List.mem_flatMap, not_exists, not_and]
  exact fun c _ => feed_notMem_escapeHelpChar c

theorem feed_notMem_escapeLabelValue (text : List Char) : '\n' ∉ escapeLabelValue text := by
  simp only [escapeLabelValue, List.mem_flatMap, not_exists, not_and]
  intro c _
  unfold escapeLabelChar
  split
  · decide
  · exact feed_notMem_escapeHelpChar c

/-! ### Labels -/

theorem readLabel?_append {label : String × String} (h : isName label.1 = true)
    (rest : List Char) : readLabel? (labelText label ++ rest) = some (label, rest) := by
  have hshape : labelText label ++ rest =
      label.1.toList ++ '=' :: ('"' :: (escapeLabelValue label.2.toList ++ '"' :: rest)) := by
    simp [labelText]
  rw [hshape, readLabel?, readName?_append h (by decide)]
  simp [readQuoted?_escape, String.ofList_toList]

theorem labelsText_cons (label next : String × String) (more : List (String × String)) :
    labelsText (label :: next :: more) = labelText label ++ ',' :: labelsText (next :: more) := rfl

theorem readLabels?_append {labels : List (String × String)} (hne : labels ≠ [])
    (h : ∀ label ∈ labels, isName label.1 = true) (rest : List Char) :
    readLabels? (labelsText labels ++ '\x7d' :: rest) = some (labels, rest) := by
  induction labels with
  | nil => exact absurd rfl hne
  | cons label labels ih =>
    have hlabel := h label List.mem_cons_self
    cases labels with
    | nil => exact readLabels?_last (readLabel?_append hlabel _)
    | cons next more =>
      have htail := ih (by simp) fun l hl => h l (List.mem_cons_of_mem _ hl)
      rw [labelsText_cons, List.append_assoc, List.cons_append,
        readLabels?_comma (readLabel?_append hlabel _), htail, Option.map_some]

theorem feed_notMem_labelsText {labels : List (String × String)}
    (h : ∀ label ∈ labels, isName label.1 = true) : '\n' ∉ labelsText labels := by
  have hone : ∀ label ∈ labels, '\n' ∉ labelText label := fun label hl => by
    simp [labelText, not_mem_of_isName (h label hl) (c := '\n') (by decide),
      feed_notMem_escapeLabelValue]
  fun_induction labelsText labels with
  | case1 => simp
  | case2 label => exact hone label List.mem_cons_self
  | case3 label rest _ ih =>
    have htail := ih (fun l hl => h l (List.mem_cons_of_mem _ hl))
      fun l hl => hone l (List.mem_cons_of_mem _ hl)
    simp [hone label List.mem_cons_self, htail]

/-- The labels of a sample, as they stand between its name and its value. -/
def labelSetText (s : Sample) : List Char :=
  if s.descriptor.labelNames.isEmpty then [] else '\x7b' :: labelsText s.labels ++ ['\x7d']

theorem labelsText_head {label : String × String} {labels : List (String × String)}
    (h : isName label.1 = true) :
    ∃ c cs, labelsText (label :: labels) = c :: cs ∧ isNameChar c = true := by
  have hall := all_of_isName h
  unfold isName at h
  split at h
  · cases h
  · rename_i c cs hcs
    rw [hcs, List.all_cons, Bool.and_eq_true] at hall
    cases labels with
    | nil => exact ⟨c, _, by rw [labelsText, labelText, hcs]; rfl, hall.1⟩
    | cons next more => exact ⟨c, _, by rw [labelsText_cons, labelText, hcs]; rfl, hall.1⟩

theorem readLabelSet?_append {s : Sample} (h : ∀ label ∈ s.labels, isName label.1 = true)
    (rest : List Char) :
    readLabelSet? (labelSetText s ++ ' ' :: rest) = some (s.labels, ' ' :: rest) := by
  unfold labelSetText
  split
  · rename_i hnone
    have hlabels : s.labels = [] := by
      rw [Sample.labels, List.isEmpty_iff.mp hnone, List.zip_nil_left]
    rw [hlabels]
    rfl
  · cases hlabels : s.labels with
    | nil => rfl
    | cons label labels =>
      -- a name cannot begin with the closing brace that would end an empty set
      rw [hlabels] at h
      obtain ⟨c, cs, hhead, hc⟩ := labelsText_head (h label List.mem_cons_self)
      have hbrace : c ≠ '\x7d' := by
        rintro rfl
        exact absurd hc (by decide)
      have hread := readLabels?_append (by simp) h (' ' :: rest)
      rw [hhead] at hread ⊢
      rw [List.append_assoc, List.singleton_append, List.cons_append, List.cons_append,
        readLabelSet?_cons hbrace]
      exact hread

theorem feed_notMem_labelSetText {s : Sample} (h : ∀ label ∈ s.labels, isName label.1 = true) :
    '\n' ∉ labelSetText s := by
  unfold labelSetText
  split
  · simp
  · simp [feed_notMem_labelsText h]

/-! ### Lines -/

/-- Whether a sample and its labels have proper names. -/
def IsNamed (s : Sample) : Prop :=
  isName s.name = true ∧ ∀ name ∈ s.descriptor.labelNames, isName name = true

theorem IsNamed.labels {s : Sample} (h : IsNamed s) :
    ∀ label ∈ s.labels, isName label.1 = true := fun _ hl => h.2 _ (List.of_mem_zip hl).1

variable (format : NumberFormat)

/-- What the line of a sample says. -/
def SampleReading.of (s : Sample) : SampleReading :=
  ⟨s.labels, String.ofList (valueText format s.value)⟩

/-- What the lines of a family say. -/
def familyLines : List Sample → List Line
  | [] => []
  | s :: rest =>
    .help s.name s.descriptor.help :: .type s.name s.descriptor.type ::
      (s :: rest).map fun s => .sample s.name (.of format s)

theorem helpMark_isPrefixOf? (rest : List Char) :
    helpMark.isPrefixOf? (helpMark ++ rest) = some rest := rfl

theorem typeMark_isPrefixOf? (rest : List Char) :
    typeMark.isPrefixOf? (typeMark ++ rest) = some rest := rfl

theorem helpMark_isPrefixOf?_type (rest : List Char) :
    helpMark.isPrefixOf? (typeMark ++ rest) = none := rfl

theorem isNameChar_space : isNameChar ' ' = false := by decide

theorem isNameChar_feed : isNameChar '\n' = false := by decide

theorem readLine?_help {name : String} (h : isName name = true) (help : String) :
    readLine? (helpMark ++ name.toList ++ ' ' :: escapeHelp help.toList) =
      some (.help name help) := by
  rw [List.append_assoc, readLine?, helpMark_isPrefixOf?]
  simp only [readHelpLine?, readName?_append h isNameChar_space, readHelpText?_escape,
    Option.map_some, String.ofList_toList]

theorem readType?_word (type : MetricType) : readType? type.word.toList = some type := by
  cases type <;> rfl

theorem readLine?_type {name : String} (h : isName name = true) (type : MetricType) :
    readLine? (typeMark ++ name.toList ++ ' ' :: type.word.toList) =
      some (.type name type) := by
  rw [List.append_assoc, readLine?, helpMark_isPrefixOf?_type, typeMark_isPrefixOf?]
  simp only [readTypeLine?, readName?_append h isNameChar_space, readType?_word, Option.map_some]

/-- Only a line of help or of type begins with a number sign. -/
theorem readLine?_name {name : String} (h : isName name = true) (rest : List Char) :
    readLine? (name.toList ++ rest) = readSampleLine? (name.toList ++ rest) := by
  have hhead := all_of_isName h
  unfold isName at h
  split at h
  · cases h
  · rename_i c cs hcs
    rw [hcs, List.all_cons, Bool.and_eq_true] at hhead
    have hc : ¬ ('#' == c) = true := by
      rw [beq_iff_eq]
      rintro rfl
      exact absurd hhead.1 (by decide)
    have hmark : ∀ mark : List Char, ('#' :: mark).isPrefixOf? (c :: (cs ++ rest)) = none :=
      fun _ => if_neg hc
    have hhelp : helpMark = '#' :: " HELP ".toList := rfl
    have htype : typeMark = '#' :: " TYPE ".toList := rfl
    rw [hcs, List.cons_append, readLine?, hhelp, hmark, htype, hmark]

theorem labelSetText_head (s : Sample) (rest : List Char) :
    ∃ c cs, labelSetText s ++ ' ' :: rest = c :: cs ∧ isNameChar c = false := by
  unfold labelSetText
  split
  · exact ⟨' ', rest, rfl, isNameChar_space⟩
  · exact ⟨'\x7b', _, rfl, by decide⟩

/-- The line of a sample without its line feed. -/
def sampleText (s : Sample) : List Char :=
  s.name.toList ++ (labelSetText s ++ ' ' :: valueText format s.value)

theorem sampleLine_eq (s : Sample) : sampleLine format s = sampleText format s ++ ['\n'] := by
  simp only [sampleLine, sampleText, labelSetText, List.append_assoc]

variable {format}

theorem readLine?_sample {s : Sample} (h : IsNamed s) :
    readLine? (sampleText format s) = some (.sample s.name (.of format s)) := by
  obtain ⟨c, cs, hshape, hc⟩ := labelSetText_head s (valueText format s.value)
  have hname := readName?_append h.1 hc cs
  have hlabels := readLabelSet?_append h.labels (valueText format s.value)
  rw [hshape] at hlabels
  obtain ⟨hne, hall⟩ := isValueText_valueText format s.value
  have hvalue : (!(valueText format s.value).isEmpty &&
      (valueText format s.value).all isValueChar) = true := by
    simp [hne, hall]
  rw [sampleText, hshape, readLine?_name h.1, readSampleLine?, hname]
  simp only [Option.bind_eq_bind, Option.bind_some, hlabels, hvalue, if_true]
  rfl

theorem feed_notMem_valueText (x : Float) : '\n' ∉ valueText format x := by
  intro hmem
  have hfeed := List.all_eq_true.mp (isValueText_valueText format x).all '\n' hmem
  exact absurd hfeed (by decide)

theorem feed_notMem_sampleText {s : Sample} (h : IsNamed s) : '\n' ∉ sampleText format s := by
  simp [sampleText, not_mem_of_isName h.1 isNameChar_feed, feed_notMem_labelSetText h.labels,
    feed_notMem_valueText]

/-! ### Texts -/

theorem textLines_append {line : List Char} (h : '\n' ∉ line) (rest : List Char) :
    textLines (line ++ '\n' :: rest) = line :: textLines rest := by
  induction line with
  | nil => simp [textLines]
  | cons c cs ih =>
    rw [List.mem_cons, not_or] at h
    rw [List.cons_append, textLines, if_neg (Ne.symm h.1), ih h.2]

theorem readLines?_append {line : List Char} {meant : Line} (h : '\n' ∉ line)
    (hmeant : readLine? line = some meant) (rest : List Char) :
    readLines? (line ++ '\n' :: rest) = (readLines? rest).map (meant :: ·) := by
  rw [readLines?, textLines_append h, List.mapM_cons, hmeant]
  cases hrest : readLines? rest <;> simp_all [readLines?]

theorem readLines?_samples {samples : List Sample} (h : ∀ s ∈ samples, IsNamed s)
    (rest : List Char) :
    readLines? (samples.flatMap (sampleLine format) ++ rest) =
      (readLines? rest).map ((samples.map fun s => .sample s.name (.of format s)) ++ ·) := by
  induction samples with
  | nil => simp
  | cons s samples ih =>
    have hs := h s List.mem_cons_self
    rw [List.flatMap_cons, sampleLine_eq, List.append_assoc, List.append_assoc,
      List.singleton_append, readLines?_append (feed_notMem_sampleText hs) (readLine?_sample hs),
      ih fun s hm => h s (List.mem_cons_of_mem _ hm), Option.map_map]
    rfl

theorem readLines?_family {family : List Sample} (h : ∀ s ∈ family, IsNamed s)
    (rest : List Char) :
    readLines? (familyText format family ++ rest) =
      (readLines? rest).map (familyLines format family ++ ·) := by
  cases family with
  | nil => simp [familyText, familyLines]
  | cons s samples =>
    have hname := (h s List.mem_cons_self).1
    -- no line has a line feed of its own, so the text falls apart into just these lines
    have hhelp :
        '\n' ∉ helpMark ++ s.name.toList ++ ' ' :: escapeHelp s.descriptor.help.toList := by
      have hmark : '\n' ∉ helpMark := by decide
      simp [hmark, not_mem_of_isName hname isNameChar_feed, feed_notMem_escapeHelp]
    have htype : '\n' ∉ typeMark ++ s.name.toList ++ ' ' :: s.descriptor.type.word.toList := by
      have hmark : '\n' ∉ typeMark := by decide
      have hword : '\n' ∉ s.descriptor.type.word.toList := by
        cases s.descriptor.type <;> decide
      simp [hmark, not_mem_of_isName hname isNameChar_feed, hword]
    have hshape : familyText format (s :: samples) ++ rest =
        (helpMark ++ s.name.toList ++ ' ' :: escapeHelp s.descriptor.help.toList) ++ '\n' ::
          ((typeMark ++ s.name.toList ++ ' ' :: s.descriptor.type.word.toList) ++ '\n' ::
            ((s :: samples).flatMap (sampleLine format) ++ rest)) := by
      simp [familyText, Sample.name]
    rw [hshape, readLines?_append hhelp (readLine?_help hname _),
      readLines?_append htype (readLine?_type hname _), readLines?_samples h, Option.map_map,
      Option.map_map]
    rfl

/-! ### Families -/

variable (format) in
/-- What the text of a family says. -/
def FamilyReading.of? : List Sample → Option FamilyReading
  | [] => none
  | s :: rest =>
    some ⟨s.name, s.descriptor.help, s.descriptor.type, (s :: rest).map (SampleReading.of format)⟩

/-- A family has samples, all of one name. -/
inductive IsFamily : List Sample → Prop where
  | mk (s : Sample) (rest : List Sample) (same : ∀ t ∈ rest, t.name = s.name) :
    IsFamily (s :: rest)

theorem IsFamily.name_eq {family : List Sample} (h : IsFamily family) {s t : Sample}
    (hs : s ∈ family) (ht : t ∈ family) : s.name = t.name := by
  obtain ⟨first, rest, same⟩ := h
  have hfirst : ∀ u ∈ first :: rest, u.name = first.name :=
    List.forall_mem_cons.mpr ⟨rfl, same⟩
  rw [hfirst s hs, hfirst t ht]

theorem isFamily_of_mem {samples family : List Sample} (h : family ∈ families samples) :
    IsFamily family := by
  fun_induction families samples with
  | case1 => cases h
  | case2 s rest ih =>
    rcases List.mem_cons.mp h with rfl | h
    · refine .mk s _ fun t ht => ?_
      exact beq_iff_eq.mp (List.mem_filter.mp ht).2
    · exact ih h

theorem mem_of_mem_family {samples family : List Sample} (h : family ∈ families samples)
    {s : Sample} (hs : s ∈ family) : s ∈ samples := by
  fun_induction families samples with
  | case1 => cases h
  | case2 first rest ih =>
    rcases List.mem_cons.mp h with rfl | h
    · rcases List.mem_cons.mp hs with rfl | hs
      · exact List.mem_cons_self
      · exact List.mem_cons_of_mem _ (List.mem_filter.mp hs).1
    · exact List.mem_cons_of_mem _ (List.mem_filter.mp (ih h)).1

variable (format) in
theorem readLines?_families {fams : List (List Sample)}
    (h : ∀ family ∈ fams, ∀ s ∈ family, IsNamed s) :
    readLines? (fams.flatMap (familyText format)) = some (fams.flatMap (familyLines format)) := by
  induction fams with
  | nil => rfl
  | cons family fams ih =>
    rw [List.flatMap_cons, readLines?_family (h family List.mem_cons_self),
      ih fun family hm => h family (List.mem_cons_of_mem _ hm), Option.map_some,
      List.flatMap_cons]

theorem gather?_samples (samples : List Sample) (lines : List Line) :
    gather? ((samples.map fun s => Line.sample s.name (.of format s)) ++ lines) =
      (gather? lines).map fun (found, families) =>
        ((samples.map fun s => (s.name, SampleReading.of format s)) ++ found, families) := by
  induction samples with
  | nil => cases h : gather? lines <;> simp [h]
  | cons s samples ih =>
    rw [List.map_cons, List.cons_append, gather?, ih, Option.map_map]
    rfl

variable (format) in
theorem gather?_families {fams : List (List Sample)} (h : ∀ family ∈ fams, IsFamily family) :
    ∃ readings, gather? (fams.flatMap (familyLines format)) = some ([], readings) ∧
      readings.map some = fams.map (FamilyReading.of? format) := by
  induction fams with
  | nil => exact ⟨[], rfl, rfl⟩
  | cons family fams ih =>
    obtain ⟨readings, hgather, hreadings⟩ :=
      ih fun family hm => h family (List.mem_cons_of_mem _ hm)
    cases h family List.mem_cons_self with
    | mk s rest same =>
      refine ⟨⟨s.name, s.descriptor.help, s.descriptor.type, (s :: rest).map (.of format)⟩ :: readings,
        ?_, ?_⟩
      · rw [List.flatMap_cons, familyLines, List.cons_append, List.cons_append, gather?,
          gather?_samples, hgather]
        simpa using same
      · rw [List.map_cons, hreadings]
        rfl

variable (format) in
theorem read?_encode {samples : List Sample} (h : ∀ s ∈ samples, IsNamed s) :
    ∃ readings, read? (encode format samples) = some readings ∧
      readings.map some = (families samples).map (FamilyReading.of? format) := by
  have hnamed : ∀ family ∈ families samples, ∀ s ∈ family, IsNamed s :=
    fun _ hf s hs => h s (mem_of_mem_family hf hs)
  have hfamilies : ∀ family ∈ families samples, IsFamily family := fun _ => isFamily_of_mem
  obtain ⟨readings, hgather, hreadings⟩ := gather?_families format hfamilies
  have hlines := readLines?_families format hnamed
  refine ⟨readings, ?_, hreadings⟩
  rw [read?, encode, String.toList_ofList, encodeChars, hlines, Option.bind_some, hgather]

/-- However numbers are written, the text of samples under proper names is read back as their
families in order, each with its name, its help and type, and the labels and value text of every
sample; so two lists of such samples with one text agree in all of this. -/
theorem encode_unambiguous (format : NumberFormat) {samples : List Sample}
    (h : ∀ s ∈ samples, IsNamed s) :
    (∃ readings, read? (encode format samples) = some readings ∧
      readings.map some = (families samples).map (FamilyReading.of? format)) ∧
    ∀ others : List Sample, (∀ s ∈ others, IsNamed s) →
      encode format others = encode format samples →
        (families others).map (FamilyReading.of? format) =
          (families samples).map (FamilyReading.of? format) := by
  refine ⟨read?_encode format h, fun others hothers hsame => ?_⟩
  obtain ⟨readings, hsome, hreadings⟩ := read?_encode format h
  obtain ⟨readings', hsome', hreadings'⟩ := read?_encode format hothers
  rw [hsame, hsome] at hsome'
  cases hsome'
  rw [← hreadings, ← hreadings']

/-- A sample whose first label value looks like the end of its labels and of its line. -/
def forgingSample : Sample :=
  ⟨⟨"a_total", "Back\\slash and\nline feed.", ["x", "y"], .counter⟩, 0.25,
    ["\"\x7d 1\na_total\x7bx=\"\\", ""]⟩

/-- What its line says. -/
def forgingReading : SampleReading :=
  ⟨[("x", "\"\x7d 1\na_total\x7bx=\"\\"), ("y", "")], "0.25"⟩

theorem sampleReading_forging : .of .shortest forgingSample = forgingReading := by
  have hvalue : valueText .shortest 0.25 = "0.25".toList := by decide +kernel
  show SampleReading.mk forgingSample.labels (String.ofList (valueText .shortest 0.25)) = _
  rw [hvalue]
  rfl

theorem families_forging : families [forgingSample] = [[forgingSample]] := by
  rw [families_cons]
  show [forgingSample] :: families [] = [[forgingSample]]
  rw [families_nil]

theorem encode_unambiguous_forging :
    (∀ s ∈ [forgingSample], IsNamed s) ∧
      read? (encode .shortest [forgingSample]) =
        some [⟨"a_total", "Back\\slash and\nline feed.", .counter, [forgingReading]⟩] := by
  have hnamed : ∀ s ∈ [forgingSample], IsNamed s := by
    intro s hs
    rw [List.mem_singleton] at hs
    subst hs
    exact ⟨by decide, by decide⟩
  obtain ⟨readings, hread, hreadings⟩ := (encode_unambiguous .shortest hnamed).1
  rw [families_forging, List.map_singleton, FamilyReading.of?, List.map_singleton,
    sampleReading_forging] at hreadings
  refine ⟨hnamed, ?_⟩
  cases readings with
  | nil => cases hreadings
  | cons reading rest =>
    rw [List.map_cons, List.cons.injEq, List.map_eq_nil_iff] at hreadings
    obtain ⟨hreading, rfl⟩ := hreadings
    cases hreading
    exact hread

end MetricScraper.Exposition
