import MetricScraper.Proofs.Exposition.RoundTrip
import MetricScraper.Proofs.Places

/-!
# Families as they are written

Families are made in one pass over the samples, which keeps for each name the place of its family.
What comes of it is known from two things alone: which names there are, in the order in which they
first occur, and which samples a name has.  So the text is known from them as well, and says each
name once.
-/

namespace MetricScraper

/-! ### Names and their samples -/

/-- The metric names of samples, each where it occurs first. -/
def metricNames (samples : List Sample) : List String := (samples.map Sample.name).eraseDups

def named (samples : List Sample) (n : String) : List Sample :=
  samples.filter fun s => s.name == n

theorem nodup_metricNames (samples : List Sample) : (metricNames samples).Nodup :=
  Places.nodup_eraseDups _

theorem mem_metricNames {samples : List Sample} {n : String} :
    n ∈ metricNames samples ↔ ∃ s ∈ samples, s.name = n := by
  rw [metricNames, List.mem_eraseDups, List.mem_map]

theorem metricNames_cons (s : Sample) (rest : List Sample) :
    metricNames (s :: rest) = s.name :: metricNames (s.others rest) := by
  have hothers : ((rest.map Sample.name).filter fun n => !n == s.name) =
      (s.others rest).map Sample.name := List.filter_map
  rw [metricNames, List.map_cons, List.eraseDups_cons, hothers, metricNames]

theorem named_cons_self (s : Sample) (rest : List Sample) :
    named (s :: rest) s.name = s :: s.namesakes rest :=
  List.filter_cons_of_pos (beq_self_eq_true s.name)

theorem named_others {s : Sample} {n : String} (h : n ≠ s.name) (rest : List Sample) :
    named (s.others rest) n = named (s :: rest) n := by
  have hrest : named (s :: rest) n = named rest n :=
    List.filter_cons_of_neg (by simpa using h.symm)
  rw [hrest, named, named, Sample.others, List.filter_filter]
  refine List.filter_congr fun t _ => ?_
  by_cases ht : t.name = n
  · simp [ht, h]
  · simp [ht]

theorem named_append (samples more : List Sample) (n : String) :
    named (samples ++ more) n = named samples n ++ named more n := List.filter_append ..

theorem named_singleton_self (s : Sample) : named [s] s.name = [s] := named_cons_self s []

theorem named_singleton_of_ne {s : Sample} {n : String} (h : n ≠ s.name) : named [s] n = [] :=
  List.filter_cons_of_neg (by simpa using h.symm)

theorem families_eq (samples : List Sample) :
    families samples = (metricNames samples).map (named samples) := by
  fun_induction families samples with
  | case1 => rfl
  | case2 s rest ih =>
    have hnames := metricNames_cons s rest
    have hnodup := nodup_metricNames (s :: rest)
    rw [hnames] at hnodup
    have hrest : ∀ n ∈ metricNames (s.others rest),
        named (s.others rest) n = named (s :: rest) n := fun n hn => by
      refine named_others ?_ rest
      rintro rfl
      exact (List.nodup_cons.mp hnodup).1 hn
    rw [ih, hnames, List.map_cons, named_cons_self, List.map_congr_left hrest]

/-- The families together are the samples in another order. -/
theorem flatten_families_perm (samples : List Sample) : (families samples).flatten.Perm samples := by
  fun_induction families samples with
  | case1 => exact .nil
  | case2 s rest ih =>
    have hparts : (s.namesakes rest ++ s.others rest).Perm rest := List.filter_append_perm _ rest
    rw [List.flatten_cons, List.cons_append]
    exact ((ih.append_left _).trans hparts).cons s

theorem families_flatten (samples : List Sample) :
    families (families samples).flatten = families samples := by
  fun_induction families samples with
  | case1 => rw [List.flatten_nil, families_nil]
  | case2 s rest ih =>
    have hothers : ∀ t ∈ (families (s.others rest)).flatten, (t.name == s.name) = false :=
      fun t ht => by
        have hmem := (flatten_families_perm _).mem_iff.mp ht
        simpa [Sample.others] using (List.mem_filter.mp hmem).2
    have hsame : ∀ t ∈ s.namesakes rest, (t.name == s.name) = true :=
      fun t ht => (List.mem_filter.mp ht).2
    have hin : s.namesakes (s.namesakes rest ++ (families (s.others rest)).flatten) =
        s.namesakes rest := by
      rw [Sample.namesakes, List.filter_append, List.filter_eq_self.mpr hsame,
        List.filter_eq_nil_iff.mpr fun t ht => by simp [hothers t ht], List.append_nil]
    have hout : s.others (s.namesakes rest ++ (families (s.others rest)).flatten) =
        (families (s.others rest)).flatten := by
      rw [Sample.others, List.filter_append,
        List.filter_eq_nil_iff.mpr fun t ht => by simp [hsame t ht],
        List.filter_eq_self.mpr fun t ht => by simp [hothers t ht], List.nil_append]
    rw [List.flatten_cons, List.cons_append, families_cons, hin, hout, ih]

/-- A list of samples falls apart into families by name, all in the order of the list. -/
structure StablePartition (samples : List Sample) (fams : List (List Sample)) : Prop where
  eq_map : fams = (metricNames samples).map (named samples)
  nodup : (metricNames samples).Nodup
  order : (metricNames samples).Pairwise fun m n =>
    (samples.map Sample.name).idxOf m < (samples.map Sample.name).idxOf n
  ne_nil : ∀ family ∈ fams, family ≠ []
  perm : fams.flatten.Perm samples

theorem stablePartition_families (samples : List Sample) :
    StablePartition samples (families samples) where
  eq_map := families_eq samples
  nodup := nodup_metricNames samples
  order := Places.pairwise_idxOf_eraseDups _
  ne_nil _ := ne_nil_of_mem_families
  perm := flatten_families_perm samples

/-! ### One pass -/

/-- Families in the making, and the place among them of the family of a name. -/
structure Grouping where
  index : String → Option Nat
  families : List (List Sample)

namespace Grouping

/-- Puts a sample into the family of its name, which may be a new one.  It fails if the family is
not where it is said to be. -/
def add? (g : Grouping) (s : Sample) : Option Grouping :=
  match g.index s.name with
  | some i =>
    if i < g.families.length then some { g with families := g.families.modify i (· ++ [s]) }
    else none
  | none =>
    some ⟨Function.update g.index s.name (some g.families.length), g.families ++ [[s]]⟩

/-- What samples have come to. -/
def of (samples : List Sample) : Grouping :=
  ⟨fun n => (metricNames samples).idxOf? n, MetricScraper.families samples⟩

theorem index_concat {names : List String} {n : String} (h : n ∉ names) :
    (fun m => (names ++ [n]).idxOf? m) =
      Function.update (fun m => names.idxOf? m) n (some names.length) := by
  funext m
  rw [List.idxOf?, List.findIdx?_append, ← List.idxOf?]
  by_cases hm : m = n
  · subst hm
    simp [List.idxOf?_eq_none_iff.mpr h]
  · have hother : (n == m) = false := by simpa using Ne.symm hm
    rw [Function.update_of_ne hm]
    simp [hother]

theorem add?_of (samples : List Sample) (s : Sample) :
    (of samples).add? s = some (of (samples ++ [s])) := by
  have hlength : (MetricScraper.families samples).length = (metricNames samples).length := by
    rw [families_eq, List.length_map]
  have hold : ∀ n, n ≠ s.name → named (samples ++ [s]) n = named samples n := fun n hn => by
    rw [named_append, named_singleton_of_ne hn, List.append_nil]
  have hnew : named (samples ++ [s]) s.name = named samples s.name ++ [s] := by
    rw [named_append, named_singleton_self]
  cases hindex : (metricNames samples).idxOf? s.name with
  | some i =>
    obtain ⟨hi, hname, -⟩ := List.idxOf?_eq_some_iff.mp hindex
    have hmem : s.name ∈ metricNames samples := hname ▸ List.getElem_mem hi
    have hnames : metricNames (samples ++ [s]) = metricNames samples := by
      rw [metricNames, List.map_append]
      refine Places.eraseDups_append_of_subset (List.forall_mem_singleton.mpr ?_)
      exact List.mem_eraseDups.mp hmem
    have hfamilies : (MetricScraper.families samples).modify i (· ++ [s]) =
        MetricScraper.families (samples ++ [s]) := by
      rw [families_eq, families_eq, hnames]
      exact Places.modify_map (nodup_metricNames samples) hindex hnew fun n _ hn => hold n hn
    simp only [add?, of, hindex, hlength, if_pos hi, hnames, hfamilies]
  | none =>
    have hmem := List.idxOf?_eq_none_iff.mp hindex
    have hnames : metricNames (samples ++ [s]) = metricNames samples ++ [s.name] := by
      rw [metricNames, List.map_append]
      exact Places.eraseDups_concat_of_notMem fun h => hmem (List.mem_eraseDups.mpr h)
    have hnone : named samples s.name = [] := by
      refine List.filter_eq_nil_iff.mpr fun t ht hname => hmem ?_
      exact mem_metricNames.mpr ⟨t, ht, beq_iff_eq.mp hname⟩
    have hfamilies : MetricScraper.families samples ++ [[s]] =
        MetricScraper.families (samples ++ [s]) := by
      have hsame : ∀ n ∈ metricNames samples, named samples n = named (samples ++ [s]) n :=
        fun n hn => (hold n fun heq => hmem (heq ▸ hn)).symm
      rw [families_eq, families_eq, hnames, List.map_append, List.map_singleton, hnew, hnone,
        List.map_congr_left hsame, List.nil_append]
    simp only [add?, of, hindex, hlength, hnames, hfamilies, index_concat hmem]

/-- From what some samples have come to, further samples lead to what all of them come to, and no
place is missing on the way. -/
theorem foldlM_add? (before samples : List Sample) :
    samples.foldlM add? (of before) = some (of (before ++ samples)) := by
  induction samples generalizing before with
  | nil => rw [List.append_nil]; rfl
  | cons s samples ih =>
    have hstep := add?_of before s
    rw [List.foldlM_cons, hstep, Option.bind_eq_bind, Option.bind_some, ih, List.append_assoc,
      List.singleton_append]

end Grouping

/-- The families of samples, made in one pass. -/
def group? (samples : List Sample) : Option (List (List Sample)) :=
  (samples.foldlM Grouping.add? ⟨fun _ => none, []⟩).map Grouping.families

theorem group?_eq (samples : List Sample) : group? samples = some (families samples) := by
  have hstart : (⟨fun _ => none, []⟩ : Grouping) = .of [] := by
    rw [Grouping.of, families_nil]
    rfl
  rw [group?, hstart, Grouping.foldlM_add?, List.nil_append]
  rfl

namespace Exposition

/-! ### Lines -/

variable (format : NumberFormat)

inductive Written where
  | help (d : Descriptor)
  | type (d : Descriptor)
  | sample (s : Sample)

namespace Written

def text : Written → List Char
  | help d => helpMark ++ d.name.toList ++ ' ' :: escapeHelp d.help.toList ++ ['\n']
  | type d => typeMark ++ d.name.toList ++ ' ' :: d.type.word.toList ++ ['\n']
  | sample s => sampleLine format s

def meant : Written → Line
  | help d => .help d.name d.help
  | type d => .type d.name d.type
  | sample s => .sample s.name (.of format s)

def helpName? : Written → Option String
  | help d => some d.name
  | _ => none

def typeName? : Written → Option String
  | type d => some d.name
  | _ => none

end Written

/-- The lines of a family: help and type of its first sample, then one for each sample. -/
def familyWritten : List Sample → List Written
  | [] => []
  | s :: rest => .help s.descriptor :: .type s.descriptor :: (s :: rest).map .sample

/-- The lines of the text of samples. -/
def written (samples : List Sample) : List Written := (families samples).flatMap familyWritten

theorem familyText_eq_written (family : List Sample) :
    familyText format family = (familyWritten family).flatMap (Written.text format) := by
  cases family with
  | nil => rfl
  | cons s rest =>
    have hsamples : ((s :: rest).map Written.sample).flatMap (Written.text format) =
        (s :: rest).flatMap (sampleLine format) := List.flatMap_map ..
    rw [familyWritten, List.flatMap_cons, List.flatMap_cons, hsamples]
    simp [familyText, Written.text]

theorem familyLines_eq_written (family : List Sample) :
    familyLines format family = (familyWritten family).map (Written.meant format) := by
  cases family with
  | nil => rfl
  | cons s rest =>
    rw [familyWritten, List.map_cons, List.map_cons, List.map_map]
    rfl

theorem encodeChars_eq (samples : List Sample) :
    encodeChars format samples = (written samples).flatMap (Written.text format) := by
  rw [encodeChars, written, List.flatMap_assoc]
  exact List.flatMap_congr fun family _ => familyText_eq_written format family

theorem written_eq (samples : List Sample) :
    written samples = (metricNames samples).flatMap fun n => familyWritten (named samples n) := by
  rw [written, families_eq, List.flatMap_map]

/-- What a test finds once in the lines of a family it finds once for each name in all lines. -/
theorem filterMap_written {f : Written → Option String}
    (hf : ∀ s rest, (familyWritten (s :: rest)).filterMap f = [s.name]) (samples : List Sample) :
    (written samples).filterMap f = metricNames samples := by
  rw [written]
  fun_induction families samples with
  | case1 => rfl
  | case2 s rest ih =>
    rw [List.flatMap_cons, List.filterMap_append, hf, ih, metricNames_cons, List.singleton_append]

theorem filterMap_samples {f : Written → Option String} (hf : ∀ s, f (.sample s) = none)
    (samples : List Sample) : (samples.map Written.sample).filterMap f = [] := by
  rw [List.filterMap_map, List.filterMap_eq_nil_iff]
  exact fun s _ => hf s

theorem helpNames_written (samples : List Sample) :
    (written samples).filterMap Written.helpName? = metricNames samples := by
  refine filterMap_written (fun s rest => ?_) samples
  have hsamples : ((s :: rest).map Written.sample).filterMap Written.helpName? = [] :=
    filterMap_samples (fun _ => rfl) _
  exact congrArg (s.name :: ·) hsamples

theorem typeNames_written (samples : List Sample) :
    (written samples).filterMap Written.typeName? = metricNames samples := by
  refine filterMap_written (fun s rest => ?_) samples
  have hsamples : ((s :: rest).map Written.sample).filterMap Written.typeName? = [] :=
    filterMap_samples (fun _ => rfl) _
  exact congrArg (s.name :: ·) hsamples

theorem readLines?_written {samples : List Sample} (h : ∀ s ∈ samples, IsNamed s) :
    readLines? (encodeChars format samples) = some ((written samples).map (Written.meant format)) := by
  have hnamed : ∀ family ∈ families samples, ∀ s ∈ family, IsNamed s :=
    fun _ hf s hs => h s (mem_of_mem_family hf hs)
  have hlines := List.flatMap_congr fun family (_ : family ∈ families samples) =>
    familyLines_eq_written format family
  rw [encodeChars, readLines?_families format hnamed, hlines, written, List.map_flatMap]

/-! ### Texts -/

/-- How the text of samples is laid out: for each name its help, its type and its samples, and no
line besides. -/
structure Layout (samples : List Sample) : Prop where
  text : (encode format samples).toList = (written samples).flatMap (Written.text format)
  blocks : written samples =
    (metricNames samples).flatMap fun n => familyWritten (named samples n)
  helps : (written samples).filterMap Written.helpName? = metricNames samples
  types : (written samples).filterMap Written.typeName? = metricNames samples
  read : (∀ s ∈ samples, IsNamed s) →
    readLines? (encode format samples).toList =
      some ((written samples).map (Written.meant format))

theorem layout (samples : List Sample) : Layout format samples where
  text := by rw [encode, String.toList_ofList, encodeChars_eq]
  blocks := written_eq samples
  helps := helpNames_written samples
  types := typeNames_written samples
  read h := by rw [encode, String.toList_ofList, readLines?_written format h]

theorem encode_congr {samples others : List Sample} (h : families others = families samples) :
    encode format others = encode format samples := by
  rw [encode, encode, encodeChars, encodeChars, h]

theorem families_congr {samples others : List Sample}
    (hnames : metricNames others = metricNames samples)
    (hnamed : ∀ n ∈ metricNames samples, named others n = named samples n) :
    families others = families samples := by
  rw [families_eq, families_eq, hnames, List.map_congr_left hnamed]

/-- Samples in whatever order fall apart into families, one for each metric name, in the order in
which the names first occur, each with the samples of its name in their order; and the pass that
makes them never misses a place.  So the text has one line of help and one of type for each name,
right before the samples of the name, and it is the same for the families one after the other and
for samples in any order that agrees in the names and in the samples of each name. -/
theorem encode_stable_partition (format : NumberFormat) (samples : List Sample) :
    StablePartition samples (families samples) ∧
    group? samples = some (families samples) ∧
    Layout format samples ∧
    encode format (families samples).flatten = encode format samples ∧
    ∀ others : List Sample, metricNames others = metricNames samples →
      (∀ n ∈ metricNames samples, named others n = named samples n) →
        encode format others = encode format samples := by
  refine ⟨stablePartition_families samples, group?_eq samples, layout format samples,
    encode_congr format (families_flatten samples), fun others hnames hnamed => ?_⟩
  exact encode_congr format (families_congr hnames hnamed)

/-- Samples of two metrics in turns. -/
def interleaved : List Sample :=
  [⟨⟨"up", "Whether it works.", ["unit"], .gauge⟩, 1.0, ["a"]⟩,
    ⟨⟨"bytes_total", "", [], .counter⟩, 7.0, []⟩,
    ⟨⟨"up", "Whether it works.", ["unit"], .gauge⟩, 0.0, ["b"]⟩]

theorem encode_stable_partition_interleaved :
    (written interleaved).filterMap Written.helpName? = ["up", "bytes_total"] ∧
    (∀ s ∈ interleaved, IsNamed s) ∧
    readLines? (encode .shortest interleaved).toList =
      some ((written interleaved).map (Written.meant .shortest)) ∧
    encode .shortest (named interleaved "up" ++ named interleaved "bytes_total") =
      encode .shortest interleaved := by
  obtain ⟨-, -, hlayout, -, hothers⟩ := encode_stable_partition .shortest interleaved
  have hnames : metricNames interleaved = ["up", "bytes_total"] := by decide
  have hproper : ∀ s ∈ interleaved, IsNamed s := by
    simp only [interleaved, List.forall_mem_cons]
    exact ⟨⟨by decide, by decide⟩, ⟨by decide, by decide⟩, ⟨by decide, by decide⟩, nofun⟩
  refine ⟨hlayout.helps.trans hnames, hproper, hlayout.read hproper, hothers _ ?_ ?_⟩
  · exact Eq.trans (by decide) hnames.symm
  · rw [hnames]
    simp only [List.forall_mem_cons]
    exact ⟨rfl, rfl, nofun⟩

end Exposition

end MetricScraper
