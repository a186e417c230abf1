import MetricScraper.Proofs.Collector.Batch
import MetricScraper.Proofs.Collector.DiskStatus
import MetricScraper.Proofs.Query.Cells

/-!
# Blocks of disks

The samples of the disks come in blocks, one for each active disk.  A block is a function of the row
of its disk and of the last prediction under the name of the disk.  A row that cannot be read fails
the whole run, but of an inactive disk nothing more is read than that it is inactive.
-/

namespace MetricScraper

/-! ### Works that ask for nothing but the time -/

inductive Work.Quiet : Work Unit → Prop where
  | done : Quiet (.done ())
  | fail (error : CollectError) : Quiet (.fail error)
  | push {rest : Work Unit} (samples : List Sample) (h : rest.Quiet) : Quiet (.push samples rest)
  | log {rest : Work Unit} (entry : LogEntry) (h : rest.Quiet) : Quiet (.log entry rest)
  | check {rest : Work Unit} (h : rest.Quiet) : Quiet (.check rest)

namespace Work

theorem Quiet.notes_bind {f : Unit → Work Unit} (entries : List LogEntry) (h : (f ()).Quiet) :
    ((notes entries).bind f).Quiet := by
  induction entries with
  | nil => exact h
  | cons entry entries ih => exact .log entry ih

/-- Such a work does the same in every world without a deadline. -/
theorem Quiet.run_eq {w : Work Unit} (hw : w.Quiet) {world world' : World} (h : world.Untimed)
    (h' : world'.Untimed) (r : Record) : w.run world' r = w.run world r := by
  induction hw generalizing r with
  | done => rfl
  | fail error => rfl
  | push samples hrest ih => exact ih (r.push samples)
  | log entry hrest ih => exact ih (r.log entry)
  | check hrest ih =>
    simp only [run, h r, h' r]
    exact ih r.look

end Work

namespace DiskStatus

open Disk

/-- The answers of a world, in which no deadline passes, to the two queries. -/
structure Answers (world : World) (disks predictions : List Row) : Prop where
  untimed : world.Untimed
  disks : ∀ r, (world r).rows dataQuery = .ok disks
  predictions : ∀ r, (world r).rows predictionQuery = .ok predictions

/-! ### Rows that can be read -/

def PredictionLegible (row : Row) : Prop :=
  row.text? "InstanceName" ≠ none ∧ row.truth? "PredictFailure" ≠ none

/-- Of an active disk more has to be legible. -/
def DiskLegible (row : Row) : Prop :=
  row.truth? "Active" ≠ none ∧ (row.truth? "Active" = some true →
    row.text? "InstanceName" ≠ none ∧
    (∀ column ∈ ["SelfTestStatus", "TotalTime", "SmartCapability"], row.number? column ≠ none) ∧
    row.bytes? "VendorSpecific" ≠ none)

instance (row : Row) : Decidable (PredictionLegible row) :=
  inferInstanceAs (Decidable (_ ∧ _))

instance (row : Row) : Decidable (DiskLegible row) :=
  inferInstanceAs (Decidable (_ ∧ (_ → _)))

theorem readPrediction_eq_ok_iff {row : Row} {p : String × Bool} :
    readPrediction row = .ok p ↔
      row.text? "InstanceName" = some p.1 ∧ row.truth? "PredictFailure" = some p.2 := by
  obtain ⟨volume, predicted⟩ := p
  simp only [readPrediction, Results.bind_eq_ok_iff, Row.text_eq_ok_iff, Row.bool_eq_ok_iff]
  constructor
  · rintro ⟨v, hv, p, hp, h⟩
    cases h
    exact ⟨hv, hp⟩
  · rintro ⟨hv, hp⟩
    exact ⟨volume, hv, predicted, hp, rfl⟩

theorem exists_readPrediction_iff {row : Row} :
    (∃ p, readPrediction row = .ok p) ↔ PredictionLegible row := by
  simp only [readPrediction_eq_ok_iff, PredictionLegible, Option.ne_none_iff_exists']
  constructor
  · rintro ⟨p, hv, hp⟩
    exact ⟨⟨p.1, hv⟩, p.2, hp⟩
  · rintro ⟨⟨v, hv⟩, p, hp⟩
    exact ⟨(v, p), hv, hp⟩

theorem ofRow_eq_ok_iff {row : Row} {disk : DiskRow} :
    DiskRow.ofRow row = .ok disk ↔ row.text? "InstanceName" = some disk.volume ∧
      row.number? "SelfTestStatus" = some disk.selfTestStatus ∧
      row.number? "TotalTime" = some disk.totalTime ∧
      row.number? "SmartCapability" = some disk.capability ∧
      row.bytes? "VendorSpecific" = some disk.vendor := by
  obtain ⟨volume, status, time, capability, vendor⟩ := disk
  simp only [DiskRow.ofRow, Results.bind_eq_ok_iff, Row.text_eq_ok_iff, Row.float_eq_ok_iff,
    Row.bytes_eq_ok_iff]
  constructor
  · rintro ⟨v, hv, s, hs, t, ht, c, hc, b, hb, h⟩
    cases h
    exact ⟨hv, hs, ht, hc, hb⟩
  · rintro ⟨hv, hs, ht, hc, hb⟩
    exact ⟨volume, hv, status, hs, time, ht, capability, hc, vendor, hb, rfl⟩

theorem readDisk?_eq_ok_iff {row : Row} {found : Option DiskRow} :
    readDisk? row = .ok found ↔ (row.truth? "Active" = some false ∧ found = none) ∨
      ∃ disk, row.truth? "Active" = some true ∧ DiskRow.ofRow row = .ok disk ∧
        found = some disk := by
  simp only [readDisk?, Results.bind_eq_ok_iff, Row.bool_eq_ok_iff]
  constructor
  · rintro ⟨active, hactive, h⟩
    cases active with
    | false =>
      cases h
      exact Or.inl ⟨hactive, rfl⟩
    | true =>
      obtain ⟨disk, hdisk, h⟩ := Results.bind_eq_ok_iff.mp h
      cases h
      exact Or.inr ⟨disk, hactive, hdisk, rfl⟩
  · rintro (⟨hactive, rfl⟩ | ⟨disk, hactive, hdisk, rfl⟩)
    · exact ⟨false, hactive, rfl⟩
    · exact ⟨true, hactive, Results.bind_eq_ok_iff.mpr ⟨disk, hdisk, rfl⟩⟩

theorem exists_ofRow_iff {row : Row} :
    (∃ disk, DiskRow.ofRow row = .ok disk) ↔ row.text? "InstanceName" ≠ none ∧
      (∀ column ∈ ["SelfTestStatus", "TotalTime", "SmartCapability"], row.number? column ≠ none) ∧
      row.bytes? "VendorSpecific" ≠ none := by
  have hcolumns : (∀ column ∈ ["SelfTestStatus", "TotalTime", "SmartCapability"],
      row.number? column ≠ none) ↔ row.number? "SelfTestStatus" ≠ none ∧
        row.number? "TotalTime" ≠ none ∧ row.number? "SmartCapability" ≠ none := by simp
  rw [hcolumns]
  simp only [ofRow_eq_ok_iff, Option.ne_none_iff_exists']
  constructor
  · rintro ⟨disk, hv, hs, ht, hc, hb⟩
    exact ⟨⟨_, hv⟩, ⟨⟨_, hs⟩, ⟨_, ht⟩, _, hc⟩, _, hb⟩
  · rintro ⟨⟨v, hv⟩, ⟨⟨s, hs⟩, ⟨t, ht⟩, c, hc⟩, b, hb⟩
    exact ⟨⟨v, s, t, c, b⟩, hv, hs, ht, hc, hb⟩

theorem exists_readDisk?_iff {row : Row} :
    (∃ found, readDisk? row = .ok found) ↔ DiskLegible row := by
  rw [DiskLegible, ← exists_ofRow_iff]
  simp only [readDisk?_eq_ok_iff]
  cases hactive : row.truth? "Active" with
  | none => simp
  | some active => cases active <;> simp

/-! ### Predictions -/

/-- The last prediction under the name of a disk. -/
def lastPrediction? (predictions : List Row) (disk : Row) : Option Row :=
  (disk.text? "InstanceName").bind fun volume =>
    (rowsWith "InstanceName" volume predictions).getLast?

/-- What a prediction says. -/
def predicted? (prediction : Option Row) : Option Bool :=
  prediction.bind fun row => row.truth? "PredictFailure"

theorem readPredictions_of_legible {rows : List Row} (h : ∀ row ∈ rows, PredictionLegible row)
    (before : List (String × Bool)) :
    ∃ predictions, readPredictions before rows = .ok predictions ∧ ∀ volume,
      predictions.lookup volume =
        (predicted? (rowsWith "InstanceName" volume rows).getLast?).or (before.lookup volume) := by
  induction rows generalizing before with
  | nil => exact ⟨before, rfl, fun volume => rfl⟩
  | cons row rest ih =>
    obtain ⟨hrow, hrest⟩ := List.forall_mem_cons.mp h
    obtain ⟨⟨name, p⟩, hp⟩ := exists_readPrediction_iff.mpr hrow
    obtain ⟨hname, hpredicted⟩ := readPrediction_eq_ok_iff.mp hp
    obtain ⟨predictions, hread, hlookup⟩ := ih hrest ((name, p) :: before)
    refine ⟨predictions, by rw [readPredictions, hp]; exact hread, fun volume => ?_⟩
    have hrows : rowsWith "InstanceName" volume (row :: rest) =
        rowsWith "InstanceName" volume [row] ++ rowsWith "InstanceName" volume rest :=
      rowsWith_append _ _ [row] rest
    rw [hlookup, hrows, List.getLast?_append]
    cases hlast : (rowsWith "InstanceName" volume rest).getLast? with
    | some last =>
      -- a later row of the name counts, and says something
      have hmem := (mem_rowsWith.mp (List.mem_of_getLast? hlast)).1
      obtain ⟨b, hb⟩ := Option.ne_none_iff_exists'.mp (hrest last hmem).2
      simp [predicted?, hb]
    | none =>
      by_cases hvolume : name = volume
      · subst hvolume
        have hone : rowsWith "InstanceName" name [row] = [row] := by simp [rowsWith, hname]
        simp [predicted?, hone, hpredicted]
      · have hone : rowsWith "InstanceName" volume [row] = [] := by
          simp [rowsWith, hname, hvolume]
        simp [predicted?, hone, List.lookup_cons, beq_false_of_ne (Ne.symm hvolume)]

theorem legible_of_readPredictions {rows : List Row} {before predictions : List (String × Bool)}
    (h : readPredictions before rows = .ok predictions) : ∀ row ∈ rows, PredictionLegible row := by
  induction rows generalizing before with
  | nil => exact fun row hrow => absurd hrow List.not_mem_nil
  | cons row rest ih =>
    rw [readPredictions] at h
    split at h
    · rename_i p hp
      exact List.forall_mem_cons.mpr ⟨exists_readPrediction_iff.mp ⟨p, hp⟩, ih h⟩
    · cases h

/-! ### Blocks -/

def activeRows (disks : List Row) : List Row :=
  disks.filter fun row => row.truth? "Active" = some true

/-- What is published of a disk, given the last prediction under its name. -/
def block (space : String) (options : Options) (disk : Row) (prediction : Option Row) :
    List Sample :=
  match DiskRow.ofRow disk with
  | .ok d => diskSamples space options d (predicted? prediction)
  | .error _ => []

def blocks (space : String) (options : Options) (disks predictions : List Row) :
    List (List Sample) :=
  (activeRows disks).map fun disk =>
    block space options disk (lastPrediction? predictions disk)

variable {space : String} {options : Options} {row : Row} {disk : DiskRow}
  {disks predictions : List Row}

theorem block_of_ofRow (h : DiskRow.ofRow row = .ok disk) (prediction : Option Row) :
    block space options row prediction =
      diskSamples space options disk (predicted? prediction) := by
  rw [block, h]

theorem lastPrediction?_of_ofRow (h : DiskRow.ofRow row = .ok disk) :
    lastPrediction? predictions row =
      (rowsWith "InstanceName" disk.volume predictions).getLast? := by
  rw [lastPrediction?, (ofRow_eq_ok_iff.mp h).1, Option.bind_some]

theorem mem_activeDisks : disk ∈ activeDisks disks ↔
    ∃ row ∈ activeRows disks, DiskRow.ofRow row = .ok disk := by
  have hread (row : Row) : (readDisk? row).toOption.join = some disk ↔
      row.truth? "Active" = some true ∧ DiskRow.ofRow row = .ok disk := by
    have hok : (readDisk? row).toOption.join = some disk ↔ readDisk? row = .ok (some disk) := by
      cases readDisk? row <;> simp [Except.toOption]
    rw [hok, readDisk?_eq_ok_iff]
    simp
  simp only [activeDisks, activeRows, List.mem_filterMap, List.mem_filter, hread,
    decide_eq_true_eq, and_assoc]

theorem flatten_blocks (hdisks : ∀ row ∈ disks, DiskLegible row)
    {lookup : String → Option Bool} (hlookup : ∀ volume,
      lookup volume = predicted? (rowsWith "InstanceName" volume predictions).getLast?) :
    (blocks space options disks predictions).flatten =
      (activeDisks disks).flatMap fun disk =>
        diskSamples space options disk (lookup disk.volume) := by
  induction disks with
  | nil => rfl
  | cons row rest ih =>
    obtain ⟨hrow, hrest⟩ := List.forall_mem_cons.mp hdisks
    obtain ⟨found, hfound⟩ := exists_readDisk?_iff.mpr hrow
    rcases readDisk?_eq_ok_iff.mp hfound with ⟨hactive, rfl⟩ | ⟨disk, hactive, hdisk, rfl⟩
    · have hrows : activeRows (row :: rest) = activeRows rest := by simp [activeRows, hactive]
      rw [blocks, hrows, activeDisks_cons hfound, Option.toList_none, List.nil_append, ← ih hrest,
        blocks]
    · have hrows : activeRows (row :: rest) = row :: activeRows rest := by
        simp [activeRows, hactive]
      rw [blocks, hrows, activeDisks_cons hfound, Option.toList_some, List.singleton_append,
        List.map_cons, List.flatten_cons, List.flatMap_cons, ← ih hrest, block_of_ofRow hdisk,
        lastPrediction?_of_ofRow hdisk, hlookup, blocks]

/-! ### Runs -/

/-- What is left to do when both queries have been answered. -/
def afterQueries (space : String) (options : Options) (disks predictions : List Row) : Work Unit :=
  match readPredictions [] predictions with
  | .error e => .fail (.query e)
  | .ok p => collectDisks space options p disks.length [] 0 disks

theorem run_collect {world : World} (h : Answers world disks predictions) (r : Record) :
    (collect space options).run world r = (afterQueries space options disks predictions).run world
      (((r.call dataQuery).look).call predictionQuery) := by
  simp only [collect, Work.run, h.disks, h.untimed _, h.predictions]
  rfl

theorem quiet_collectDisks (p : List (String × Bool)) (count : Nat) (out : List Sample)
    (failing : Nat) (rows : List Row) :
    (collectDisks space options p count out failing rows).Quiet := by
  induction rows generalizing out failing with
  | nil => exact .log _ (.push out .done)
  | cons row rest ih =>
    refine .check ?_
    cases readDisk? row with
    | error e => exact .fail _
    | ok found =>
      cases found with
      | none => exact ih out failing
      | some disk => exact .notes_bind _ (ih _ _)

theorem quiet_afterQueries : (afterQueries space options disks predictions).Quiet := by
  rw [afterQueries]
  split
  · exact .fail _
  · exact quiet_collectDisks ..

/-- Rows that are read alike, with predictions that are found alike, make the same work. -/
theorem collectDisks_congr {p p' : List (String × Bool)} {rows rows' : List Row}
    (hrows : rows.map readDisk? = rows'.map readDisk?)
    (hlookup : ∀ disk ∈ activeDisks rows, p.lookup disk.volume = p'.lookup disk.volume)
    (count : Nat) (out : List Sample) (failing : Nat) :
    collectDisks space options p count out failing rows =
      collectDisks space options p' count out failing rows' := by
  induction rows generalizing rows' out failing with
  | nil =>
    rw [List.map_nil, eq_comm, List.map_eq_nil_iff] at hrows
    rw [hrows]
    rfl
  | cons row rest ih =>
    cases rows' with
    | nil => cases hrows
    | cons row' rest' =>
      obtain ⟨hrow, hrest⟩ := List.cons.inj hrows
      rw [collectDisks, collectDisks, ← hrow]
      cases hread : readDisk? row with
      | error e => rfl
      | ok found =>
        rw [activeDisks_cons hread, List.forall_mem_append] at hlookup
        cases found with
        | none => exact congrArg Work.check (ih hrest hlookup.2 out failing)
        | some disk => simp only [hlookup.1 disk List.mem_cons_self, ih hrest hlookup.2]

theorem done_of_collectDisks {world : World} (h : world.Untimed) {rows : List Row}
    (hrows : ∀ row ∈ rows, DiskLegible row) (p : List (String × Bool)) (count : Nat)
    (out : List Sample) (failing : Nat) (r : Record) :
    ((collectDisks space options p count out failing rows).run world r).2 = .done () := by
  induction rows generalizing out failing r with
  | nil => rfl
  | cons row rest ih =>
    obtain ⟨hrow, hrest⟩ := List.forall_mem_cons.mp hrows
    obtain ⟨found, hfound⟩ := exists_readDisk?_iff.mpr hrow
    simp only [collectDisks, Work.run, h r, hfound]
    cases found with
    | none => exact ih hrest out failing r.look
    | some disk =>
      rw [Work.run_notes_bind]
      exact ih hrest _ _ _

theorem legible_iff_done (space : String) (options : Options) {world : World}
    (h : Answers world disks predictions) (r : Record) :
    ((collect space options).run world r).2 = .done () ↔
      (∀ row ∈ predictions, PredictionLegible row) ∧ ∀ row ∈ disks, DiskLegible row := by
  rw [run_collect h]
  constructor
  · intro hdone
    rw [afterQueries] at hdone
    cases hread : readPredictions [] predictions with
    | error e => simp [hread, Work.run] at hdone
    | ok p =>
      rw [hread] at hdone
      obtain ⟨hall, -⟩ := samples_of_collectDisks (Prod.ext rfl hdone)
      exact ⟨legible_of_readPredictions hread,
        fun row hrow => exists_readDisk?_iff.mp (hall row hrow)⟩
  · rintro ⟨hpredictions, hdisks⟩
    obtain ⟨p, hread, -⟩ := readPredictions_of_legible hpredictions []
    rw [afterQueries, hread]
    exact done_of_collectDisks h.untimed hdisks ..

theorem samples_of_done {world : World} (h : Answers world disks predictions)
    (hpredictions : ∀ row ∈ predictions, PredictionLegible row)
    (hdisks : ∀ row ∈ disks, DiskLegible row) (r : Record) :
    ((collect space options).run world r).1.samples =
      r.samples ++ (blocks space options disks predictions).flatten := by
  have hdone := (legible_iff_done space options h r).mpr ⟨hpredictions, hdisks⟩
  obtain ⟨p, hread, hlookup⟩ := readPredictions_of_legible hpredictions []
  have hlookup (volume : String) : p.lookup volume =
      predicted? (rowsWith "InstanceName" volume predictions).getLast? := by
    rw [hlookup, List.lookup_nil, Option.or_none]
  rw [run_collect h, afterQueries, hread] at hdone ⊢
  obtain ⟨-, hsamples⟩ := samples_of_collectDisks (Prod.ext rfl hdone)
  rw [hsamples, flatten_blocks hdisks hlookup, List.append_nil]
  rfl

/-! ### Rows that do not matter -/

/-- The same row, or two inactive ones. -/
def AlikeDisks (row row' : Row) : Prop :=
  row = row' ∨ (row.truth? "Active" = some false ∧ row'.truth? "Active" = some false)

theorem readDisk?_of_alike {row row' : Row} (h : AlikeDisks row row') :
    readDisk? row = readDisk? row' := by
  rcases h with rfl | ⟨hrow, hrow'⟩
  · rfl
  · rw [readDisk?_eq_ok_iff.mpr (Or.inl ⟨hrow, rfl⟩), readDisk?_eq_ok_iff.mpr (Or.inl ⟨hrow', rfl⟩)]

theorem afterQueries_of_disks {disks' : List Row} (h : List.Forall₂ AlikeDisks disks disks') :
    afterQueries space options disks' predictions =
      afterQueries space options disks predictions := by
  have hread : disks.map readDisk? = disks'.map readDisk? := by
    rw [← List.forall₂_eq_eq_eq, List.forall₂_map_left_iff, List.forall₂_map_right_iff]
    exact h.imp fun _ _ => readDisk?_of_alike
  rw [afterQueries, afterQueries, h.length_eq]
  cases readPredictions [] predictions with
  | error e => rfl
  | ok p => exact (collectDisks_congr hread (fun _ _ => rfl) ..).symm

theorem afterQueries_of_predictions {predictions' : List Row}
    (hpredictions : ∀ row ∈ predictions, PredictionLegible row)
    (hpredictions' : ∀ row ∈ predictions', PredictionLegible row)
    (hlast : ∀ disk ∈ activeRows disks,
      lastPrediction? predictions' disk = lastPrediction? predictions disk) :
    afterQueries space options disks predictions' =
      afterQueries space options disks predictions := by
  obtain ⟨p, hread, hlookup⟩ := readPredictions_of_legible hpredictions []
  obtain ⟨p', hread', hlookup'⟩ := readPredictions_of_legible hpredictions' []
  rw [afterQueries, afterQueries, hread, hread']
  refine collectDisks_congr rfl (fun disk hdisk => ?_) ..
  obtain ⟨row, hrow, hofRow⟩ := mem_activeDisks.mp hdisk
  have hsame := hlast row hrow
  rw [lastPrediction?_of_ofRow hofRow, lastPrediction?_of_ofRow hofRow] at hsame
  rw [hlookup, hlookup', hsame]

theorem run_congr {world world' : World} {disks' predictions' : List Row}
    (h : Answers world disks predictions) (h' : Answers world' disks' predictions')
    (hwork : afterQueries space options disks' predictions' =
      afterQueries space options disks predictions) (r : Record) :
    (collect space options).run world' r = (collect space options).run world r := by
  rw [run_collect h, run_collect h', hwork]
  exact quiet_afterQueries.run_eq h.untimed h'.untimed _

/-! ### What a block carries -/

/-- The sample of a prediction. -/
def predictionSample (space volume : String) (fails : Bool) : Sample :=
  ⟨⟨qualifiedName space "smart" "predict_failure", "Whether the drive predicts its own failure.",
      ["volume"], .gauge⟩, if fails then 1.0 else 0.0, [volume]⟩

/-- A value of a record of a disk. -/
def recordSample (space volume : String) (a : Attribute) (metric help : String) (value : Float) :
    Sample :=
  ⟨⟨qualifiedName space "smart" metric, help, ["volume", "id"], .gauge⟩, value,
    [volume, toString a.id.toNat]⟩

/-- The three samples of a record. -/
def recordSamples (space volume : String) (a : Attribute) : List Sample := [
  recordSample space volume a "attribute_normalized"
    "Current normalized value of a SMART attribute." a.normalized.toFloat,
  recordSample space volume a "attribute_worst" "Worst normalized value of a SMART attribute."
    a.worst.toFloat,
  recordSample space volume a "attribute_raw" "Raw value of a SMART attribute." a.raw.toFloat]

theorem attributeSamples_eq : attributeSamples = recordSamples := rfl

theorem figureSamples_eq (space : String) (options : Options) (disk : DiskRow)
    (predicted : Option Bool) :
    figureSamples space options disk predicted = figureSamples space options disk none ++
      (predicted.map (predictionSample space disk.volume)).toList := by
  cases predicted with
  | none => rw [Option.map_none, Option.toList_none, List.append_nil]
  | some p =>
    simp only [figureSamples, Option.map_some, Option.map_none, Option.toList_none,
      List.append_nil]
    rfl

/-- The other samples of a disk are of other metrics. -/
theorem name_ne_of_unpredicted (options : Options) {x : Sample}
    (hx : x ∈ statusSamples space disk ++ figureSamples space options disk none) :
    x.name ≠ qualifiedName space "smart" "predict_failure" := by
  have hentry : Entry space name diskSpecs [disk.volume]
      (statusSamples space disk ++ figureSamples space options disk (some true)) :=
    (entry_statusSamples space disk).append (entry_figureSamples space options disk (some true))
  have hnodup := hentry.nodup_series (by decide) diskSpecs_names
  have hvalues := hentry.values
  rw [figureSamples_eq, ← List.append_assoc] at hnodup hvalues
  rw [List.map_append, List.nodup_append'] at hnodup
  intro hname
  have hseries : x.series = (predictionSample space disk.volume true).series :=
    Prod.ext hname (hvalues x (List.mem_append_left _ hx))
  refine hnodup.2.2 (List.mem_map_of_mem hx) ?_
  rw [hseries]
  exact List.mem_singleton.mpr rfl

theorem name_ne_of_attribute {volume : String} {a : Attribute} {x : Sample}
    (hx : x ∈ attributeSamples space volume a) :
    x.name ≠ qualifiedName space "smart" "predict_failure" := by
  obtain ⟨m, hm, heq⟩ := (entry_attributeSamples volume a).exists_spec hx
  have hnames : ∀ m ∈ attributeSpecs, m.name ≠ "" ∧ m.name ≠ "predict_failure" := by decide
  intro hname
  rw [Sample.name, heq] at hname
  exact (hnames m hm).2 (qualifiedName_inj (hnames m hm).1 (by decide) hname)

theorem filter_prediction (space : String) (options : Options) (disk : DiskRow)
    (predicted : Option Bool) :
    ((diskSamples space options disk predicted).filter fun x =>
        x.name = qualifiedName space "smart" "predict_failure") =
      (predicted.map (predictionSample space disk.volume)).toList := by
  have hstatus : ((statusSamples space disk).filter fun x =>
      x.name = qualifiedName space "smart" "predict_failure") = [] := by
    refine List.filter_eq_nil_iff.mpr fun x hx => ?_
    simpa using name_ne_of_unpredicted options (List.mem_append_left _ hx)
  have hfigures : ((figureSamples space options disk none).filter fun x =>
      x.name = qualifiedName space "smart" "predict_failure") = [] := by
    refine List.filter_eq_nil_iff.mpr fun x hx => ?_
    simpa using name_ne_of_unpredicted options (List.mem_append_right _ hx)
  have hattributes : (((decode disk.vendor).attributes.flatMap
      (attributeSamples space disk.volume)).filter fun x =>
        x.name = qualifiedName space "smart" "predict_failure") = [] := by
    refine List.filter_eq_nil_iff.mpr fun x hx => ?_
    obtain ⟨a, -, hx⟩ := List.mem_flatMap.mp hx
    simpa using name_ne_of_attribute hx
  rw [diskSamples_eq, figureSamples_eq, List.filter_append, List.filter_append, List.filter_append,
    hstatus, hattributes, hfigures, List.append_nil, List.nil_append, List.nil_append]
  cases predicted with
  | none => rfl
  | some p => exact List.filter_eq_self.mpr fun x hx => by simp [List.mem_singleton.mp hx,
      predictionSample, Sample.name]

theorem labelNames_of_entry {specs : List MetricSpec} {values labels : List String}
    {samples : List Sample} (h : Entry space name specs values samples)
    (hlabels : ∀ m ∈ specs, m.labels = labels) {x : Sample} (hx : x ∈ samples) :
    x.descriptor.labelNames = labels := by
  obtain ⟨m, hm, heq⟩ := h.exists_spec hx
  rw [heq, Descriptor.ofSpec, hlabels m hm]

theorem filter_attributes (space : String) (options : Options) (disk : DiskRow)
    (predicted : Option Bool) :
    ((diskSamples space options disk predicted).filter fun x =>
        x.descriptor.labelNames = ["volume", "id"]) =
      (decode disk.vendor).attributes.flatMap (attributeSamples space disk.volume) := by
  have hlabels : ∀ m ∈ diskSpecs, m.labels = ["volume"] := by decide
  have hentry := (entry_statusSamples space disk).append
    (entry_figureSamples space options disk predicted)
  have hstatus : ((statusSamples space disk).filter fun x =>
      x.descriptor.labelNames = ["volume", "id"]) = [] := by
    refine List.filter_eq_nil_iff.mpr fun x hx => ?_
    simp [labelNames_of_entry hentry hlabels (List.mem_append_left _ hx)]
  have hfigures : ((figureSamples space options disk predicted).filter fun x =>
      x.descriptor.labelNames = ["volume", "id"]) = [] := by
    refine List.filter_eq_nil_iff.mpr fun x hx => ?_
    simp [labelNames_of_entry hentry hlabels (List.mem_append_right _ hx)]
  have hattributes : (((decode disk.vendor).attributes.flatMap
      (attributeSamples space disk.volume)).filter fun x =>
        x.descriptor.labelNames = ["volume", "id"]) =
      (decode disk.vendor).attributes.flatMap (attributeSamples space disk.volume) := by
    refine List.filter_eq_self.mpr fun x hx => ?_
    obtain ⟨a, -, hx⟩ := List.mem_flatMap.mp hx
    have hboth : ∀ m ∈ attributeSpecs, m.labels = ["volume", "id"] := by decide
    simp [labelNames_of_entry (entry_attributeSamples disk.volume a) hboth hx]
  rw [diskSamples_eq, List.filter_append, List.filter_append, hstatus, hattributes, hfigures,
    List.nil_append, List.append_nil]

/-- The part of a block that is of predictions, and the part that is of records. -/
theorem parts_of_block {row : Row} (hlegible : DiskLegible row)
    (hactive : row ∈ activeRows disks) (hpredictions : ∀ row ∈ predictions, PredictionLegible row) :
    ∃ volume vendor, row.text? "InstanceName" = some volume ∧
      row.bytes? "VendorSpecific" = some vendor ∧
      ((block space options row (lastPrediction? predictions row)).filter fun x =>
          x.name = qualifiedName space "smart" "predict_failure") =
        ((lastPrediction? predictions row).map fun p =>
          predictionSample space volume (p.truth? "PredictFailure" = some true)).toList ∧
      ((block space options row (lastPrediction? predictions row)).filter fun x =>
          x.descriptor.labelNames = ["volume", "id"]) =
        (decode vendor).attributes.flatMap (recordSamples space volume) := by
  rw [activeRows, List.mem_filter, decide_eq_true_eq] at hactive
  obtain ⟨disk, hdisk⟩ := exists_ofRow_iff.mpr (hlegible.2 hactive.2)
  obtain ⟨hvolume, -, -, -, hvendor⟩ := ofRow_eq_ok_iff.mp hdisk
  refine ⟨disk.volume, disk.vendor, hvolume, hvendor, ?_, ?_⟩
  · rw [block_of_ofRow hdisk, filter_prediction, lastPrediction?_of_ofRow hdisk]
    cases hlast : (rowsWith "InstanceName" disk.volume predictions).getLast? with
    | none => rfl
    | some p =>
      have hmem := (mem_rowsWith.mp (List.mem_of_getLast? hlast)).1
      obtain ⟨b, hb⟩ := Option.ne_none_iff_exists'.mp (hpredictions p hmem).2
      simp [predicted?, hb]
  · rw [block_of_ofRow hdisk, filter_attributes, attributeSamples_eq]

/-- The collector fails exactly if a row cannot be read, and else publishes the blocks of the active
disks, in order.  A block has one prediction if there is one for its disk, of the last row under its
name, and three samples for each record.  What else an inactive disk says of itself, and what is
predicted of other disks, changes nothing in the run; disks in another order give the same blocks in
another order. -/
theorem publishes_disk_blocks (space : String) (options : Options) {world : World}
    {disks predictions : List Row} (h : Answers world disks predictions) (prior : List Sample) :
    let run := (collect space options).run world (.after prior)
    ((∃ error, run.2 = .failed error) ↔
      (∃ row ∈ predictions, ¬ PredictionLegible row) ∨ ∃ row ∈ disks, ¬ DiskLegible row) ∧
    ((∀ row ∈ predictions, PredictionLegible row) → (∀ row ∈ disks, DiskLegible row) →
      run.2 = .done () ∧
      run.1.samples = prior ++ (blocks space options disks predictions).flatten ∧
      ∀ row ∈ activeRows disks, ∃ volume vendor, row.text? "InstanceName" = some volume ∧
        row.bytes? "VendorSpecific" = some vendor ∧
        ((block space options row (lastPrediction? predictions row)).filter fun x =>
            x.name = qualifiedName space "smart" "predict_failure") =
          ((lastPrediction? predictions row).map fun p =>
            predictionSample space volume (p.truth? "PredictFailure" = some true)).toList ∧
        ((block space options row (lastPrediction? predictions row)).filter fun x =>
            x.descriptor.labelNames = ["volume", "id"]) =
          (decode vendor).attributes.flatMap (recordSamples space volume)) ∧
    (∀ world' disks', List.Forall₂ AlikeDisks disks disks' → Answers world' disks' predictions →
      (collect space options).run world' (.after prior) = run) ∧
    (∀ world' predictions', (∀ row ∈ predictions, PredictionLegible row) →
      (∀ row ∈ predictions', PredictionLegible row) →
      (∀ disk ∈ activeRows disks,
        lastPrediction? predictions' disk = lastPrediction? predictions disk) →
      Answers world' disks predictions' →
        (collect space options).run world' (.after prior) = run) ∧
    ∀ disks', disks.Perm disks' →
      (blocks space options disks predictions).Perm (blocks space options disks' predictions) := by
  intro run
  have hiff := legible_iff_done space options h (.after prior)
  refine ⟨?_, ?_, ?_, ?_, ?_⟩
  · have hfailed : (∃ error, run.2 = .failed error) ↔ ¬ run.2 = .done () := by
      rcases (batch_collect space options).run_cases world (.after prior) with
        ⟨error, hfailed, -⟩ | ⟨out, hdone, -⟩
      · simp [run, hfailed]
      · simp [run, hdone]
    rw [hfailed, hiff, not_and_or]
    simp only [not_forall, exists_prop]
  · intro hpredictions hdisks
    refine ⟨hiff.mpr ⟨hpredictions, hdisks⟩, samples_of_done h hpredictions hdisks _, ?_⟩
    intro row hrow
    have hmem : row ∈ disks := (List.mem_filter.mp hrow).1
    exact parts_of_block (hdisks row hmem) hrow hpredictions
  · intro world' disks' hdisks h'
    exact run_congr h h' (afterQueries_of_disks hdisks) _
  · intro world' predictions' hpredictions hpredictions' hlast h'
    exact run_congr h h' (afterQueries_of_predictions hpredictions hpredictions' hlast) _
  · intro disks' hperm
    exact (hperm.filter _).map _

def answering (disks predictions : List Row) : World := fun _ =>
  ⟨fun object => .error (.missingObject object),
    fun q => .ok (if q = dataQuery then disks else predictions), none, fun _ => false⟩

theorem answers_answering (disks predictions : List Row) :
    Answers (answering disks predictions) disks predictions where
  untimed _ := rfl
  disks _ := rfl
  predictions _ := congrArg Except.ok (if_neg (by decide))

def predictionRow (fails : Bool) : Row :=
  ⟨[("InstanceName", .text "disk"), ("PredictFailure", .bool fails)]⟩

/-- A table of two records, of the sectors that were reallocated and of the temperature. -/
def twoRecords : List UInt8 := [
  0, 0, 0, 5, 0, 0, 97, 96, 3, 0, 0, 0,
  0, 0, 0, 194, 0, 0, 60, 55, 40, 0, 0, 0]

/-- An inactive disk that says nothing more of itself, and an active one with two records and two
predictions, of which the last counts. -/
theorem publishes_disk_blocks_replaced :
    let idle : Row := ⟨[("Active", .bool false)]⟩
    let active : Row := diskRow twoRecords
    let world := answering [idle, active] [predictionRow false, predictionRow true]
    let run := (collect "windows" default).run world (.after [])
    Answers world [idle, active] [predictionRow false, predictionRow true] ∧ run.2 = .done () ∧
      ((run.1.samples.filter fun x => x.name = "windows_smart_predict_failure").map fun x =>
        (x.value, x.labelValues)) = [(1.0, ["disk"])] ∧
      ((run.1.samples.filter fun x => x.descriptor.labelNames = ["volume", "id"]).map fun x =>
        (x.name, x.value, x.labelValues)) = [
          ("windows_smart_attribute_normalized", 97.0, ["disk", "5"]),
          ("windows_smart_attribute_worst", 96.0, ["disk", "5"]),
          ("windows_smart_attribute_raw", 3.0, ["disk", "5"]),
          ("windows_smart_attribute_normalized", 60.0, ["disk", "194"]),
          ("windows_smart_attribute_worst", 55.0, ["disk", "194"]),
          ("windows_smart_attribute_raw", 40.0, ["disk", "194"])] := by
  intro idle active world run
  have hanswers := answers_answering [idle, active] [predictionRow false, predictionRow true]
  have hpredictions : ∀ row ∈ [predictionRow false, predictionRow true], PredictionLegible row := by
    decide
  have hdisks : ∀ row ∈ [idle, active], DiskLegible row := by decide
  obtain ⟨-, hlegible, -⟩ := publishes_disk_blocks "windows" default hanswers []
  obtain ⟨hdone, hsamples, hparts⟩ := hlegible hpredictions hdisks
  obtain ⟨volume, vendor, hvolume, hvendor, hpredicted, hrecords⟩ := hparts active (by decide)
  cases hvolume
  cases hvendor
  have hactive : activeRows [idle, active] = [active] := by decide
  have hlast : lastPrediction? [predictionRow false, predictionRow true] active =
      some (predictionRow true) := by decide
  have hblock : run.1.samples =
      block "windows" default active (lastPrediction? [predictionRow false, predictionRow true]
        active) := by
    rw [hsamples, blocks, hactive, List.map_singleton, List.flatten_singleton, List.nil_append]
  have hname : qualifiedName "windows" "smart" "predict_failure" =
      "windows_smart_predict_failure" := by decide
  rw [hname, hlast] at hpredicted
  refine ⟨hanswers, hdone, ?_, ?_⟩
  · rw [hblock, hlast, hpredicted]
    rfl
  · rw [hblock, hrecords]
    decide +kernel

end DiskStatus

end MetricScraper
