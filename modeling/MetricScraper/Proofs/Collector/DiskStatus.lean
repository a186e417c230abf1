import MetricScraper.Collector.DiskStatus
import MetricScraper.Proofs.Collector.Batch
import MetricScraper.Proofs.Metric.Names

/-!
# Series of disks

What is published of a disk is one entry under its name, and one more for each record of its
attribute table, under the id of the record as well.  Nothing keeps a table from holding several
records of one id: each of them gets an entry, though of the signals the last record counts.  So
the series of a disk are apart only where the ids of its table are.
-/

namespace MetricScraper

namespace DiskStatus

open Disk

/-! ### Metrics -/

def diskSpec (metric help : String) : MetricSpec := .gauge metric help ["volume"]

def attributeSpec (metric help : String) : MetricSpec := .gauge metric help ["volume", "id"]

/-- What the row of a disk says of itself. -/
def statusSpecs : List MetricSpec := [
  diskSpec "self_test_status" "Status of the last self test.",
  diskSpec "total_time" "Time the last offline collection took.",
  diskSpec "capability" "SMART capability flags."]

def attributeSpecs : List MetricSpec := [
  attributeSpec "attribute_normalized" "Current normalized value of a SMART attribute.",
  attributeSpec "attribute_worst" "Worst normalized value of a SMART attribute.",
  attributeSpec "attribute_raw" "Raw value of a SMART attribute."]

def signalSpecs : List MetricSpec :=
  (Signal.all.filter fun s => s ≠ .powerOnTime).map fun s =>
    diskSpec s.metricName "Value derived from SMART attributes."

/-- What follows from the attributes of a disk. -/
def figureSpecs : List MetricSpec :=
  signalSpecs ++ [diskSpec "power_on_hours" "Power-on time in hours."] ++
  [diskSpec "written_bytes" "Bytes written to the disk over its lifetime."] ++
  [diskSpec "old_age" "Whether the disk has been powered on for more than 30000 hours.",
    diskSpec "critical_attributes" "Number of critical conditions reported by SMART attributes.",
    diskSpec "attribute_decode_errors" "Number of malformed SMART attribute records.",
    diskSpec "health_percent" "Disk health estimated from error counting attributes."] ++
  [diskSpec "reserve_remaining_percent" "Share of reserve blocks not used for reallocation."] ++
  [diskSpec "predict_failure" "Whether the drive predicts its own failure."]

/-- The metrics of a disk but for those of its attributes. -/
def diskSpecs : List MetricSpec := statusSpecs ++ figureSpecs

theorem specs_names : ((diskSpecs ++ attributeSpecs).map MetricSpec.name).Nodup := by decide

theorem diskSpecs_names : (diskSpecs.map MetricSpec.name).Nodup := by
  have hall := specs_names
  rw [List.map_append] at hall
  exact (List.nodup_append'.mp hall).1

theorem attributeSpecs_names : (attributeSpecs.map MetricSpec.name).Nodup := by decide

/-! ### Entries -/

variable {space : String}

theorem entry_signalSamples (volume : String) (h : Health) :
    Entry space name signalSpecs [volume] (signalSamples space volume h) := by
  have hsamples : signalSamples space volume h =
      (Signal.all.filter fun s => s ≠ .powerOnTime).filterMap fun s =>
        ((h.signal? s).map UInt64.toFloat).map fun v =>
          ⟨diskMetric space s.metricName "Value derived from SMART attributes.", v, [volume]⟩ := by
    rw [signalSamples, Health.signals, List.filter_filterMap, List.map_filterMap,
      List.filterMap_filter]
    refine List.filterMap_congr fun s _ => ?_
    by_cases hs : s = .powerOnTime <;> cases h.signal? s <;> simp [hs]
  rw [hsamples]
  exact .filterMap _ (fun s => (h.signal? s).map UInt64.toFloat) _

theorem entry_attributeSamples (volume : String) (a : Attribute) :
    Entry space name attributeSpecs [volume, toString a.id.toNat]
      (attributeSamples space volume a) :=
  (Entry.single _ _).append ((Entry.single _ _).append (.single _ _))

/-- A sample of a disk. -/
def gauge (space : String) (disk : DiskRow) (spec : MetricSpec) (value : Float) : Sample :=
  ⟨.ofSpec space name spec, value, [disk.volume]⟩

def statusSamples (space : String) (disk : DiskRow) : List Sample := [
  gauge space disk (diskSpec "self_test_status" "Status of the last self test.")
    disk.selfTestStatus,
  gauge space disk (diskSpec "total_time" "Time the last offline collection took.")
    disk.totalTime,
  gauge space disk (diskSpec "capability" "SMART capability flags.") disk.capability]

def figureSamples (space : String) (options : Options) (disk : DiskRow)
    (predicted : Option Bool) : List Sample :=
  let decoded := decode disk.vendor
  let health := Health.assess decoded.attributes
  signalSamples space disk.volume health ++
  ((health.powerOnHours? options.powerOnUnit).map
    (gauge space disk (diskSpec "power_on_hours" "Power-on time in hours."))).toList ++
  ((health.writtenBytes? (WriteUnit.ofInstance disk.volume)).map
    (gauge space disk
      (diskSpec "written_bytes" "Bytes written to the disk over its lifetime."))).toList ++
  [gauge space disk
      (diskSpec "old_age" "Whether the disk has been powered on for more than 30000 hours.")
      (truth (health.isOld options.powerOnUnit)),
    gauge space disk
      (diskSpec "critical_attributes"
        "Number of critical conditions reported by SMART attributes.")
      health.critical.toFloat,
    gauge space disk
      (diskSpec "attribute_decode_errors" "Number of malformed SMART attribute records.")
      decoded.skipped.length.toFloat,
    gauge space disk
      (diskSpec "health_percent" "Disk health estimated from error counting attributes.")
      (health.percent options.healthCalculation)] ++
  ((health.reservePercent?).map
    (gauge space disk (diskSpec "reserve_remaining_percent"
      "Share of reserve blocks not used for reallocation."))).toList ++
  ((predicted.map truth).map
    (gauge space disk
      (diskSpec "predict_failure" "Whether the drive predicts its own failure."))).toList

theorem diskSamples_eq (space : String) (options : Options) (disk : DiskRow)
    (predicted : Option Bool) :
    diskSamples space options disk predicted = statusSamples space disk ++
      (decode disk.vendor).attributes.flatMap (attributeSamples space disk.volume) ++
      figureSamples space options disk predicted := by
  simp only [diskSamples, statusSamples, figureSamples, List.append_assoc, Option.map_map]
  rfl

theorem entry_statusSamples (space : String) (disk : DiskRow) :
    Entry space name statusSpecs [disk.volume] (statusSamples space disk) :=
  (Entry.single _ _).append ((Entry.single _ _).append (.single _ _))

theorem entry_figureSamples (space : String) (options : Options) (disk : DiskRow)
    (predicted : Option Bool) :
    Entry space name figureSpecs [disk.volume] (figureSamples space options disk predicted) := by
  have hfour {a b c d : MetricSpec} {v w x y : Float} : Entry space name [a, b, c, d] [disk.volume]
      [gauge space disk a v, gauge space disk b w, gauge space disk c x, gauge space disk d y] :=
    (Entry.single a v).append ((Entry.single b w).append ((Entry.single c x).append (.single d y)))
  exact (((((entry_signalSamples _ _).append (.option _ _)).append (.option _ _)).append
    hfour).append (.option _ _)).append (.option _ _)

/-! ### The series of a disk -/

theorem toString_id_inj {a b : Attribute} (h : toString a.id.toNat = toString b.id.toNat) :
    a.id = b.id := by
  rw [Nat.toString_eq_ofList_toDigits, Nat.toString_eq_ofList_toDigits] at h
  have hdigits := congrArg (fun digits => Nat.ofDigitChars 10 digits 0) (String.ofList_injective h)
  simp only [Nat.ofDigitChars_ten_toDigits] at hdigits
  exact UInt8.toNat_inj.mp hdigits

/-- The series of the attributes of a disk are as different as their ids. -/
theorem nodup_series_attributes (space volume : String) (attributes : List Attribute) :
    ((attributes.flatMap (attributeSamples space volume)).map Sample.series).Nodup ↔
      (attributes.map Attribute.id).Nodup := by
  have hids : (attributes.map Attribute.id).Nodup ↔ attributes.Pairwise fun a b => a.id ≠ b.id :=
    List.pairwise_map
  rw [hids]
  constructor
  · intro h
    rw [List.map_flatMap, List.nodup_flatMap] at h
    refine h.2.imp fun {a b} hdisjoint hid => ?_
    -- the samples of one id are of the same series
    have hmem : (qualifiedName space name "attribute_raw", [volume, toString a.id.toNat]) ∈
        (attributeSamples space volume a).map Sample.series := by
      simp [attributeSamples, Sample.series, Sample.name, attributeMetric, Descriptor.ofSpec,
        MetricSpec.gauge]
    have hmem' : (qualifiedName space name "attribute_raw", [volume, toString a.id.toNat]) ∈
        (attributeSamples space volume b).map Sample.series := by
      simp [attributeSamples, Sample.series, Sample.name, attributeMetric, Descriptor.ofSpec,
        MetricSpec.gauge, hid]
    exact hdisjoint hmem hmem'
  · intro h
    refine Entry.nodup_series_flatMap (fun a _ => entry_attributeSamples volume a) (by decide)
      attributeSpecs_names (h.imp fun hid heq => ?_)
    simp only [List.cons.injEq, true_and, and_true] at heq
    exact hid (toString_id_inj heq)

/-- Of one disk no two samples are of one series exactly when its table has no id twice. -/
theorem nodup_series_diskSamples (space : String) (options : Options) (disk : DiskRow)
    (predicted : Option Bool) :
    ((diskSamples space options disk predicted).map Sample.series).Nodup ↔
      ((decode disk.vendor).attributes.map Attribute.id).Nodup := by
  have hentry : Entry space name diskSpecs [disk.volume]
      (statusSamples space disk ++ figureSamples space options disk predicted) :=
    (entry_statusSamples space disk).append (entry_figureSamples space options disk predicted)
  have hperm : (diskSamples space options disk predicted).Perm
      ((statusSamples space disk ++ figureSamples space options disk predicted) ++
        (decode disk.vendor).attributes.flatMap (attributeSamples space disk.volume)) := by
    rw [diskSamples_eq, List.append_assoc, List.append_assoc]
    exact List.Perm.append_left _ List.perm_append_comm
  rw [(hperm.map Sample.series).nodup_iff, List.map_append, List.nodup_append',
    nodup_series_attributes]
  refine ⟨fun h => h.2.1, fun h => ⟨hentry.nodup_series (by decide) diskSpecs_names, h, ?_⟩⟩
  -- the samples of attributes have one label more
  refine Sample.disjoint_series fun x hx y hy => ?_
  obtain ⟨a, -, hy⟩ := List.mem_flatMap.mp hy
  rw [hentry.values x hx, (entry_attributeSamples disk.volume a).values y hy]
  simp

theorem volume_of_mem {options : Options} {disk : DiskRow} {predicted : Option Bool} {x : Sample}
    (h : x ∈ diskSamples space options disk predicted) :
    x.labelValues.head? = some disk.volume := by
  rw [diskSamples_eq] at h
  rcases List.mem_append.mp h with h | h
  · rcases List.mem_append.mp h with h | h
    · rw [(entry_statusSamples space disk).values x h]
      rfl
    · obtain ⟨a, -, h⟩ := List.mem_flatMap.mp h
      rw [(entry_attributeSamples disk.volume a).values x h]
      rfl
  · rw [(entry_figureSamples space options disk predicted).values x h]
    rfl

theorem capability_mem (space : String) (options : Options) (disk : DiskRow)
    (predicted : Option Bool) :
    (qualifiedName space name "capability", [disk.volume]) ∈
      (diskSamples space options disk predicted).map Sample.series := by
  rw [diskSamples_eq]
  simp [statusSamples, gauge, diskSpec, Sample.series, Sample.name, Descriptor.ofSpec,
    MetricSpec.gauge]

/-- Disks have no series in common exactly when their names differ. -/
theorem disjoint_series_iff {options : Options} {disk disk' : DiskRow}
    {predicted predicted' : Option Bool} :
    ((diskSamples space options disk predicted).map Sample.series).Disjoint
        ((diskSamples space options disk' predicted').map Sample.series) ↔
      disk.volume ≠ disk'.volume := by
  constructor
  · intro hdisjoint hvolume
    have hmem := capability_mem space options disk' predicted'
    rw [← hvolume] at hmem
    exact hdisjoint (capability_mem space options disk predicted) hmem
  · intro hne
    refine Sample.disjoint_series fun x hx y hy heq => ?_
    have hvolume := volume_of_mem hx
    rw [heq, volume_of_mem hy] at hvolume
    exact hne (Option.some.inj hvolume).symm

/-! ### Runs -/

/-- The active disks among rows that can be read. -/
def activeDisks (rows : List Row) : List DiskRow :=
  rows.filterMap fun row => (readDisk? row).toOption.join

theorem activeDisks_cons {row : Row} {found : Option DiskRow} (h : readDisk? row = .ok found)
    (rest : List Row) : activeDisks (row :: rest) = found.toList ++ activeDisks rest := by
  cases found <;> simp [activeDisks, h, Except.toOption]

/-- A run through the rows that succeeds has read all of them, and appends the samples of every
active disk. -/
theorem samples_of_collectDisks {options : Options} {predictions : List (String × Bool)}
    {count failing : Nat} {world : World} {rows : List Row} {out : List Sample}
    {before after : Record}
    (h : (collectDisks space options predictions count out failing rows).run world before =
      (after, .done ())) :
    (∀ row ∈ rows, ∃ disk, readDisk? row = .ok disk) ∧
      after.samples = before.samples ++ out ++ (activeDisks rows).flatMap fun disk =>
        diskSamples space options disk (predictions.lookup disk.volume) := by
  induction rows generalizing out failing before with
  | nil =>
    cases h
    exact ⟨fun row hrow => absurd hrow List.not_mem_nil, (List.append_nil _).symm⟩
  | cons row rest ih =>
    simp only [collectDisks, Work.run] at h
    cases hlate : (world before).late with
    | some waited => simp [hlate] at h
    | none =>
      simp only [hlate] at h
      cases hrow : readDisk? row with
      | error e => simp [hrow, Work.run] at h
      | ok found =>
        -- a row that has been read is of an active disk or is passed over
        have hmem (hall : ∀ other ∈ rest, ∃ disk, readDisk? other = .ok disk) :
            ∀ other ∈ row :: rest, ∃ disk, readDisk? other = .ok disk := by
          intro other hother
          rcases List.mem_cons.mp hother with rfl | hother
          · exact ⟨found, hrow⟩
          · exact hall other hother
        cases found with
        | none =>
          simp only [hrow] at h
          obtain ⟨hall, hafter⟩ := ih h
          refine ⟨hmem hall, ?_⟩
          rw [hafter, activeDisks_cons hrow]
          rfl
        | some disk =>
          simp only [hrow, Work.run_notes_bind] at h
          obtain ⟨hall, hafter⟩ := ih h
          refine ⟨hmem hall, ?_⟩
          rw [hafter, activeDisks_cons hrow, Option.toList_some, List.singleton_append,
            List.flatMap_cons]
          simp [Record.look]

theorem samples_of_collect {options : Options} {world : World} {prior : List Sample}
    {record : Record}
    (h : (collect space options).run world (.after prior) = (record, .done ())) :
    ∃ (rows : List Row) (predictions : List (String × Bool)),
      (world (.after prior)).rows dataQuery = .ok rows ∧
      (∀ row ∈ rows, ∃ disk, readDisk? row = .ok disk) ∧
      record.samples = prior ++ (activeDisks rows).flatMap fun disk =>
        diskSamples space options disk (predictions.lookup disk.volume) := by
  simp only [collect, Work.run] at h
  cases hrows : (world (.after prior)).rows dataQuery with
  | error e => simp [hrows] at h
  | ok rows =>
    simp only [hrows] at h
    split at h
    · split at h
      · rename_i answers hanswers
        cases hread : readPredictions [] answers with
        | error e => simp [hread, Work.run] at h
        | ok predictions =>
          rw [hread] at h
          obtain ⟨hall, hsamples⟩ := samples_of_collectDisks h
          refine ⟨rows, predictions, rfl, hall, ?_⟩
          rw [hsamples]
          simp [Record.after, Record.call, Record.look]
      · cases h
    · cases h

/-- A run that succeeds has read the row of every disk, and has appended the samples of the active
ones.  No two of these samples are of one series exactly when the active disks are named apart and
no attribute table of theirs records an id twice. -/
theorem disks_apart_iff (space : String) (options : Options) {world : World}
    {prior : List Sample} {record : Record}
    (h : (collect space options).run world (.after prior) = (record, .done ())) :
    ∃ rows out, (world (.after prior)).rows dataQuery = .ok rows ∧
      (∀ row ∈ rows, ∃ disk, readDisk? row = .ok disk) ∧ record.samples = prior ++ out ∧
      ((out.map Sample.series).Nodup ↔
        ((activeDisks rows).map DiskRow.volume).Nodup ∧
          ∀ disk ∈ activeDisks rows, ((decode disk.vendor).attributes.map Attribute.id).Nodup) := by
  obtain ⟨rows, predictions, hrows, hall, hsamples⟩ := samples_of_collect h
  have hvolumes : ((activeDisks rows).map DiskRow.volume).Nodup ↔
      (activeDisks rows).Pairwise fun disk disk' => disk.volume ≠ disk'.volume :=
    List.pairwise_map
  refine ⟨rows, _, hrows, hall, hsamples, ?_⟩
  rw [List.map_flatMap, List.nodup_flatMap, hvolumes, and_comm]
  refine and_congr ?_ ?_
  · exact ⟨fun hdisjoint => hdisjoint.imp disjoint_series_iff.mp,
      fun hne => hne.imp disjoint_series_iff.mpr⟩
  · exact forall₂_congr fun disk _ => nodup_series_diskSamples space options disk _

/-! ### Disks with and without an id twice -/

def tableRecord (id value : UInt8) : List UInt8 := [0, 0, 0, id, 0, 0, 100, 100, value, 0, 0, 0]

def diskRow (vendor : List UInt8) : Row :=
  ⟨[("InstanceName", .text "disk"), ("Active", .bool true), ("SelfTestStatus", .unsigned 0),
    ("TotalTime", .unsigned 0), ("SmartCapability", .unsigned 0),
    ("VendorSpecific", .bytes vendor)]⟩

def diskWorld (vendor : List UInt8) : World := fun _ =>
  ⟨fun object => .error (.missingObject object),
    fun q => .ok (if q = dataQuery then [diskRow vendor] else []), none, fun _ => false⟩

theorem activeDisks_diskRow (vendor : List UInt8) :
    ∃ disk, activeDisks [diskRow vendor] = [disk] ∧ disk.vendor = vendor :=
  ⟨_, rfl, rfl⟩

theorem ending_diskWorld (vendor : List UInt8) :
    ((collect "windows" default).run (diskWorld vendor) (.after [])).2 = .done () := by
  have hread : ∃ disk, readDisk? (diskRow vendor) = .ok (some disk) := ⟨_, rfl⟩
  have hother : predictionQuery ≠ dataQuery := by decide
  obtain ⟨disk, hread⟩ := hread
  simp only [collect, Work.run, diskWorld, if_true, hother, if_false, readPredictions,
    collectDisks, hread, Work.run_notes_bind, Work.emit]

theorem disks_apart_iff_two_ids :
    ∃ record out, (collect "windows" default).run
        (diskWorld (tableRecord 5 1 ++ tableRecord 194 40)) (.after []) = (record, .done ()) ∧
      record.samples = [] ++ out ∧ (out.map Sample.series).Nodup := by
  have hrun : (collect "windows" default).run
      (diskWorld (tableRecord 5 1 ++ tableRecord 194 40)) (.after []) = (_, .done ()) :=
    Prod.ext rfl (ending_diskWorld _)
  obtain ⟨rows, out, hrows, -, hout, hiff⟩ := disks_apart_iff "windows" default hrun
  refine ⟨_, out, hrun, hout, hiff.mpr ?_⟩
  cases hrows
  obtain ⟨disk, hactive, hvendor⟩ := activeDisks_diskRow (tableRecord 5 1 ++ tableRecord 194 40)
  have hids : ((decode (tableRecord 5 1 ++ tableRecord 194 40)).attributes.map
      Attribute.id).Nodup := by decide +kernel
  rw [if_pos rfl, hactive]
  refine ⟨List.nodup_singleton _, fun other hother => ?_⟩
  rw [List.mem_singleton.mp hother, hvendor]
  exact hids

/-- One disk that records one id twice is published with a series twice. -/
theorem repeated_id_shares_series :
    ∃ record, (collect "windows" default).run
        (diskWorld (tableRecord 194 40 ++ tableRecord 194 41)) (.after []) = (record, .done ()) ∧
      ¬ (record.samples.map Sample.series).Nodup := by
  have hrun : (collect "windows" default).run
      (diskWorld (tableRecord 194 40 ++ tableRecord 194 41)) (.after []) = (_, .done ()) :=
    Prod.ext rfl (ending_diskWorld _)
  obtain ⟨disk, hactive, hvendor⟩ := activeDisks_diskRow (tableRecord 194 40 ++ tableRecord 194 41)
  have hids : ¬ ((decode (tableRecord 194 40 ++ tableRecord 194 41)).attributes.map
      Attribute.id).Nodup := by decide +kernel
  obtain ⟨rows, predictions, hrows, -, hsamples⟩ := samples_of_collect hrun
  cases hrows
  refine ⟨_, hrun, ?_⟩
  rw [hsamples, if_pos rfl, hactive, List.flatMap_singleton, List.nil_append,
    nodup_series_diskSamples, hvendor]
  exact hids

end DiskStatus

end MetricScraper
