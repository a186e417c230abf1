import Mathlib.Data.List.Induction
import MetricScraper.Proofs.Collector.Batch
import MetricScraper.Proofs.Collector.Containers
import MetricScraper.Proofs.Query.Cells

/-!
# Blocks of containers

The samples of the containers come in blocks, one for each container.  A block joins the last row of
statistics and all network rows of the id, and is empty if one of them cannot be read in full.  So
the rows of one container have no part in the block of another.
-/

namespace MetricScraper.Containers

/-- The answers of a world, in which no deadline passes, to the three queries. -/
structure Answers (world : World) (systems statistics network : List Row) : Prop where
  untimed : world.Untimed
  systems : ∀ r, (world r).rows systemQuery = .ok systems
  statistics : ∀ r, (world r).rows statisticsQuery = .ok statistics
  network : ∀ r, (world r).rows networkQuery = .ok network

/-- Every row says what it is of. -/
structure Identified (systems statistics network : List Row) : Prop where
  kinds : ∀ row ∈ systems, row.text? "Type" ≠ none
  ids : ∀ row ∈ systems, row.text? "Type" = some "Container" → row.text? "Id" ≠ none
  statistics : ∀ row ∈ statistics, row.text? "Id" ≠ none
  network : ∀ row ∈ network, row.text? "ContainerId" ≠ none

/-! ### Blocks -/

/-- The ids of the systems of type container, in order. -/
def containerIds (systems : List Row) : List String :=
  (rowsWith "Type" "Container" systems).filterMap fun row => row.text? "Id"

/-- The memory values of a container, and its runtimes. -/
def usageColumns : List String := [
  "MemoryUsageCommitBytes", "MemoryUsageCommitPeakBytes", "MemoryUsagePrivateWorkingSetBytes",
  "TotalRuntime100ns", "RuntimeUser100ns", "RuntimeKernel100ns"]

def trafficColumns : List String := [
  "BytesReceived", "BytesSent", "PacketsReceived", "PacketsSent",
  "DroppedPacketsIncoming", "DroppedPacketsOutgoing"]

def HasNumbers (columns : List String) (row : Row) : Prop :=
  ∀ column ∈ columns, row.number? column ≠ none

def InterfaceLegible (interface : Row) : Prop :=
  interface.text? "EndpointId" ≠ none ∧ HasNumbers trafficColumns interface

/-- The rows of a container can be read in full. -/
def Legible (row : Row) (interfaces : List Row) : Prop :=
  HasNumbers usageColumns row ∧ ∀ interface ∈ interfaces, InterfaceLegible interface

instance (columns : List String) (row : Row) : Decidable (HasNumbers columns row) :=
  inferInstanceAs (Decidable (∀ column ∈ columns, row.number? column ≠ none))

instance (interface : Row) : Decidable (InterfaceLegible interface) :=
  inferInstanceAs (Decidable (_ ∧ _))

instance (row : Row) (interfaces : List Row) : Decidable (Legible row interfaces) :=
  inferInstanceAs (Decidable (_ ∧ ∀ interface ∈ interfaces, _))

/-- The number in a column that has one. -/
def cell (row : Row) (column : String) : Float := (row.number? column).getD 0.0

/-- A value of a container. -/
def usage (space id metric help : String) (type : MetricType) (value : Float) : Sample :=
  ⟨⟨qualifiedName space "container" metric, help, ["container_id"], type⟩, value,
    ["docker://" ++ id]⟩

/-- A value of an interface of a container. -/
def traffic (space id endpoint metric help : String) (value : Float) : Sample :=
  ⟨⟨qualifiedName space "container" metric, help, ["container_id", "interface"], .counter⟩, value,
    ["docker://" ++ id, endpoint]⟩

/-- The six samples of an interface. -/
def networkSamples (space id : String) (interface : Row) : List Sample :=
  let sample := traffic space id ((interface.text? "EndpointId").getD "")
  [sample "network_receive_bytes_total" "Bytes Received on Interface"
      (cell interface "BytesReceived"),
    sample "network_transmit_bytes_total" "Bytes Sent on Interface" (cell interface "BytesSent"),
    sample "network_receive_packets_total" "Packets Received on Interface"
      (cell interface "PacketsReceived"),
    sample "network_transmit_packets_total" "Packets Sent on Interface"
      (cell interface "PacketsSent"),
    sample "network_receive_packets_dropped_total" "Dropped Incoming Packets on Interface"
      (cell interface "DroppedPacketsIncoming"),
    sample "network_transmit_packets_dropped_total" "Dropped Outgoing Packets on Interface"
      (cell interface "DroppedPacketsOutgoing")]

/-- The seven samples of a container itself; runtimes are counted in units of 100 ns. -/
def usageSamples (space id : String) (row : Row) : List Sample :=
  let sample := usage space id
  [sample "available" "Available" .counter 1.0,
    sample "memory_usage_commit_bytes" "Memory Usage Commit Bytes" .gauge
      (cell row "MemoryUsageCommitBytes"),
    sample "memory_usage_commit_peak_bytes" "Memory Usage Commit Peak Bytes" .gauge
      (cell row "MemoryUsageCommitPeakBytes"),
    sample "memory_usage_private_working_set_bytes" "Memory Usage Private Working Set Bytes" .gauge
      (cell row "MemoryUsagePrivateWorkingSetBytes"),
    sample "cpu_usage_seconds_total" "Total Run time in Seconds" .counter
      (cell row "TotalRuntime100ns" / 10000000.0),
    sample "cpu_usage_seconds_usermode" "Run Time in User mode in Seconds" .counter
      (cell row "RuntimeUser100ns" / 10000000.0),
    sample "cpu_usage_seconds_kernelmode" "Run time in Kernel mode in Seconds" .counter
      (cell row "RuntimeKernel100ns" / 10000000.0)]

/-- What is published of a container with these rows. -/
def fullBlock (space id : String) (row : Row) (interfaces : List Row) : List Sample :=
  usageSamples space id row ++ interfaces.flatMap (networkSamples space id)

/-- What is published of the container with an id. -/
def block (space : String) (statistics network : List Row) (id : String) : List Sample :=
  match (rowsWith "Id" id statistics).getLast? with
  | none => []
  | some row =>
    let interfaces := rowsWith "ContainerId" id network
    if Legible row interfaces then fullBlock space id row interfaces else []

/-! ### Rows that are read -/

variable {space id : String} {row : Row} {interfaces systems statistics network : List Row}

theorem hasNumbers_cons {column : String} {columns : List String} :
    HasNumbers (column :: columns) row ↔ row.number? column ≠ none ∧ HasNumbers columns row :=
  List.forall_mem_cons

/-- One sample for each field, of the number in its column. -/
def fieldSamples (space : String) (fields : List Field) (labels : List String) (row : Row)
    (scale : Float → Float) : List Sample :=
  fields.map fun f => ⟨.ofSpec space name f.spec, scale (cell row f.counter), labels⟩

theorem readInstance_cons {f : Field} {fields : List Field} {labels : List String}
    {read : String → Except QueryError Float} {scale : Float → Float} {samples : List Sample} :
    ((FieldTable.ofFields space name (f :: fields)).readInstance labels fun column =>
        (read column).map fun x => some (scale x)) = .ok samples ↔
      ∃ x others, read f.counter = .ok x ∧
        ((FieldTable.ofFields space name fields).readInstance labels fun column =>
          (read column).map fun x => some (scale x)) = .ok others ∧
        samples = ⟨.ofSpec space name f.spec, scale x, labels⟩ :: others := by
  simp only [FieldTable.readInstance, FieldTable.collectInstance, FieldTable.ofFields,
    List.map_cons, FieldTable.collectFields]
  cases read f.counter with
  | error e => simp [Except.map]
  | ok x =>
    cases FieldTable.collectFields labels (fun column =>
        (read column).map fun x => some (scale x))
        (fields.map fun f => (f.counter, Descriptor.ofSpec space name f.spec)) with
    | mk others result => cases result <;> simp [Except.map, eq_comm]

/-- The fields of a row are read in full, or the first column without a number is an error. -/
theorem readInstance_eq_ok_iff {fields : List Field} {labels : List String}
    {scale : Float → Float} {samples : List Sample} :
    ((FieldTable.ofFields space name fields).readInstance labels fun column =>
        (row.float column).map fun x => some (scale x)) = .ok samples ↔
      HasNumbers (fields.map Field.counter) row ∧
        samples = fieldSamples space fields labels row scale := by
  induction fields generalizing samples with
  | nil =>
    have hall : HasNumbers [] row := fun _ hf => absurd hf List.not_mem_nil
    exact ⟨fun h => ⟨hall, (Except.ok.inj h).symm⟩, fun ⟨_, h⟩ => congrArg Except.ok h.symm⟩
  | cons f fields ih =>
    simp only [readInstance_cons, ih, Row.float_eq_ok_iff, List.map_cons, hasNumbers_cons,
      Option.ne_none_iff_exists']
    constructor
    · rintro ⟨x, others, hx, ⟨hfields, rfl⟩, rfl⟩
      exact ⟨⟨⟨x, hx⟩, hfields⟩, by simp [fieldSamples, cell, hx]⟩
    · rintro ⟨⟨⟨x, hx⟩, hfields⟩, rfl⟩
      exact ⟨x, _, hx, ⟨hfields, rfl⟩, by simp [fieldSamples, cell, hx]⟩

/-- The samples of the network fields are those of an interface, one by one. -/
theorem fieldSamples_network (space id endpoint : String) (interface : Row)
    (h : interface.text? "EndpointId" = some endpoint) :
    fieldSamples space networkFields [label id, endpoint] interface (fun x => x) =
      networkSamples space id interface := by
  rw [networkSamples, h]
  rfl

theorem fieldSamples_usage (space id : String) (row : Row) :
    (⟨.ofSpec space name available, 1.0, [label id]⟩ : Sample) ::
        fieldSamples space memoryFields [label id] row (fun x => x) ++
        fieldSamples space processorFields [label id] row (fun x => x / ticksPerSecond) =
      usageSamples space id row := rfl

theorem interfaceSamples_eq_ok_iff {interface : Row} {samples : List Sample} :
    interfaceSamples (.ofFields space name networkFields) id interface = .ok samples ↔
      InterfaceLegible interface ∧ samples = networkSamples space id interface := by
  rw [interfaceSamples, Results.bind_eq_ok_iff]
  simp only [Row.text_eq_ok_iff]
  constructor
  · rintro ⟨endpoint, hendpoint, h⟩
    obtain ⟨hnumbers, rfl⟩ := readInstance_eq_ok_iff.mp h
    exact ⟨⟨by simp [hendpoint], hnumbers⟩, fieldSamples_network _ _ _ _ hendpoint⟩
  · rintro ⟨⟨hendpoint, hnumbers⟩, rfl⟩
    obtain ⟨endpoint, hendpoint⟩ := Option.ne_none_iff_exists'.mp hendpoint
    refine ⟨endpoint, hendpoint, readInstance_eq_ok_iff.mpr ⟨hnumbers, ?_⟩⟩
    exact (fieldSamples_network _ _ _ _ hendpoint).symm

theorem interfacesSamples_eq_ok_iff {samples : List Sample} :
    interfacesSamples (.ofFields space name networkFields) id interfaces = .ok samples ↔
      (∀ interface ∈ interfaces, InterfaceLegible interface) ∧
        samples = interfaces.flatMap (networkSamples space id) := by
  induction interfaces generalizing samples with
  | nil => simp [interfacesSamples, eq_comm]
  | cons interface rest ih =>
    simp only [interfacesSamples, Results.bind_eq_ok_iff, interfaceSamples_eq_ok_iff, ih,
      List.forall_mem_cons, List.flatMap_cons]
    constructor
    · rintro ⟨first, ⟨hfirst, rfl⟩, others, ⟨hothers, rfl⟩, h⟩
      exact ⟨⟨hfirst, hothers⟩, (Except.ok.inj h).symm⟩
    · rintro ⟨⟨hfirst, hothers⟩, rfl⟩
      exact ⟨_, ⟨hfirst, rfl⟩, _, ⟨hothers, rfl⟩, rfl⟩

theorem containerSamples_eq_ok_iff {samples : List Sample} :
    containerSamples space id row interfaces = .ok samples ↔
      Legible row interfaces ∧ samples = fullBlock space id row interfaces := by
  have hcolumns : usageColumns =
      memoryFields.map Field.counter ++ processorFields.map Field.counter := rfl
  have hnumbers : HasNumbers usageColumns row ↔
      HasNumbers (memoryFields.map Field.counter) row ∧
        HasNumbers (processorFields.map Field.counter) row := by
    rw [hcolumns]
    exact List.forall_mem_append
  rw [Legible, hnumbers, fullBlock, ← fieldSamples_usage]
  simp only [containerSamples, Results.bind_eq_ok_iff, interfacesSamples_eq_ok_iff]
  constructor
  · rintro ⟨memory, hmemory, processor, hprocessor, interfaceSamples, ⟨hinterfaces, rfl⟩, h⟩
    obtain ⟨hfirst, rfl⟩ := readInstance_eq_ok_iff.mp hmemory
    obtain ⟨hsecond, rfl⟩ := readInstance_eq_ok_iff.mp hprocessor
    exact ⟨⟨⟨hfirst, hsecond⟩, hinterfaces⟩, (Except.ok.inj h).symm⟩
  · rintro ⟨⟨⟨hfirst, hsecond⟩, hinterfaces⟩, rfl⟩
    exact ⟨_, readInstance_eq_ok_iff.mpr ⟨hfirst, rfl⟩, _,
      readInstance_eq_ok_iff.mpr ⟨hsecond, rfl⟩, _, ⟨hinterfaces, rfl⟩, rfl⟩

theorem block_of_last (hlast : (rowsWith "Id" id statistics).getLast? = some row)
    (hinterfaces : rowsWith "ContainerId" id network = interfaces) :
    block space statistics network id =
      if Legible row interfaces then fullBlock space id row interfaces else [] := by
  rw [block, hlast, hinterfaces]

theorem containerPart_eq_block : (containerPart space id
    (rowsWith "Id" id statistics).getLast? (rowsWith "ContainerId" id network)).1 =
      block space statistics network id := by
  cases hlast : (rowsWith "Id" id statistics).getLast? with
  | none =>
    rw [block, hlast]
    rfl
  | some row =>
    rw [block_of_last hlast rfl, containerPart]
    split
    · rename_i samples hsamples
      obtain ⟨hlegible, rfl⟩ := containerSamples_eq_ok_iff.mp hsamples
      rw [if_pos hlegible]
    · rename_i error herror
      refine (if_neg fun hlegible => ?_).symm
      rw [containerSamples_eq_ok_iff.mpr ⟨hlegible, rfl⟩] at herror
      cases herror

/-! ### Rows under their keys -/

theorem readIds_of_identified (hkinds : ∀ row ∈ systems, row.text? "Type" ≠ none)
    (hids : ∀ row ∈ systems, row.text? "Type" = some "Container" → row.text? "Id" ≠ none) :
    readIds systems = .ok (containerIds systems) := by
  induction systems with
  | nil => rfl
  | cons row rest ih =>
    obtain ⟨hkind, hkinds⟩ := List.forall_mem_cons.mp hkinds
    obtain ⟨hid, hids⟩ := List.forall_mem_cons.mp hids
    obtain ⟨kind, hkind⟩ := Option.ne_none_iff_exists'.mp hkind
    rw [readIds, Row.text_eq_ok_iff.mpr hkind, ih hkinds hids]
    by_cases hcontainer : kind = "Container"
    · rw [hcontainer] at hkind
      obtain ⟨id, hid⟩ := Option.ne_none_iff_exists'.mp (hid hkind)
      have hfirst : containerIds (row :: rest) = id :: containerIds rest := by
        simp [containerIds, rowsWith, hkind, hid]
      rw [hcontainer, hfirst, Row.text_eq_ok_iff.mpr hid]
      rfl
    · have hfirst : containerIds (row :: rest) = containerIds rest := by
        simp [containerIds, rowsWith, hkind, hcontainer]
      rw [hfirst]
      exact if_neg (by simpa using hcontainer)

theorem lastRow?_eq (keyed : List (String × Row)) (id : String) :
    lastRow? keyed id = (rowsOf keyed id).getLast? := by
  -- from the end, where a reversed list is looked up first
  induction keyed using List.reverseRecOn with
  | nil => rfl
  | append_singleton keyed entry ih =>
    obtain ⟨key, row⟩ := entry
    rw [lastRow?, rowsOf] at ih
    rw [lastRow?, rowsOf, List.reverse_concat, List.lookup_cons, ih, List.filter_append,
      List.map_append]
    by_cases hkey : id = key
    · subst hkey
      simp
    · simp [beq_false_of_ne hkey, beq_false_of_ne (Ne.symm hkey)]

theorem exists_keyRows {column : String} {rows : List Row}
    (h : ∀ row ∈ rows, row.text? column ≠ none) : ∃ keyed, keyRows column rows = .ok keyed := by
  induction rows with
  | nil => exact ⟨[], rfl⟩
  | cons row rest ih =>
    obtain ⟨hrow, hrest⟩ := List.forall_mem_cons.mp h
    obtain ⟨key, hkey⟩ := Option.ne_none_iff_exists'.mp hrow
    obtain ⟨others, hothers⟩ := ih hrest
    refine ⟨(key, row) :: others, ?_⟩
    rw [keyRows, Row.text_eq_ok_iff.mpr hkey, hothers]
    rfl

theorem keyRows_of_identified {column : String} {rows : List Row}
    (h : ∀ row ∈ rows, row.text? column ≠ none) :
    ∃ keyed, keyRows column rows = .ok keyed ∧
      ∀ id, rowsOf keyed id = rowsWith column id rows ∧
        lastRow? keyed id = (rowsWith column id rows).getLast? := by
  obtain ⟨keyed, hkeyed⟩ := exists_keyRows h
  -- the rows are those of the keyed list, each under the text of its column
  obtain ⟨rfl, hkeys⟩ := keyRows_eq_ok hkeyed
  have hrows (id : String) : rowsOf keyed id = rowsWith column id (keyed.map Prod.snd) := by
    rw [rowsOf, rowsWith, List.filter_map]
    refine congrArg _ (List.filter_congr fun entry hentry => ?_)
    have hkey := Row.text_eq_ok_iff.mp (hkeys entry hentry)
    simp [hkey, beq_eq_decide]
  exact ⟨keyed, hkeyed, fun id => ⟨hrows id, by rw [lastRow?_eq, hrows]⟩⟩

/-! ### Runs -/

theorem run_collectContainers {world : World} (h : world.Untimed)
    (statistics network : List (String × Row)) (out : List Sample) (ids : List String)
    (r : Record) :
    let run := (collectContainers space statistics network out ids).run world r
    run.2 = .done () ∧ run.1.samples = r.samples ++ (out ++ ids.flatMap fun id =>
      (containerPart space id (lastRow? statistics id) (rowsOf network id)).1) := by
  induction ids generalizing out r with
  | nil => exact ⟨rfl, by rw [List.flatMap_nil, List.append_nil]; rfl⟩
  | cons id rest ih =>
    simp only [collectContainers, Work.run, h r, Work.run_notes_bind]
    obtain ⟨hdone, hsamples⟩ := ih (out ++ _) _
    exact ⟨hdone, by rw [hsamples, List.flatMap_cons, List.append_assoc]; rfl⟩

theorem run_collect (space : String) {world : World}
    (h : Answers world systems statistics network)
    (hrows : Identified systems statistics network) (prior : List Sample) :
    let run := (collect space).run world (.after prior)
    run.2 = .done () ∧
      run.1.samples = prior ++ (containerIds systems).flatMap (block space statistics network) := by
  have hread := readIds_of_identified hrows.kinds hrows.ids
  obtain ⟨keyed, hkeyed, hlast⟩ := keyRows_of_identified hrows.statistics
  obtain ⟨keyed', hkeyed', hall⟩ := keyRows_of_identified hrows.network
  cases hids : containerIds systems with
  | nil =>
    -- without containers nothing more is asked
    rw [hids] at hread
    simp only [collect, Work.run, h.systems, hread, orFail]
    exact ⟨rfl, (List.append_nil prior).symm⟩
  | cons id rest =>
    rw [hids] at hread
    simp only [collect, Work.run, h.systems, h.statistics, h.network, h.untimed _, hread, hkeyed,
      hkeyed', orFail, List.isEmpty_cons, Bool.false_eq_true, if_false]
    obtain ⟨hdone, hsamples⟩ := run_collectContainers h.untimed keyed keyed' [] (id :: rest) _
    have hparts : (fun id =>
        (containerPart space id (lastRow? keyed id) (rowsOf keyed' id)).1) =
          block space statistics network := by
      funext id
      rw [(hlast id).2, (hall id).1, containerPart_eq_block]
    rw [hparts] at hsamples
    exact ⟨hdone, hsamples⟩

/-! ### The rows of other containers -/

theorem block_of_rowsWithout {statistics' network' : List Row} {other : String}
    (hother : other ≠ id)
    (hstatistics : rowsWithout "Id" id statistics' = rowsWithout "Id" id statistics)
    (hnetwork : rowsWithout "ContainerId" id network' = rowsWithout "ContainerId" id network) :
    block space statistics' network' other = block space statistics network other := by
  rw [block, block, ← rowsWith_rowsWithout hother statistics',
    ← rowsWith_rowsWithout hother network', hstatistics, hnetwork,
    rowsWith_rowsWithout hother, rowsWith_rowsWithout hother]

theorem label?_usage (space id metric help : String) (type : MetricType) (value : Float) :
    (usage space id metric help type value).label? "container_id" = some ("docker://" ++ id) := rfl

theorem label?_traffic (space id endpoint metric help : String) (value : Float) :
    (traffic space id endpoint metric help value).label? "container_id" =
      some ("docker://" ++ id) := rfl

theorem label?_of_fullBlock {x : Sample} (hx : x ∈ fullBlock space id row interfaces) :
    x.label? "container_id" = some ("docker://" ++ id) := by
  have husage : ∀ x ∈ usageSamples space id row,
      x.label? "container_id" = some ("docker://" ++ id) := by
    simp only [usageSamples, List.forall_mem_cons, label?_usage, true_and]
    exact nofun
  have htraffic : ∀ interface, ∀ x ∈ networkSamples space id interface,
      x.label? "container_id" = some ("docker://" ++ id) := by
    intro interface
    simp only [networkSamples, List.forall_mem_cons, label?_traffic, true_and]
    exact nofun
  rcases List.mem_append.mp hx with hx | hx
  · exact husage x hx
  · obtain ⟨interface, -, hx⟩ := List.mem_flatMap.mp hx
    exact htraffic interface x hx

theorem label?_of_block {x : Sample} (hx : x ∈ block space statistics network id) :
    x.label? "container_id" = some ("docker://" ++ id) := by
  rw [block] at hx
  split at hx
  · cases hx
  · dsimp only at hx
    split at hx
    · exact label?_of_fullBlock hx
    · cases hx

theorem filter_blocks {statistics' network' : List Row}
    (hsame : ∀ other, other ≠ id →
      block space statistics' network' other = block space statistics network other)
    (ids : List String) :
    ((ids.flatMap (block space statistics' network')).filter fun x =>
        x.label? "container_id" ≠ some ("docker://" ++ id)) =
      (ids.flatMap (block space statistics network)).filter fun x =>
        x.label? "container_id" ≠ some ("docker://" ++ id) := by
  rw [List.filter_flatMap, List.filter_flatMap]
  refine List.flatMap_congr fun other _ => ?_
  by_cases hother : other = id
  · -- of the container itself no sample is left
    subst hother
    rw [List.filter_eq_nil_iff.mpr fun x hx => by simp [label?_of_block hx],
      List.filter_eq_nil_iff.mpr fun x hx => by simp [label?_of_block hx]]
  · rw [hsame other hother]

/-- The containers are published in order, each with all of its samples or none.  Whatever rows
there are under one id, in a run with others under this id every other container is published as
before. -/
theorem publishes_container_blocks (space : String) {world : World}
    {systems statistics network : List Row} (h : Answers world systems statistics network)
    (hrows : Identified systems statistics network) (prior : List Sample) :
    let run := (collect space).run world (.after prior)
    (run.2 = .done () ∧
      run.1.samples = prior ++ (containerIds systems).flatMap (block space statistics network)) ∧
    ∀ (id : String) (world' : World) (statistics' network' : List Row),
      Answers world' systems statistics' network' → Identified systems statistics' network' →
      rowsWithout "Id" id statistics' = rowsWithout "Id" id statistics →
      rowsWithout "ContainerId" id network' = rowsWithout "ContainerId" id network →
        (∀ other, other ≠ id →
          block space statistics' network' other = block space statistics network other) ∧
        ∃ out out', run.1.samples = prior ++ out ∧
          ((collect space).run world' (.after prior)).1.samples = prior ++ out' ∧
          (out'.filter fun x => x.label? "container_id" ≠ some ("docker://" ++ id)) =
            out.filter fun x => x.label? "container_id" ≠ some ("docker://" ++ id) := by
  intro run
  have hrun := run_collect space h hrows prior
  refine ⟨hrun, fun id world' statistics' network' h' hrows' hstatistics hnetwork => ?_⟩
  have hsame : ∀ other, other ≠ id →
      block space statistics' network' other = block space statistics network other :=
    fun other hother => block_of_rowsWithout hother hstatistics hnetwork
  exact ⟨hsame, _, _, hrun.2, (run_collect space h' hrows' prior).2, filter_blocks hsame _⟩

def answering (systems statistics network : List Row) : World := fun _ =>
  ⟨fun object => .error (.missingObject object),
    fun q => .ok (if q = systemQuery then systems else if q = networkQuery then network
      else statistics), none, fun _ => false⟩

theorem answers_answering (systems statistics network : List Row) :
    Answers (answering systems statistics network) systems statistics network where
  untimed _ := rfl
  systems _ := rfl
  statistics _ := congrArg Except.ok ((if_neg (by decide)).trans (if_neg (by decide)))
  network _ := congrArg Except.ok ((if_neg (by decide)).trans (if_pos rfl))

def systemRow (id : String) : Row := ⟨[("Id", .text id), ("Type", .text "Container")]⟩

def statisticsRow (id : String) : Row := ⟨[
  ("Id", .text id), ("MemoryUsageCommitBytes", .unsigned 10),
  ("MemoryUsageCommitPeakBytes", .unsigned 12), ("MemoryUsagePrivateWorkingSetBytes", .float 8.0),
  ("TotalRuntime100ns", .unsigned 50000000), ("RuntimeUser100ns", .unsigned 20000000),
  ("RuntimeKernel100ns", .bool false)]⟩

def networkRow (id : String) : Row := ⟨[
  ("ContainerId", .text id), ("EndpointId", .text "port"), ("BytesReceived", .unsigned 6),
  ("BytesSent", .unsigned 5), ("PacketsReceived", .unsigned 4), ("PacketsSent", .unsigned 3),
  ("DroppedPacketsIncoming", .unsigned 2), ("DroppedPacketsOutgoing", .bool true)]⟩

/-- What is published of these rows. -/
def figures : List (String × Float) := [
  ("windows_container_available", 1.0),
  ("windows_container_memory_usage_commit_bytes", 10.0),
  ("windows_container_memory_usage_commit_peak_bytes", 12.0),
  ("windows_container_memory_usage_private_working_set_bytes", 8.0),
  ("windows_container_cpu_usage_seconds_total", 5.0),
  ("windows_container_cpu_usage_seconds_usermode", 2.0),
  ("windows_container_cpu_usage_seconds_kernelmode", 0.0),
  ("windows_container_network_receive_bytes_total", 6.0),
  ("windows_container_network_transmit_bytes_total", 5.0),
  ("windows_container_network_receive_packets_total", 4.0),
  ("windows_container_network_transmit_packets_total", 3.0),
  ("windows_container_network_receive_packets_dropped_total", 2.0),
  ("windows_container_network_transmit_packets_dropped_total", 1.0)]

theorem figures_fullBlock : ∀ id ∈ ["first", "second"],
    ((fullBlock "windows" id (statisticsRow id) [networkRow id]).map fun x => (x.name, x.value)) =
      figures := by
  decide +kernel

/-- Two containers, and the same two with statistics of the second that lack all numbers. -/
theorem publishes_container_blocks_corrupted :
    let systems := [systemRow "first", systemRow "second"]
    let network := [networkRow "first", networkRow "second"]
    let whole := [statisticsRow "second", statisticsRow "first"]
    let torn := [⟨[("Id", .text "second")]⟩, statisticsRow "first"]
    let run := (collect "windows").run (answering systems whole network) (.after [])
    let run' := (collect "windows").run (answering systems torn network) (.after [])
    (Answers (answering systems whole network) systems whole network ∧
      Identified systems whole network) ∧
    (Answers (answering systems torn network) systems torn network ∧
      Identified systems torn network ∧
      rowsWithout "Id" "second" torn = rowsWithout "Id" "second" whole) ∧
    (run.1.samples.map fun x => (x.name, x.value)) = figures ++ figures ∧
    (run'.1.samples.map fun x => (x.name, x.value)) = figures ∧
    (run'.1.samples.filter fun x => x.label? "container_id" ≠ some "docker://second") =
      run.1.samples.filter fun x => x.label? "container_id" ≠ some "docker://second" := by
  intro systems network whole torn run run'
  have hwhole := answers_answering systems whole network
  have htorn := answers_answering systems torn network
  have hrows : Identified systems whole network := ⟨by decide, by decide, by decide, by decide⟩
  have hrows' : Identified systems torn network := ⟨by decide, by decide, by decide, by decide⟩
  have hids : containerIds systems = ["first", "second"] := by decide
  have hsame : rowsWithout "Id" "second" torn = rowsWithout "Id" "second" whole := rfl
  have hfirst : block "windows" whole network "first" =
      fullBlock "windows" "first" (statisticsRow "first") [networkRow "first"] :=
    (block_of_last rfl rfl).trans (if_pos (by decide))
  have hfirst' : block "windows" torn network "first" =
      fullBlock "windows" "first" (statisticsRow "first") [networkRow "first"] :=
    (block_of_last rfl rfl).trans (if_pos (by decide))
  have hsecond : block "windows" whole network "second" =
      fullBlock "windows" "second" (statisticsRow "second") [networkRow "second"] :=
    (block_of_last rfl rfl).trans (if_pos (by decide))
  have hsecond' : block "windows" torn network "second" = [] :=
    (block_of_last rfl rfl).trans (if_neg (by decide))
  obtain ⟨⟨-, hsamples⟩, hothers⟩ :=
    publishes_container_blocks "windows" hwhole hrows []
  obtain ⟨⟨-, hsamples'⟩, -⟩ := publishes_container_blocks "windows" htorn hrows' []
  obtain ⟨-, out, out', hout, hout', hfilter⟩ :=
    hothers "second" _ torn network htorn hrows' hsame rfl
  rw [List.nil_append] at hout hout'
  rw [hids, List.flatMap_cons, List.flatMap_singleton, List.nil_append] at hsamples hsamples'
  refine ⟨⟨hwhole, hrows⟩, ⟨htorn, hrows', hsame⟩, ?_, ?_, ?_⟩
  · rw [hsamples, hfirst, hsecond, List.map_append, figures_fullBlock _ (by decide),
      figures_fullBlock _ (by decide)]
  · rw [hsamples', hfirst', hsecond', List.append_nil, figures_fullBlock _ (by decide)]
  · rw [← hout, ← hout'] at hfilter
    exact hfilter

end MetricScraper.Containers
