import MetricScraper.Proofs.Collector.Batch

/-!
# The columns that are read

A source may answer a query with whole rows, or with no more than the columns that the query
selects.  Both come to the same: what a collector does with a row depends on the selected columns
alone, so a restricted row goes the way of the whole one, up to the error and the column it names.
-/

namespace MetricScraper

/-! ### Restricted rows -/

namespace Row

variable {r : Row} {keep : String → Bool} {column : String}

theorem get?_restrict (h : keep column = true) : (r.restrict keep).get? column = r.get? column := by
  obtain ⟨cells⟩ := r
  simp only [restrict, get?]
  induction cells with
  | nil => rfl
  | cons cell rest ih =>
    obtain ⟨other, value⟩ := cell
    by_cases hcolumn : column = other
    · subst hcolumn
      simp [h]
    · -- a cell of another column is passed over, kept or not
      cases hkeep : keep other <;> simp [hkeep, List.lookup_cons, beq_false_of_ne hcolumn, ih]

theorem require_restrict (h : keep column = true) :
    (r.restrict keep).require column = r.require column := by
  rw [require, require, get?_restrict h]

theorem float_restrict (h : keep column = true) :
    (r.restrict keep).float column = r.float column := by
  rw [float, float, require_restrict h]

theorem float?_restrict (h : keep column = true) :
    (r.restrict keep).float? column = r.float? column := by
  rw [float?, float?, get?_restrict h, float_restrict h]

theorem bool_restrict (h : keep column = true) :
    (r.restrict keep).bool column = r.bool column := by
  rw [bool, bool, require_restrict h]

theorem text_restrict (h : keep column = true) :
    (r.restrict keep).text column = r.text column := by
  rw [text, text, require_restrict h]

theorem bytes_restrict (h : keep column = true) :
    (r.restrict keep).bytes column = r.bytes column := by
  rw [bytes, bytes, require_restrict h]

end Row

/-- The rows of a query with nothing but the columns that it selects, as a document answers. -/
def Query.project (q : Query) (rows : List Row) : List Row :=
  rows.map fun row => row.restrict q.selects

/-- The same answers, with nothing in a row but the columns that were asked for. -/
def World.selected (world : World) : World := fun r =>
  { world r with rows := fun q => ((world r).rows q).map q.project }

theorem FieldTable.readInstance_congr {ε : Type} {space subsystem : String} {fields : List Field}
    {labels : List String} {lookup lookup' : String → Except ε (Option Float)}
    (h : ∀ f ∈ fields, lookup f.counter = lookup' f.counter) :
    (ofFields space subsystem fields).readInstance labels lookup =
      (ofFields space subsystem fields).readInstance labels lookup' := by
  have hcollect : (ofFields space subsystem fields).collectInstance labels lookup =
      (ofFields space subsystem fields).collectInstance labels lookup' := by
    simp only [collectInstance, ofFields]
    induction fields with
    | nil => rfl
    | cons f rest ih =>
      rw [List.map_cons, collectFields, collectFields, h f (List.mem_cons_self ..),
        ih fun g hg => h g (List.mem_cons_of_mem f hg)]
  rw [readInstance, readInstance, hcollect]

/-! ### Works that keep to the selected columns -/

namespace Work

/-- A work that goes on from restricted rows as it does from whole ones, at every query. -/
inductive Selective : Work Unit → Prop where
  | done : Selective (.done ())
  | fail (error : CollectError) : Selective (.fail error)
  | push {rest : Work Unit} (samples : List Sample) (h : rest.Selective) :
      Selective (.push samples rest)
  | log {rest : Work Unit} (entry : LogEntry) (h : rest.Selective) : Selective (.log entry rest)
  | table {next : CounterTable → Work Unit} (object : String) (h : ∀ t, (next t).Selective) :
      Selective (.table object next)
  | rows {next : List Row → Work Unit} (query : Query)
      (hsame : ∀ rows, next (query.project rows) = next rows)
      (h : ∀ rows, (next rows).Selective) : Selective (.rows query next)
  | check {rest : Work Unit} (h : rest.Selective) : Selective (.check rest)

theorem Selective.run_selected {w : Work Unit} (hw : w.Selective) (world : World) (r : Record) :
    w.run world.selected r = w.run world r := by
  induction hw generalizing r with
  | done => rfl
  | fail error => rfl
  | push samples h ih => exact ih (r.push samples)
  | log entry h ih => exact ih (r.log entry)
  | table object h ih =>
    simp only [run, World.selected]
    cases (world r).table object with
    | error e => rfl
    | ok t => exact ih t r
  | rows query hsame h ih =>
    simp only [run, World.selected]
    cases (world r).rows query with
    | error e => rfl
    | ok rows =>
      simp only [Except.map, hsame]
      exact ih rows (r.call query)
  | check h ih =>
    simp only [run, World.selected]
    cases (world r).late with
    | none => exact ih r.look
    | some waited => rfl

theorem Selective.notes_bind {f : Unit → Work Unit} (entries : List LogEntry)
    (h : (f ()).Selective) : ((notes entries).bind f).Selective := by
  induction entries with
  | nil => exact h
  | cons entry entries ih => exact .log entry ih

theorem Selective.orFail {α : Type} (result : Except QueryError α) {next : α → Work Unit}
    (h : ∀ x, (next x).Selective) : (Containers.orFail result next).Selective := by
  cases result with
  | ok x => exact h x
  | error e => exact .fail _

end Work

/-! ### Network interfaces -/

namespace Network

variable (space : String) (filter : InstanceFilter)

theorem selects_fields : ∀ f ∈ fields, query.selects f.counter = true := by decide

theorem rowSamples_restrict (row : Row) :
    rowSamples filter (.ofFields space name fields) (row.restrict query.selects) =
      rowSamples filter (.ofFields space name fields) row := by
  have hfields (labels : List String) :
      (FieldTable.ofFields space name fields).readInstance labels
          (row.restrict query.selects).float? =
        (FieldTable.ofFields space name fields).readInstance labels row.float? :=
    FieldTable.readInstance_congr fun f hf => Row.float?_restrict (selects_fields f hf)
  rw [rowSamples, rowSamples, Row.text_restrict (by decide)]
  simp only [hfields]

theorem collectRows_project (out : List Sample) (rows : List Row) :
    collectRows filter (.ofFields space name fields) out (query.project rows) =
      collectRows filter (.ofFields space name fields) out rows := by
  induction rows generalizing out with
  | nil => rfl
  | cons row rest ih =>
    rw [Query.project, List.map_cons, collectRows, collectRows, rowSamples_restrict]
    cases rowSamples filter (.ofFields space name fields) row with
    | error e => rfl
    | ok samples => exact congrArg Work.check (ih (out ++ samples))

theorem selective_collectRows (table : FieldTable) (out : List Sample) (rows : List Row) :
    (collectRows filter table out rows).Selective := by
  induction rows generalizing out with
  | nil => exact .push out .done
  | cons row rest ih =>
    refine .check ?_
    cases rowSamples filter table row with
    | error e => exact .fail _
    | ok samples => exact ih (out ++ samples)

theorem selective_collect : (collect space filter).Selective :=
  .rows query (collectRows_project space filter []) (selective_collectRows filter _ [])

end Network

/-! ### Disk status -/

namespace DiskStatus

theorem readDisk?_restrict (row : Row) :
    readDisk? (row.restrict dataQuery.selects) = readDisk? row := by
  rw [readDisk?, readDisk?, DiskRow.ofRow, DiskRow.ofRow, Row.bool_restrict (by decide),
    Row.text_restrict (by decide), Row.float_restrict (by decide), Row.float_restrict (by decide),
    Row.float_restrict (by decide), Row.bytes_restrict (by decide)]

theorem readPrediction_restrict (row : Row) :
    readPrediction (row.restrict predictionQuery.selects) = readPrediction row := by
  rw [readPrediction, readPrediction, Row.text_restrict (by decide), Row.bool_restrict (by decide)]

theorem readPredictions_project (before : List (String × Bool)) (rows : List Row) :
    readPredictions before (predictionQuery.project rows) = readPredictions before rows := by
  induction rows generalizing before with
  | nil => rfl
  | cons row rest ih =>
    rw [Query.project, List.map_cons, readPredictions, readPredictions, readPrediction_restrict]
    cases readPrediction row with
    | error e => rfl
    | ok p => exact ih (p :: before)

theorem collectDisks_project (space : String) (options : Options)
    (predictions : List (String × Bool)) (count : Nat) (out : List Sample) (failing : Nat)
    (rows : List Row) :
    collectDisks space options predictions count out failing (dataQuery.project rows) =
      collectDisks space options predictions count out failing rows := by
  induction rows generalizing out failing with
  | nil => rfl
  | cons row rest ih =>
    rw [Query.project, List.map_cons, collectDisks, collectDisks, readDisk?_restrict]
    cases readDisk? row with
    | error e => rfl
    | ok disk =>
      cases disk with
      | none => exact congrArg Work.check (ih out failing)
      | some disk =>
        refine congrArg Work.check (congrArg (Work.notes (diskLogs options disk)).bind ?_)
        exact funext fun _ => ih _ _

theorem selective_collectDisks (space : String) (options : Options)
    (predictions : List (String × Bool)) (count : Nat) (out : List Sample) (failing : Nat)
    (rows : List Row) :
    (collectDisks space options predictions count out failing rows).Selective := by
  induction rows generalizing out failing with
  | nil => exact .log _ (.push out .done)
  | cons row rest ih =>
    refine .check ?_
    cases readDisk? row with
    | error e => exact .fail _
    | ok disk =>
      cases disk with
      | none => exact ih out failing
      | some disk => exact .notes_bind _ (ih _ _)

theorem selective_collect (space : String) (options : Options) :
    (collect space options).Selective := by
  refine .rows dataQuery ?_ fun disks => .check (.rows predictionQuery ?_ fun rows => ?_)
  · intro disks
    have hcount : (dataQuery.project disks).length = disks.length := List.length_map _
    simp only [hcount, collectDisks_project]
  · intro rows
    rw [readPredictions_project]
  · cases readPredictions [] rows with
    | error e => exact .fail _
    | ok predictions => exact selective_collectDisks space options predictions _ [] 0 disks

end DiskStatus

/-! ### Containers -/

namespace Containers

def projectKeyed (q : Query) (keyed : List (String × Row)) : List (String × Row) :=
  keyed.map fun entry => (entry.1, entry.2.restrict q.selects)

theorem readIds_project (rows : List Row) : readIds (systemQuery.project rows) = readIds rows := by
  induction rows with
  | nil => rfl
  | cons row rest ih =>
    rw [Query.project] at ih
    rw [Query.project, List.map_cons, readIds, readIds, ih, Row.text_restrict (by decide),
      Row.text_restrict (by decide)]

theorem keyRows_project {q : Query} {column : String} (h : q.selects column = true)
    (rows : List Row) :
    keyRows column (q.project rows) = (keyRows column rows).map (projectKeyed q) := by
  induction rows with
  | nil => rfl
  | cons row rest ih =>
    rw [Query.project] at ih
    rw [Query.project, List.map_cons, keyRows, keyRows, ih, Row.text_restrict h]
    cases row.text column with
    | error e => rfl
    | ok key => cases keyRows column rest <;> rfl

theorem lastRow?_projectKeyed (q : Query) (keyed : List (String × Row)) (key : String) :
    lastRow? (projectKeyed q keyed) key =
      (lastRow? keyed key).map fun row => row.restrict q.selects := by
  have hlookup (entries : List (String × Row)) : (projectKeyed q entries).lookup key =
      (entries.lookup key).map fun row => row.restrict q.selects := by
    induction entries with
    | nil => rfl
    | cons entry rest ih =>
      rw [projectKeyed] at ih
      rw [projectKeyed, List.map_cons, List.lookup_cons, List.lookup_cons]
      cases key == entry.1 with
      | true => rfl
      | false => exact ih
  rw [lastRow?, lastRow?, projectKeyed, ← List.map_reverse]
  exact hlookup keyed.reverse

theorem rowsOf_projectKeyed (q : Query) (keyed : List (String × Row)) (key : String) :
    rowsOf (projectKeyed q keyed) key = q.project (rowsOf keyed key) := by
  simp only [rowsOf, projectKeyed, Query.project, List.filter_map, List.map_map]
  rfl

theorem interfacesSamples_project (space id : String) (rows : List Row) :
    interfacesSamples (.ofFields space name networkFields) id (networkQuery.project rows) =
      interfacesSamples (.ofFields space name networkFields) id rows := by
  have hselects : ∀ f ∈ networkFields, networkQuery.selects f.counter = true := by decide
  induction rows with
  | nil => rfl
  | cons row rest ih =>
    have hread (labels : List String) :
        (FieldTable.ofFields space name networkFields).readInstance labels
            (number (row.restrict networkQuery.selects)) =
          (FieldTable.ofFields space name networkFields).readInstance labels (number row) :=
      FieldTable.readInstance_congr fun f hf => by
        rw [number, number, Row.float_restrict (hselects f hf)]
    rw [Query.project] at ih
    rw [Query.project, List.map_cons, interfacesSamples, interfacesSamples, ih, interfaceSamples,
      interfaceSamples, Row.text_restrict (by decide)]
    simp only [hread]

theorem containerSamples_project (space id : String) (statistics : Row) (interfaces : List Row) :
    containerSamples space id (statistics.restrict statisticsQuery.selects)
        (networkQuery.project interfaces) =
      containerSamples space id statistics interfaces := by
  have hmemory : ∀ f ∈ memoryFields, number (statistics.restrict statisticsQuery.selects)
      f.counter = number statistics f.counter := by
    intro f hf
    have hselects : ∀ f ∈ memoryFields, statisticsQuery.selects f.counter = true := by decide
    rw [number, number, Row.float_restrict (hselects f hf)]
  have hprocessor : ∀ f ∈ processorFields, seconds (statistics.restrict statisticsQuery.selects)
      f.counter = seconds statistics f.counter := by
    intro f hf
    have hselects : ∀ f ∈ processorFields, statisticsQuery.selects f.counter = true := by decide
    rw [seconds, seconds, Row.float_restrict (hselects f hf)]
  rw [containerSamples, containerSamples, FieldTable.readInstance_congr hmemory,
    FieldTable.readInstance_congr hprocessor, interfacesSamples_project]

theorem containerPart_project (space id : String) (statistics : Option Row)
    (interfaces : List Row) :
    containerPart space id (statistics.map fun row => row.restrict statisticsQuery.selects)
        (networkQuery.project interfaces) =
      containerPart space id statistics interfaces := by
  have hempty : (networkQuery.project interfaces).isEmpty = interfaces.isEmpty :=
    List.isEmpty_map
  cases statistics with
  | none => rfl
  | some row =>
    rw [Option.map_some, containerPart, containerPart, containerSamples_project, hempty]

theorem collectContainers_project (space : String) (statistics network : List (String × Row))
    (out : List Sample) (ids : List String) :
    collectContainers space (projectKeyed statisticsQuery statistics)
        (projectKeyed networkQuery network) out ids =
      collectContainers space statistics network out ids := by
  induction ids generalizing out with
  | nil => rfl
  | cons id rest ih =>
    rw [collectContainers, collectContainers, lastRow?_projectKeyed, rowsOf_projectKeyed,
      containerPart_project]
    simp only [ih]

theorem projectKeyed_projectKeyed (q : Query) (keyed : List (String × Row)) :
    projectKeyed q (projectKeyed q keyed) = projectKeyed q keyed := by
  simp [projectKeyed, Row.restrict]

/-- The rows of the interfaces may be whole. -/
theorem collectContainers_statistics (space : String) (statistics network : List (String × Row))
    (out : List Sample) (ids : List String) :
    collectContainers space (projectKeyed statisticsQuery statistics) network out ids =
      collectContainers space statistics network out ids := by
  -- both sides are what they are with restricted rows of interfaces
  rw [← collectContainers_project, projectKeyed_projectKeyed, collectContainers_project]

theorem collectContainers_network (space : String) (statistics network : List (String × Row))
    (out : List Sample) (ids : List String) :
    collectContainers space statistics (projectKeyed networkQuery network) out ids =
      collectContainers space statistics network out ids := by
  rw [← collectContainers_project, projectKeyed_projectKeyed, collectContainers_project]

theorem selective_collectContainers (space : String) (statistics network : List (String × Row))
    (out : List Sample) (ids : List String) :
    (collectContainers space statistics network out ids).Selective := by
  induction ids generalizing out with
  | nil => exact .push out .done
  | cons id rest ih => exact .check (.notes_bind _ (ih _))

theorem selective_collect (space : String) : (collect space).Selective := by
  refine .rows systemQuery ?_ fun systems => .orFail _ fun ids => ?_
  · intro systems
    rw [readIds_project]
  split
  · exact .log _ .done
  refine .check (.rows statisticsQuery ?_ fun rows => .orFail _ fun statistics => ?_)
  · intro rows
    rw [keyRows_project (by decide)]
    cases keyRows "Id" rows with
    | error e => rfl
    | ok statistics =>
      simp only [Except.map, orFail, collectContainers_statistics]
  refine .check (.rows networkQuery ?_ fun rows => .orFail _ fun network => ?_)
  · intro rows
    rw [keyRows_project (by decide)]
    cases keyRows "ContainerId" rows with
    | error e => rfl
    | ok network => exact collectContainers_network space statistics network [] ids
  exact selective_collectContainers space statistics network [] ids

end Containers

/-! ### Built-in collectors -/

theorem Replication.selective_child (space : String) (source : Source) :
    (source.child space).work.Selective :=
  .table source.object fun _ => .push _ .done

theorem Collector.runChildren_selected {c : Composite}
    (h : ∀ child ∈ c.children, child.work.Selective) (world : World) :
    runChildren world.selected c = runChildren world c := by
  have hchild (child : Child) (hmem : child ∈ c.children) :
      runChild world.selected child = runChild world child := by
    rw [runChild, runChild, (h child hmem).run_selected]
  have hlate : (world.selected Record.empty).late = (world Record.empty).late := rfl
  rw [runChildren, runChildren, hlate, List.map_congr_left hchild]

namespace Builtin

/-- Whatever the settings, the world and the samples of others before its own, a built-in collector
does not tell whole rows from rows that hold the selected columns only: the run ends in the same
way, with the same error if it fails, and has the same samples. -/
theorem reads_selected_columns {s : Settings} {b : Builtin} {collector : Collector}
    (hb : b.build s = .ok collector) (world : World) (r : Record) :
    collector.run world.selected r = collector.run world r := by
  cases b with
  | network =>
    obtain ⟨f, -, rfl⟩ := Results.map_eq_ok_iff.mp hb
    exact (Network.selective_collect s.space f).run_selected world r
  | replication =>
    obtain ⟨ss, -, rfl⟩ := Results.map_eq_ok_iff.mp hb
    have hchildren : ∀ child ∈ (Replication.composite s.space ss).children,
        child.work.Selective := by
      intro child hchild
      obtain ⟨source, -, rfl⟩ := List.mem_map.mp hchild
      exact Replication.selective_child s.space source
    rw [Collector.run, Collector.run, Collector.runChildren_selected hchildren]
  | diskStatus =>
    cases hb
    exact (DiskStatus.selective_collect s.space s.disk).run_selected world r
  | containers =>
    cases hb
    exact (Containers.selective_collect s.space).run_selected world r

/-- A world whose disks come with a column that no query selects, and lack one that is. -/
def wideWorld : World := fun _ =>
  ⟨fun object => .error (.missingObject object),
    fun _ => .ok [⟨[("Active", .bool true), ("InstanceName", .text "a"), ("Length", .null)]⟩],
    none, fun _ => false⟩

theorem reads_selected_columns_wide :
    ∃ collector, diskStatus.build default = .ok collector ∧
      (wideWorld .empty).rows DiskStatus.dataQuery ≠
        (wideWorld.selected .empty).rows DiskStatus.dataQuery ∧
      collector.run wideWorld.selected (.after [default]) =
        collector.run wideWorld (.after [default]) := by
  refine ⟨_, rfl, ?_, reads_selected_columns (b := .diskStatus) rfl wideWorld _⟩
  intro heq
  have hlengths : [3] = [2] :=
    congrArg (fun rows => (rows.toOption.getD []).map (·.cells.length)) heq
  cases hlengths

end Builtin

end MetricScraper
