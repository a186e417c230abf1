import MetricScraper.Proofs.Results
import MetricScraper.Registry.Builtin

/-!
# Works that hand out one batch

The collectors that read no counters gather their samples first and hand them out with their
success.  So a run that fails, at whichever query, row or look at the clock, leaves the samples of
others as they were, and a run that succeeds has done what it would have done without a deadline.
-/

namespace MetricScraper

/-- A work that asks for nothing but rows and the time, and hands out all its samples as it
succeeds. -/
inductive Work.Batch : Work Unit → Prop where
  | done : Batch (.done ())
  | emit (samples : List Sample) : Batch (.push samples (.done ()))
  | fail (error : CollectError) : Batch (.fail error)
  | log {rest : Work Unit} (entry : LogEntry) (h : rest.Batch) : Batch (.log entry rest)
  | rows {next : List Row → Work Unit} (query : Query) (h : ∀ rows, (next rows).Batch) :
      Batch (.rows query next)
  | check {rest : Work Unit} (h : rest.Batch) : Batch (.check rest)

/-- The same answers, without a deadline. -/
def World.timeless (world : World) : World := fun r => { world r with late := none }

/-- No deadline passes. -/
def World.Untimed (world : World) : Prop := ∀ r, (world r).late = none

/-- A task that has come to its end has done what its run comes to. -/
theorem Task.run_of_ending? {t : Task} {ending : Ending Unit} (h : t.ending? = some ending)
    (world : World) : t.work.run world t.record = (t.record, ending) := by
  obtain ⟨record, work⟩ := t
  cases work with
  | done result =>
    cases h
    rfl
  | fail error =>
    cases h
    rfl
  | panic =>
    cases h
    rfl
  | _ => cases h

namespace Work

/-! ### Runs -/

/-- A deadline changes nothing in a run but to end it. -/
theorem run_timeless {α : Type} (world : World) (w : Work α) (r : Record) :
    w.run world.timeless r = w.run world r ∨
      ∃ waited, (w.run world r).2 = .failed (.timeout waited) := by
  induction w generalizing r with
  | done result => exact Or.inl rfl
  | fail error => exact Or.inl rfl
  | panic => exact Or.inl rfl
  | push samples rest ih => exact ih (r.push samples)
  | log entry rest ih => exact ih (r.log entry)
  | table object next ih =>
    simp only [run, World.timeless]
    cases (world r).table object with
    | error e => exact Or.inl rfl
    | ok t => exact ih t r
  | rows query next ih =>
    simp only [run, World.timeless]
    cases (world r).rows query with
    | error e => exact Or.inl rfl
    | ok rows => exact ih rows (r.call query)
  | check rest ih =>
    simp only [run, World.timeless]
    cases (world r).late with
    | none => exact ih r.look
    | some waited => exact Or.inr ⟨waited, rfl⟩
  | await gate rest ih => exact ih r

theorem run_notes_bind {f : Unit → Work Unit} (world : World) (entries : List LogEntry)
    (r : Record) :
    ((notes entries).bind f).run world r =
      (f ()).run world { r with logs := r.logs ++ entries } := by
  induction entries generalizing r with
  | nil =>
    rw [List.append_nil]
    rfl
  | cons entry rest ih =>
    have hstep : ((notes (entry :: rest)).bind f).run world r =
        ((notes rest).bind f).run world (r.log entry) := rfl
    rw [hstep, ih, Record.log, List.append_assoc, List.singleton_append]

/-- A run of a batch fails with nothing handed out, or succeeds. -/
theorem Batch.run_cases {w : Work Unit} (hw : w.Batch) (world : World) (r : Record) :
    (∃ error, (w.run world r).2 = .failed error ∧ (w.run world r).1.samples = r.samples) ∨
      ∃ out, (w.run world r).2 = .done () ∧ (w.run world r).1.samples = r.samples ++ out := by
  induction hw generalizing r with
  | done => exact Or.inr ⟨[], rfl, (List.append_nil _).symm⟩
  | emit samples => exact Or.inr ⟨samples, rfl, rfl⟩
  | fail error => exact Or.inl ⟨error, rfl, rfl⟩
  | log entry h ih => exact ih (r.log entry)
  | rows query h ih =>
    simp only [run]
    cases (world r).rows query with
    | error e => exact Or.inl ⟨.query e, rfl, rfl⟩
    | ok rows => exact ih rows (r.call query)
  | check h ih =>
    simp only [run]
    cases (world r).late with
    | none => exact ih r.look
    | some waited => exact Or.inl ⟨.timeout waited, rfl, rfl⟩

/-! ### Tasks -/

/-- A step of a task at a batch changes nothing of what its run comes to, if it gets the rows and
the time that the run gets. -/
theorem Batch.step {t t' : Task} {m moment : Moment} (ht : t.work.Batch)
    (hrows : m.rows = moment.rows) (hlate : m.late = moment.late) (h : t.step m = some t') :
    t'.work.Batch ∧
      t'.work.run (fun _ => moment) t'.record = t.work.run (fun _ => moment) t.record := by
  obtain ⟨record, work⟩ := t
  cases ht with
  | done => cases h
  | fail error => cases h
  | emit samples =>
    cases h
    exact ⟨.done, rfl⟩
  | log entry hrest =>
    cases h
    exact ⟨hrest, rfl⟩
  | rows query hnext =>
    simp only [Task.step, hrows] at h
    split at h
    · rename_i rows hq
      cases h
      exact ⟨hnext rows, by simp only [run, hq]⟩
    · rename_i error hq
      cases h
      exact ⟨.fail _, by simp only [run, hq]⟩
  | check hrest =>
    simp only [Task.step, hlate] at h
    split at h
    · rename_i hq
      cases h
      exact ⟨hrest, by simp only [run, hq]⟩
    · rename_i waited hq
      cases h
      exact ⟨.fail _, by simp only [run, hq]⟩

/-! ### Parts of batches -/

theorem Batch.notes_bind {f : Unit → Work Unit} (entries : List LogEntry) (h : (f ()).Batch) :
    ((notes entries).bind f).Batch := by
  induction entries with
  | nil => exact h
  | cons entry entries ih => exact .log entry ih

theorem Batch.orFail {α : Type} (result : Except QueryError α) {next : α → Work Unit}
    (h : ∀ x, (next x).Batch) : (Containers.orFail result next).Batch := by
  cases result with
  | ok x => exact h x
  | error e => exact .fail _

end Work

/-! ### The collectors that read no counters -/

namespace Network

theorem batch_collectRows (filter : InstanceFilter) (table : FieldTable) (out : List Sample)
    (rows : List Row) : (collectRows filter table out rows).Batch := by
  induction rows generalizing out with
  | nil => exact .emit out
  | cons row rest ih =>
    refine .check ?_
    cases rowSamples filter table row with
    | error e => exact .fail _
    | ok samples => exact ih (out ++ samples)

theorem batch_collect (space : String) (filter : InstanceFilter) : (collect space filter).Batch :=
  .rows query fun rows => batch_collectRows filter _ [] rows

end Network

namespace DiskStatus

theorem batch_collectDisks (space : String) (options : Options)
    (predictions : List (String × Bool)) (count : Nat) (out : List Sample) (failing : Nat)
    (rows : List Row) : (collectDisks space options predictions count out failing rows).Batch := by
  induction rows generalizing out failing with
  | nil => exact .log _ (.emit out)
  | cons row rest ih =>
    refine .check ?_
    cases readDisk? row with
    | error e => exact .fail _
    | ok disk =>
      cases disk with
      | none => exact ih out failing
      | some disk => exact .notes_bind _ (ih _ _)

theorem batch_collect (space : String) (options : Options) : (collect space options).Batch := by
  refine .rows dataQuery fun disks => .check (.rows predictionQuery fun rows => ?_)
  cases readPredictions [] rows with
  | error e => exact .fail _
  | ok predictions => exact batch_collectDisks space options predictions _ [] 0 disks

end DiskStatus

namespace Containers

theorem batch_collectContainers (space : String) (statistics network : List (String × Row))
    (out : List Sample) (ids : List String) :
    (collectContainers space statistics network out ids).Batch := by
  induction ids generalizing out with
  | nil => exact .emit out
  | cons id rest ih => exact .check (.notes_bind _ (ih _))

theorem batch_collect (space : String) : (collect space).Batch := by
  refine .rows systemQuery fun systems => .orFail _ fun ids => ?_
  split
  · exact .log _ .done
  · refine .check (.rows statisticsQuery fun rows => .orFail _ fun statistics => ?_)
    refine .check (.rows networkQuery fun rows => .orFail _ fun network => ?_)
    exact batch_collectContainers space statistics network [] ids

end Containers

namespace Builtin

/-- A built-in collector other than that of file replication is one batch. -/
theorem batch_of_build {s : Settings} {b : Builtin} {collector : Collector}
    (hb : b.build s = .ok collector) (hne : b ≠ .replication) :
    ∃ w, collector = .single w ∧ w.Batch := by
  cases b with
  | network =>
    obtain ⟨f, -, rfl⟩ := Results.map_eq_ok_iff.mp hb
    exact ⟨_, rfl, Network.batch_collect s.space f⟩
  | replication => exact absurd rfl hne
  | diskStatus =>
    cases hb
    exact ⟨_, rfl, DiskStatus.batch_collect s.space s.disk⟩
  | containers =>
    cases hb
    exact ⟨_, rfl, Containers.batch_collect s.space⟩

/-- Whatever is answered and whenever the deadline passes, a built-in collector that reads no
counters fails and leaves the samples before its own as they were, or succeeds and does exactly
what it does without a deadline. -/
theorem collects_all_or_nothing {s : Settings} {b : Builtin} {collector : Collector}
    (hb : b.build s = .ok collector) (hne : b ≠ .replication) (world : World)
    (prior : List Sample) :
    (∃ error, (collector.run world (.after prior)).2 = .failed error ∧
      (collector.run world (.after prior)).1.samples = prior) ∨
    ∃ out, (collector.run world (.after prior)).2 = .done () ∧
      (collector.run world (.after prior)).1.samples = prior ++ out ∧
      collector.run world.timeless (.after prior) = collector.run world (.after prior) := by
  obtain ⟨w, rfl, hw⟩ := batch_of_build hb hne
  rcases hw.run_cases world (.after prior) with hfailed | ⟨out, hdone, hout⟩
  · exact Or.inl hfailed
  · refine Or.inr ⟨out, hdone, hout, ?_⟩
    rcases Work.run_timeless world w (.after prior) with heq | ⟨waited, hlate⟩
    · exact heq
    · have hne : Ending.done () = .failed (.timeout waited) := hdone.symm.trans hlate
      cases hne

/-- A world in which one container runs, with a deadline that passes after the first look. -/
def shortWorld : World := fun r =>
  ⟨fun object => .error (.missingObject object),
    fun _ => .ok [⟨[("Id", .text "a"), ("Type", .text "Container")]⟩],
    if r.looks = 0 then none else some 7, fun _ => false⟩

theorem collects_all_or_nothing_late :
    ∃ collector error, containers.build default = .ok collector ∧
      (collector.run shortWorld (.after [default])).2 = .failed error ∧
      (collector.run shortWorld (.after [default])).1.samples = [default] := by
  rcases collects_all_or_nothing (s := default) (b := .containers) rfl (by decide) shortWorld
    [default] with ⟨error, hfailed, hsame⟩ | ⟨out, hdone, -⟩
  · exact ⟨_, error, rfl, hfailed, hsame⟩
  · cases hdone

end Builtin

end MetricScraper
