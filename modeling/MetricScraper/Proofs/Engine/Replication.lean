import MetricScraper.Engine.Playout
import MetricScraper.Proofs.Collector.Batch
import MetricScraper.Proofs.Collector.Replication
import MetricScraper.Proofs.Engine.Composites
import MetricScraper.Proofs.Engine.Origins

/-!
# File replication in a scrape

A work that asks for nothing but tables does on a snapshot what it does by itself, in whatever steps
and at whatever times.  So the composite of file replication hands over, in every course, what the
entries of the objects say that are declared for it.
-/

namespace MetricScraper

/-! ### Works that read tables -/

/-- A work that asks for nothing but tables. -/
inductive Work.Tabular : Work Unit → Prop where
  | done (result : Unit) : Tabular (.done result)
  | fail (error : CollectError) : Tabular (.fail error)
  | push {rest : Work Unit} (samples : List Sample) (h : rest.Tabular) :
      Tabular (.push samples rest)
  | table {next : CounterTable → Work Unit} (object : String) (h : ∀ t, (next t).Tabular) :
      Tabular (.table object next)

/-- A step of a task changes nothing of what its run comes to on the snapshot. -/
theorem Work.Tabular.step {t t' : Task} {m : Moment} {snapshot : Snapshot} {world : World}
    (ht : t.work.Tabular) (hworld : ∀ r, (world r).table = snapshot.table)
    (hm : m.table = snapshot.table) (h : t.step m = some t') :
    t'.work.Tabular ∧ t'.work.run world t'.record = t.work.run world t.record := by
  obtain ⟨record, work⟩ := t
  cases ht with
  | done result => cases h
  | fail error => cases h
  | push samples hrest =>
    cases h
    exact ⟨hrest, rfl⟩
  | table object hnext =>
    simp only [Task.step, hm] at h
    split at h
    · rename_i t hq
      cases h
      exact ⟨hnext t, by simp only [Work.run, hworld, hq]⟩
    · rename_i error hq
      cases h
      exact ⟨.fail error, by simp only [Work.run, hworld, hq]⟩

theorem Task.On.run_eq {w : Work Unit} {t : Task} {snapshot : Snapshot} {world : World}
    (h : t.On snapshot w) (hw : w.Tabular) (hworld : ∀ r, (world r).table = snapshot.table) :
    t.work.Tabular ∧ t.work.run world t.record = w.run world .empty := by
  induction h with
  | start => exact ⟨hw, rfl⟩
  | step h hm ht ih =>
    obtain ⟨htab, hrun⟩ := ih
    obtain ⟨htab', hrun'⟩ := htab.step hworld hm ht
    exact ⟨htab', hrun'.trans hrun⟩

theorem Task.On.result_eq {w : Work Unit} {t : Task} {snapshot : Snapshot} {world : World}
    {ending : Ending Unit} (h : t.On snapshot w) (hw : w.Tabular)
    (hworld : ∀ r, (world r).table = snapshot.table) (he : t.ending? = some ending) :
    (t.record, ending) = w.run world .empty := by
  rw [← Task.run_of_ending? he world, (h.run_eq hw hworld).2]

namespace Replication

theorem Source.tabular_child (space : String) (s : Source) : (s.child space).work.Tabular :=
  .table s.object fun _ => .push _ (.done ())

end Replication

namespace Engine
open Replication

variable {sc : Scraper} {past : History} {e : State} {n : Nat} {r : Run} {space : String}
  {sources : List Source}

/-- The task of a child has worked for the child, on the snapshot of its run. -/
theorem on_of_group (hc : Course sc past e) (hr : e.runs[n]? = some r) {name : String}
    {c : Composite} (hu : sc.units[r.place]? = some (name, .composite c)) {g : GroupRun}
    (hj : r.job = .group c g) {k : Nat} {child : Child} (hchild : c.children[k]? = some child)
    {ch : ChildRun} (hch : g.children[k]? = some ch) :
    ch.task.On r.context.snapshot child.work := by
  have htask : r.job.task? (some k) = some ch.task := by simp [hj, Job.task?, hch]
  obtain ⟨u, w, hu', hw, hon⟩ := (did_of_course (o := ⟨n, some k⟩) hc hr htask).work
  cases hu.symm.trans hu'
  rw [Collector.work?, hchild, Option.map_some, Option.some.injEq] at hw
  exact hw ▸ hon

/-- What the composite of sources has handed over when it has returned before its deadline. -/
theorem answered_of_ending (hc : Course sc past e) (hr : e.runs[n]? = some r) {name : String}
    (hu : sc.units[r.place]? = some (name, .composite (composite space sources))) {h : Handover}
    (hh : r.ending = some h)
    (htimely : ∀ s, (s, .conclude n) ∈ past → s.isPast r.context.deadline = false) :
    ∃ runs, Answered space r.context.snapshot sources runs ∧
      h.samples = ((composite space sources).collect runs []).1 ∧
      h.result = ((composite space sources).collect runs []).2 := by
  obtain ⟨later, before, s, r₁, rfl, hr₁, hplace, hctx, -, hcon⟩ := concluded_of_course hc hr hh
  obtain ⟨u, hu₁, hsound⟩ := job_of_course hc.before hr₁
  rw [hplace] at hu₁
  cases hu.symm.trans hu₁
  obtain ⟨g, hj, hg⟩ := hsound.children
  rw [htimely s (List.mem_append_right _ List.mem_cons_self), hj, Job.conclude?,
    Option.map_eq_some_iff] at hcon
  obtain ⟨runs, hruns, rfl⟩ := hcon
  refine ⟨runs, ?_, rfl, rfl⟩
  have hlen : runs.length = sources.length :=
    (hg.length_runs hruns).trans (List.length_map _)
  rw [Answered, List.forall₂_iff_get]
  refine ⟨hlen.symm, fun k hk hk' => ?_⟩
  have hchild : (composite space sources).children[k]? = some (sources[k].child space) := by
    simp [composite, Composite.ofChildren, hk]
  obtain ⟨ch, o, hch, ho, hsettled⟩ := settled_of_runs? hg hruns hchild
  have hget : runs.get ⟨k, hk'⟩ = o := by
    rw [List.getElem?_eq_getElem hk', Option.some.injEq] at ho
    exact ho
  rw [hget]
  cases hsettled with
  | missed hs hl => cases hl
  | @received ending hs he hy elapsed =>
    have hon := on_of_group hc.before hr₁ (hplace ▸ hu) hj hchild hch
    rw [hctx] at hon
    have hworld : ∀ q, (world r.context.snapshot q).table = r.context.snapshot.table :=
      fun _ => rfl
    have hresult := hon.result_eq (sources[k].tabular_child space) hworld he
    have hanswers : sources[k].Answers space _ _ := sources[k].answers_of_run hworld elapsed
    rw [← hresult] at hanswers
    exact hanswers

/-! ### Declared objects and children -/

theorem builtin_of_sourcesOfList {settings : Settings} {unknown : String}
    (h : sourcesOfList settings.replicationSources = .error unknown) :
    Builtin.replicationObjects settings = .error (.unknownReplicationSource unknown) ∧
      Builtin.build settings .replication = .error (.unknownReplicationSource unknown) := by
  have hsources : Builtin.sources settings = .error (.unknownReplicationSource unknown) := by
    rw [Builtin.sources, h]
  rw [Builtin.replicationObjects, Builtin.build, hsources]
  exact ⟨rfl, rfl⟩

/-- For every list of sources, the declared objects and the composite fail alike, at the first entry
that is no source, or are both there.  Then the children are the sources that are named, each once
where it comes first, and each of them asks for the table of its declared object and no other.  The
composite does in every world without a deadline, and in every course in which it returns before
its deadline, what the entries of the declared objects say, and sees nothing else of a snapshot. -/
theorem declared_objects_are_read (settings : Settings) :
    (∃ unknown, FailsAt (Text.parseCommaList settings.replicationSources) unknown ∧
      Builtin.replicationObjects settings = .error (.unknownReplicationSource unknown) ∧
      Builtin.build settings .replication = .error (.unknownReplicationSource unknown)) ∨
    ∃ (objects : List String) (sources : List Source) (c : Composite),
      Builtin.replicationObjects settings = .ok objects ∧
      Builtin.build settings .replication = .ok (.composite c) ∧
      sources.map Source.name = (Text.parseCommaList settings.replicationSources).eraseDups ∧
      Reading objects sources c ∧
      Collecting settings.space objects sources c ∧
      -- in a world without a deadline
      (∀ (world : World) (snapshot : Snapshot) (record : Record),
        (∀ r, (world r).table = snapshot.table) → (world .empty).late = none →
          ∃ runs, Answered settings.space snapshot sources runs ∧
            ((Collector.composite c).run world record).1.samples =
              (c.collect runs record.samples).1 ∧
            ((Collector.composite c).run world record).2 =
              Collector.endingOf (c.collect runs record.samples).2) ∧
      (∀ (world world' : World) (record : Record), (world .empty).late = none →
        (world' .empty).late = none →
        (∀ object ∈ objects, ∀ r, (world' r).table object = (world r).table object) →
          (Collector.composite c).run world' record = (Collector.composite c).run world record) ∧
      -- in a course
      ∀ (sc : Scraper) (past : History) (e : State) (n : Nat) (r : Run) (name : String)
        (h : Handover), Course sc past e → e.runs[n]? = some r →
        sc.units[r.place]? = some (name, .composite c) → r.ending = some h →
        (∀ s, (s, .conclude n) ∈ past → s.isPast r.context.deadline = false) →
          ∃ runs, Answered settings.space r.context.snapshot sources runs ∧
            h.samples = (c.collect runs []).1 ∧ h.result = (c.collect runs []).2 := by
  rcases sourcesOfList_cases settings.replicationSources with ⟨unknown, hfails, herr⟩ |
    ⟨sources, hok, hnames⟩
  · exact Or.inl ⟨unknown, hfails, builtin_of_sourcesOfList herr⟩
  have hsources : Builtin.sources settings = .ok sources := by rw [Builtin.sources, hok]
  refine Or.inr ⟨sources.map Source.object, sources, composite settings.space sources, ?_, ?_,
    hnames, reading_composite _ sources, collecting_composite _ sources, ?_, ?_, ?_⟩
  · rw [Builtin.replicationObjects, hsources]
    rfl
  · rw [Builtin.build, hsources]
    rfl
  · intro world snapshot record hworld hlate
    exact ⟨_, answered_runChildren hworld hlate, rfl, rfl⟩
  · intro world world' record hlate hlate' hsame
    exact run_congr hlate hlate' (fun s hs => hsame _ (List.mem_map_of_mem hs)) record
  · intro sc past e n r name h hc hr hu hh htimely
    exact answered_of_ending hc hr hu hh htimely

/-- A table of two instances for one source, an error for the other. -/
def halfSnapshot : Snapshot :=
  (Snapshot.empty.insert ⟨Source.volume.object,
    [.ofCounters (some "C:") [("Database Lookups", 3)], .ofCounters none []]⟩).insertError
      Source.connection.object (.read Source.connection.object "access denied")

def halfSettings : Settings :=
  { Settings.standard with replicationSources := "volume,, connection,volume" }

def halfScraper : Scraper :=
  .ofUnits "windows" [("dfsr", .composite (composite "windows" [.volume, .connection]))]
    [Source.volume.object, Source.connection.object]

/-- The second child is the first one to end. -/
def halfPlay : History × State :=
  let rows : Rows := fun _ => .ok []
  play halfScraper [] State.initial
    [.begin none, .fetched 0 (.answered (.ok halfSnapshot)), .note 0, .launch 0,
      .childWork 0 1 rows, .send 0 1, .childWork 0 0 rows, .receive 0, .childWork 0 0 rows,
      .send 0 0, .receive 0, .conclude 0]

/-- One of two sources has a table, whether its composite runs by itself or in a scrape. -/
theorem declared_objects_are_read_half :
    Builtin.replicationObjects halfSettings =
      .ok [Source.volume.object, Source.connection.object] ∧
    ∃ c, Builtin.build halfSettings .replication = .ok (.composite c) ∧
      ((Collector.composite c).run (world halfSnapshot) .empty).2 = .failed (.childrenFailed 1 2) ∧
      ∃ r h runs, halfPlay.2.runs[0]? = some r ∧ r.ending = some h ∧
        Answered "windows" halfSnapshot [.volume, .connection] runs ∧
        h.samples = (c.collect runs []).1 ∧ h.result = .error (.childrenFailed 1 2) := by
  have hobjects : Builtin.replicationObjects halfSettings =
      .ok [Source.volume.object, Source.connection.object] := rfl
  have hbuild : Builtin.build halfSettings .replication =
      .ok (.composite (composite "windows" [.volume, .connection])) := rfl
  have hentries : (Text.parseCommaList halfSettings.replicationSources).eraseDups =
      [Source.volume, .connection].map Source.name := by decide
  have habsent : absent halfSnapshot [.volume, .connection] = 1 := by decide
  refine ⟨hobjects, _, hbuild, ?_⟩
  rcases declared_objects_are_read halfSettings with ⟨unknown, -, herr, -⟩ |
    ⟨objects, sources, c, -, hbuild', hnames, -, hcollecting, hworld, -, hcourse⟩
  · cases hobjects.symm.trans herr
  cases hbuild.symm.trans hbuild'
  obtain rfl : sources = [.volume, .connection] :=
    List.map_injective_iff.mpr (fun _ _ => Source.name_injective) (hnames.trans hentries)
  have hresult : ∀ {runs : List Handover},
      Answered "windows" halfSnapshot [.volume, .connection] runs → ∀ prior,
        ((composite "windows" [.volume, .connection]).collect runs prior).2 =
          .error (.childrenFailed 1 2) := by
    intro runs hanswered prior
    rw [hcollecting.collect_eq hanswered, habsent]
    rfl
  refine ⟨?_, ?_⟩
  · obtain ⟨runs, hanswered, -, hending⟩ :=
      hworld (world halfSnapshot) halfSnapshot .empty (fun _ => rfl) rfl
    rw [hending, hresult hanswered]
    rfl
  · have hc : Course halfScraper halfPlay.1 halfPlay.2 := Course.start.play _
    obtain ⟨runs, hanswered, hsamples, hres⟩ :=
      hcourse halfScraper _ _ 0 _ "dfsr" _ hc rfl rfl rfl fun _ _ => rfl
    exact ⟨_, _, runs, rfl, rfl, hanswered, hsamples, hres.trans (hresult hanswered [])⟩

end Engine

end MetricScraper
