import Mathlib.Data.List.Forall2
import Mathlib.Data.List.Nodup
import MetricScraper.Proofs.Collector.Parts
import MetricScraper.Registry.Builtin

/-!
# Sources of file replication

The objects that file replication declares and the children that read them are made from one and
the same text, by two separate paths.  They stay in step: each child reads one declared object, and
what it hands over depends on the entry of that object alone.
-/

namespace MetricScraper

namespace Replication

variable {space : String} {sources : List Source} {snapshot snapshot' : Snapshot}

/-! ### The text -/

theorem Source.name_injective {s s' : Source} (h : s.name = s'.name) : s = s' := by
  cases s <;> cases s' <;> first | rfl | simp [Source.name] at h

theorem Source.name_of_ofName? {n : String} {s : Source} (h : Source.ofName? n = some s) :
    s.name = n := by
  simpa using List.find?_some h

theorem Source.name_ne_of_ofName? {n : String} (h : Source.ofName? n = none) (s : Source) :
    s.name ≠ n := by
  have hall := List.find?_eq_none.mp h
  have hs : s ∈ [Source.connection, .folder, .volume] := by cases s <;> decide
  simpa using hall s hs

theorem names_addSource (acc : List Source) (s : Source) :
    (addSource acc s).map Source.name =
      if s.name ∈ acc.map Source.name then acc.map Source.name
      else acc.map Source.name ++ [s.name] := by
  have hmem : s.name ∈ acc.map Source.name ↔ s ∈ acc := by
    rw [List.mem_map]
    exact ⟨fun ⟨s', hs', h⟩ => Source.name_injective h ▸ hs', fun h => ⟨s, h, rfl⟩⟩
  simp only [addSource, List.contains_iff_mem, hmem]
  split <;> simp

/-- What is new in a list of names, each name once where it comes first. -/
def fresh (seen names : List String) : List String := (names.filter fun n => n ∉ seen).eraseDups

theorem append_fresh_cons (seen names : List String) (n : String) :
    seen ++ fresh seen (n :: names) =
      (if n ∈ seen then seen else seen ++ [n]) ++
        fresh (if n ∈ seen then seen else seen ++ [n]) names := by
  by_cases hmem : n ∈ seen
  · simp [fresh, hmem]
  · have hfilter : (names.filter fun m => m ∉ seen).filter (fun m => !m == n) =
        names.filter fun m => m ∉ seen ++ [n] := by
      rw [List.filter_filter]
      refine List.filter_congr fun m _ => ?_
      by_cases hm : m = n <;> simp [hm]
    rw [if_neg hmem, fresh, List.filter_cons_of_pos (by simpa using hmem), List.eraseDups_cons,
      hfilter, fresh, List.append_assoc, List.singleton_append]

theorem fresh_nil (names : List String) : fresh [] names = names.eraseDups := by
  simp [fresh]

/-- A list of names fails at the first that is none of a source. -/
def FailsAt (names : List String) (unknown : String) : Prop :=
  ∃ before after, names = before ++ unknown :: after ∧
    (∀ n ∈ before, ∃ s : Source, s.name = n) ∧ ∀ s : Source, s.name ≠ unknown

/-- Names are read up to the first that is none of a source; otherwise each source that is named
and not there yet is added once, where it is named first. -/
theorem sourcesFrom_cases (acc : List Source) (names : List String) :
    (∃ unknown, FailsAt names unknown ∧ sourcesFrom acc names = .error unknown) ∨
      ∃ sources, sourcesFrom acc names = .ok sources ∧
        sources.map Source.name = acc.map Source.name ++ fresh (acc.map Source.name) names := by
  induction names generalizing acc with
  | nil => exact Or.inr ⟨acc, rfl, (List.append_nil _).symm⟩
  | cons n names ih =>
    cases hn : Source.ofName? n with
    | none =>
      refine Or.inl ⟨n, ⟨[], names, rfl, ?_, Source.name_ne_of_ofName? hn⟩, ?_⟩
      · exact fun m hm => absurd hm List.not_mem_nil
      · rw [sourcesFrom, hn]
    | some s =>
      have hname := Source.name_of_ofName? hn
      have hstep : sourcesFrom acc (n :: names) = sourcesFrom (addSource acc s) names := by
        rw [sourcesFrom, hn]
      rw [hstep]
      rcases ih (addSource acc s) with ⟨unknown, ⟨before, after, rfl, hall, hno⟩, herr⟩ |
        ⟨sources, hok, hnames⟩
      · refine Or.inl ⟨unknown, ⟨n :: before, after, rfl, ?_, hno⟩, herr⟩
        intro m hm
        rcases List.mem_cons.mp hm with rfl | hm
        · exact ⟨s, hname⟩
        · exact hall m hm
      · refine Or.inr ⟨sources, hok, ?_⟩
        rw [hnames, names_addSource, hname, append_fresh_cons]

theorem sourcesOfList_cases (list : String) :
    (∃ unknown, FailsAt (Text.parseCommaList list) unknown ∧
      sourcesOfList list = .error unknown) ∨
        ∃ sources, sourcesOfList list = .ok sources ∧
          sources.map Source.name = (Text.parseCommaList list).eraseDups := by
  rcases sourcesFrom_cases [] (Text.parseCommaList list) with herr | ⟨sources, hok, hnames⟩
  · exact Or.inl herr
  · exact Or.inr ⟨sources, hok, hnames.trans (fresh_nil _)⟩

theorem nodup_addSource {acc : List Source} (h : acc.Nodup) (s : Source) :
    (addSource acc s).Nodup := by
  rw [addSource]
  split
  · exact h
  · rename_i hnew
    have hs : s ∉ acc := by simpa using hnew
    exact h.append (List.nodup_singleton s) (List.disjoint_singleton.mpr hs)

theorem nodup_of_sourcesFrom {names : List String} {acc sources : List Source}
    (h : sourcesFrom acc names = .ok sources) (hacc : acc.Nodup) : sources.Nodup := by
  induction names generalizing acc with
  | nil =>
    cases h
    exact hacc
  | cons n names ih =>
    rw [sourcesFrom] at h
    split at h
    · exact ih h (nodup_addSource hacc _)
    · cases h

end Replication

/-! ### What a work reads -/

/-- The objects whose tables a work may ask for. -/
inductive Work.Reads {α : Type} (object : String) : Work α → Prop where
  | ask (next : CounterTable → Work α) : Reads object (.table object next)
  | table {other : String} {next : CounterTable → Work α} (t : CounterTable)
      (h : (next t).Reads object) : Reads object (.table other next)
  | rows {query : Query} {next : List Row → Work α} (rows : List Row)
      (h : (next rows).Reads object) : Reads object (.rows query next)
  | push {rest : Work α} (samples : List Sample) (h : rest.Reads object) :
      Reads object (.push samples rest)
  | log {rest : Work α} (entry : LogEntry) (h : rest.Reads object) : Reads object (.log entry rest)
  | check {rest : Work α} (h : rest.Reads object) : Reads object (.check rest)
  | await {rest : Work α} (gate : String) (h : rest.Reads object) :
      Reads object (.await gate rest)

namespace Replication

variable {space : String} {sources : List Source} {snapshot snapshot' : Snapshot}
  {runs runs' : List Handover}

theorem Source.reads_child_iff {s : Source} {object : String} :
    (s.child space).work.Reads object ↔ object = s.object := by
  constructor
  · intro h
    cases h with
    | ask next => rfl
    | table t h =>
      -- what is asked for comes before the samples, and nothing comes after them
      cases h with
      | push samples h => cases h
  · rintro rfl
    exact .ask _

/-! ### What a child hands over -/

/-- The samples of a source: for each instance of its table those of the fields whose counter is
there, in the order of the fields, labelled with the name of the instance. -/
def Source.data (space : String) (s : Source) (t : CounterTable) : List Sample :=
  t.instances.flatMap fun i => s.fields.filterMap fun f =>
    (i.counter? f.counter).map fun value =>
      ⟨.ofSpec space (Replication.name ++ "_" ++ s.name) f.spec, value, [i.name.getD ""]⟩

theorem Source.collectTable_eq (s : Source) (t : CounterTable) :
    (s.table space).collectTable t = s.data space t := by
  rw [FieldTable.collectTable, Source.data]
  refine List.flatMap_congr fun i _ => ?_
  rw [FieldTable.instanceSamples, Source.table, FieldTable.ofFields, List.filterMap_map]
  rfl

/-- What the child of a source hands over, by the entry of the source's object in a snapshot. -/
inductive Source.Answers (space : String) (snapshot : Snapshot) (s : Source) : Handover → Prop where
  | table {t : CounterTable} (h : snapshot.get? s.object = some (.ok t)) (elapsed : Duration) :
      Answers space snapshot s ⟨s.data space t, .ok (), elapsed⟩
  | error {e : FetchError} (h : snapshot.get? s.object = some (.error e)) (elapsed : Duration) :
      Answers space snapshot s ⟨[], .error (.fetch e), elapsed⟩
  | missing (h : snapshot.get? s.object = none) (elapsed : Duration) :
      Answers space snapshot s ⟨[], .error (.missingObject s.object), elapsed⟩

/-- The child of a source that runs on a snapshot, at whatever times. -/
theorem Source.answers_of_run (s : Source) {world : World}
    (hworld : ∀ r, (world r).table = snapshot.table) (elapsed : Duration) :
    s.Answers space snapshot (.ofEnding ((s.child space).work.run world .empty).1.samples elapsed
      ((s.child space).work.run world .empty).2) := by
  simp only [Source.child, Work.run, hworld, Snapshot.table]
  cases hget : snapshot.get? s.object with
  | none => exact .missing hget elapsed
  | some answer =>
    cases answer with
    | error e => exact .error hget elapsed
    | ok t =>
      have h : s.Answers space snapshot ⟨s.data space t, .ok (), elapsed⟩ := .table hget elapsed
      rw [← s.collectTable_eq] at h
      exact h

/-- Whether a snapshot has a table for a source. -/
def Source.isThere (snapshot : Snapshot) (s : Source) : Bool :=
  match snapshot.get? s.object with
  | some (.ok _) => true
  | _ => false

theorem Source.Answers.isOk_eq {s : Source} {o : Handover} (h : s.Answers space snapshot o) :
    o.isOk = s.isThere snapshot := by
  cases h with
  | table h elapsed => simp [isThere, h, Handover.isOk]
  | error h elapsed => simp [isThere, h, Handover.isOk]
  | missing h elapsed => simp [isThere, h, Handover.isOk]

theorem Source.Answers.samples_eq {s : Source} {o : Handover} (h : s.Answers space snapshot o) :
    (if o.isOk then o.samples else []) = o.samples := by
  cases h <;> simp [Handover.isOk]

/-- A child hands over the same for two snapshots that agree on its object, but for the time. -/
theorem Source.Answers.congr {s : Source} {o o' : Handover} (h : s.Answers space snapshot o)
    (h' : s.Answers space snapshot' o')
    (hsame : snapshot'.get? s.object = snapshot.get? s.object) :
    o'.samples = o.samples ∧ o'.result = o.result := by
  cases h with
  | table hget elapsed =>
    rw [hget] at hsame
    cases h' with
    | table hget' elapsed' =>
      cases hget'.symm.trans hsame
      exact ⟨rfl, rfl⟩
    | error hget' elapsed' => cases hget'.symm.trans hsame
    | missing hget' elapsed' => cases hget'.symm.trans hsame
  | error hget elapsed =>
    rw [hget] at hsame
    cases h' with
    | table hget' elapsed' => cases hget'.symm.trans hsame
    | error hget' elapsed' =>
      cases hget'.symm.trans hsame
      exact ⟨rfl, rfl⟩
    | missing hget' elapsed' => cases hget'.symm.trans hsame
  | missing hget elapsed =>
    rw [hget] at hsame
    cases h' with
    | table hget' elapsed' => cases hget'.symm.trans hsame
    | error hget' elapsed' => cases hget'.symm.trans hsame
    | missing hget' elapsed' => exact ⟨rfl, rfl⟩

/-! ### What the composite collects -/

/-- The runs of the children of all sources, each of which has handed over what its source's entry
in a snapshot says. -/
def Answered (space : String) (snapshot : Snapshot) (sources : List Source)
    (runs : List Handover) : Prop :=
  List.Forall₂ (fun s o => s.Answers space snapshot o) sources runs

theorem parts_of_answered (h : Answered space snapshot sources runs) :
    (composite space sources).parts runs = (sources.zip runs).map fun p =>
      .ofRun (composite space sources).duration (composite space sources).success p.1.name
        p.2.samples p.2.elapsed (p.1.isThere snapshot) := by
  have hchildren : (composite space sources).children = sources.map (Source.child space) := rfl
  rw [Composite.parts, hchildren, List.zip_map_left, List.map_map]
  refine List.map_congr_left fun p hmem => ?_
  obtain ⟨s, o⟩ := p
  have ho : s.Answers space snapshot o := List.forall₂_zip h hmem
  have hpart : ∀ child : Child, (composite space sources).part child o =
      .ofRun (composite space sources).duration (composite space sources).success child.name
        o.samples o.elapsed (s.isThere snapshot) := by
    intro child
    rw [Composite.part, ho.samples_eq, ho.isOk_eq]
  exact hpart (s.child space)

/-- The number of sources that a snapshot has no table for. -/
def absent (snapshot : Snapshot) (sources : List Source) : Nat :=
  sources.countP fun s => !s.isThere snapshot

theorem countP_parts (h : Answered space snapshot sources runs) :
    ((composite space sources).parts runs).countP Part.hasFailed = absent snapshot sources := by
  have hfst : (sources.zip runs).map Prod.fst = sources :=
    List.map_fst_zip (Nat.le_of_eq h.length_eq)
  rw [parts_of_answered h, List.countP_map, absent]
  conv_rhs => rw [← hfst, List.countP_map]
  refine List.countP_congr fun p _ => ?_
  simp only [Function.comp_apply, Part.hasFailed_ofRun]

/-- The composite appends the samples of each source with its two figures, source after source, and
succeeds if every source has a table. -/
theorem collect_of_answered (h : Answered space snapshot sources runs) (prior : List Sample) :
    (composite space sources).collect runs prior =
      (prior ++ ((composite space sources).parts runs).flatMap fun p => p.samples ++ p.figures,
        if absent snapshot sources = 0 then .ok ()
        else .error (.childrenFailed (absent snapshot sources) sources.length)) := by
  have hlen : (composite space sources).children.length = sources.length := List.length_map _
  rw [Composite.collect_eq, countP_parts h, hlen]

/-! ### Two snapshots -/

/-- What a run hands over, but for the time. -/
def untimed (o : Handover) : List Sample × Except CollectError Unit := (o.samples, o.result)

theorem untimed_congr (h : Answered space snapshot sources runs)
    (h' : Answered space snapshot' sources runs')
    (hsame : ∀ s ∈ sources, snapshot'.get? s.object = snapshot.get? s.object) :
    runs'.map untimed = runs.map untimed := by
  induction h generalizing runs' with
  | nil =>
    cases h'
    rfl
  | @cons s o sources runs ho h ih =>
    cases h' with
    | @cons _ o' _ runs' ho' h' =>
      obtain ⟨hsamples, hresult⟩ := ho.congr ho' (hsame s List.mem_cons_self)
      have hrest := ih h' fun s' hs' => hsame s' (List.mem_cons_of_mem _ hs')
      rw [List.map_cons, List.map_cons, hrest, untimed, untimed, hsamples, hresult]

theorem absent_congr (hsame : ∀ s ∈ sources, snapshot'.get? s.object = snapshot.get? s.object) :
    absent snapshot' sources = absent snapshot sources := by
  refine List.countP_congr fun s hs => ?_
  rw [Source.isThere, Source.isThere, hsame s hs]

/-- No child misses an object if every object that is declared has an entry. -/
theorem ne_missingObject (h : Answered space snapshot sources runs)
    (hall : ∀ s ∈ sources, snapshot.get? s.object ≠ none) :
    ∀ o ∈ runs, ∀ object, o.result ≠ .error (.missingObject object) := by
  induction h with
  | nil => exact fun o ho => absurd ho List.not_mem_nil
  | @cons s o sources runs ho h ih =>
    intro o' ho' object
    rcases List.mem_cons.mp ho' with rfl | ho'
    · cases ho with
      | table hget elapsed => exact nofun
      | error hget elapsed => exact nofun
      | missing hget elapsed => exact absurd hget (hall s List.mem_cons_self)
    · exact ih (fun s' hs' => hall s' (List.mem_cons_of_mem _ hs')) o' ho' object

/-! ### Running alone -/

/-- A world with the tables of a snapshot, without any rows and without a deadline. -/
def world (snapshot : Snapshot) : World := fun _ =>
  ⟨snapshot.table, fun _ => .ok [], none, fun _ => false⟩

theorem answered_runChildren {world : World} (hworld : ∀ r, (world r).table = snapshot.table)
    (hlate : (world .empty).late = none) :
    Answered space snapshot sources
      (Collector.runChildren world (composite space sources)) := by
  have hruns : Collector.runChildren world (composite space sources) =
      sources.map fun s => Collector.runChild world (s.child space) := by
    rw [Collector.runChildren, hlate, composite, Composite.ofChildren, List.map_map]
    rfl
  rw [hruns, Answered, List.forall₂_map_right_iff, List.forall₂_same]
  exact fun s _ => s.answers_of_run hworld 0

theorem runChild_congr {s : Source} {world world' : World}
    (hsame : ∀ r, (world' r).table s.object = (world r).table s.object) :
    Collector.runChild world' (s.child space) = Collector.runChild world (s.child space) := by
  simp only [Collector.runChild, Source.child, Work.run, hsame]
  cases (world .empty).table s.object with
  | error e => rfl
  | ok t => rfl

/-- All that the composite sees of a world without a deadline is the answers for its objects. -/
theorem run_congr {world world' : World} (hlate : (world .empty).late = none)
    (hlate' : (world' .empty).late = none)
    (hsame : ∀ s ∈ sources, ∀ r, (world' r).table s.object = (world r).table s.object)
    (record : Record) :
    (Collector.composite (composite space sources)).run world' record =
      (Collector.composite (composite space sources)).run world record := by
  have hchildren : (composite space sources).children = sources.map (Source.child space) := rfl
  have hruns : Collector.runChildren world' (composite space sources) =
      Collector.runChildren world (composite space sources) := by
    rw [Collector.runChildren, Collector.runChildren, hlate, hlate', hchildren]
    dsimp only
    rw [List.map_map, List.map_map]
    exact List.map_congr_left fun s hs => runChild_congr (hsame s hs)
  rw [Collector.run, hruns, Collector.run]

/-! ### Objects, sources and the composite -/

/-- A composite has a child for each source, and the children ask for the tables of the declared
objects, each for the one of its source. -/
structure Reading (objects : List String) (sources : List Source) (c : Composite) : Prop where
  objects_eq : objects = sources.map Source.object
  reads_iff : ∀ object, object ∈ objects ↔ ∃ child ∈ c.children, child.work.Reads object
  length_eq : c.children.length = sources.length
  child : ∀ {k : Nat} {s : Source} {child : Child}, sources[k]? = some s →
    c.children[k]? = some child →
      child.name = s.name ∧ ∀ object, child.work.Reads object ↔ object = s.object

/-- What a composite makes of what its children have handed over.  It depends on the entries of the
declared objects alone, and no child misses its object if each of them has one. -/
structure Collecting (space : String) (objects : List String) (sources : List Source)
    (c : Composite) : Prop where
  collect_eq : ∀ {snapshot : Snapshot} {runs : List Handover},
    Answered space snapshot sources runs → ∀ prior, c.collect runs prior =
      (prior ++ (sources.zip runs).flatMap fun p =>
          p.2.samples ++
            metaSamples c.duration c.success p.1.name p.2.elapsed (p.1.isThere snapshot),
        if absent snapshot sources = 0 then .ok ()
        else .error (.childrenFailed (absent snapshot sources) sources.length))
  ne_missingObject : ∀ {snapshot : Snapshot} {runs : List Handover},
    Answered space snapshot sources runs → (∀ object ∈ objects, snapshot.get? object ≠ none) →
      ∀ o ∈ runs, ∀ object, o.result ≠ .error (.missingObject object)
  congr : ∀ {snapshot snapshot' : Snapshot} {runs runs' : List Handover},
    Answered space snapshot sources runs → Answered space snapshot' sources runs' →
      (∀ object ∈ objects, snapshot'.get? object = snapshot.get? object) →
        runs'.map untimed = runs.map untimed ∧
          ∀ prior prior', (c.collect runs' prior').2 = (c.collect runs prior).2

theorem reading_composite (space : String) (sources : List Source) :
    Reading (sources.map Source.object) sources (composite space sources) := by
  refine ⟨rfl, ?_, List.length_map _, ?_⟩
  · intro object
    rw [List.mem_map]
    constructor
    · rintro ⟨s, hs, rfl⟩
      exact ⟨s.child space, List.mem_map_of_mem hs, Source.reads_child_iff.mpr rfl⟩
    · rintro ⟨child, hmem, hreads⟩
      obtain ⟨s, hs, rfl⟩ := List.mem_map.mp hmem
      exact ⟨s, hs, (Source.reads_child_iff.mp hreads).symm⟩
  · intro k s child hs hk
    have hk' : (sources.map (Source.child space))[k]? = some child := hk
    rw [List.getElem?_map, hs, Option.map_some, Option.some.injEq] at hk'
    subst hk'
    exact ⟨rfl, fun object => Source.reads_child_iff⟩

theorem collecting_composite (space : String) (sources : List Source) :
    Collecting space (sources.map Source.object) sources (composite space sources) := by
  have hobject : ∀ s ∈ sources, s.object ∈ sources.map Source.object :=
    fun s hs => List.mem_map_of_mem hs
  refine ⟨?_, ?_, ?_⟩
  · intro snapshot runs hanswered prior
    rw [collect_of_answered hanswered, parts_of_answered hanswered, List.flatMap_map]
    rfl
  · intro snapshot runs hanswered hall
    exact ne_missingObject hanswered fun s hs => hall _ (hobject s hs)
  · intro snapshot snapshot' runs runs' hanswered hanswered' hsame
    have hsame' := fun s hs => hsame _ (hobject s hs)
    refine ⟨untimed_congr hanswered hanswered' hsame', ?_⟩
    intro prior prior'
    rw [collect_of_answered hanswered, collect_of_answered hanswered', absent_congr hsame']

end Replication

end MetricScraper
