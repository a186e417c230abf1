import MetricScraper.Exporter.Basic
import MetricScraper.Proofs.Collector.Containers
import MetricScraper.Proofs.Engine.Contributions
import MetricScraper.Proofs.Engine.Independence
import MetricScraper.Proofs.Engine.Keeping
import MetricScraper.Proofs.Exposition.RoundTrip
import MetricScraper.Proofs.Registry.Startup

/-!
# Series of reports

A report is put together from the samples of collectors, those of children, and two kinds of
figures.  Every sample is of one group of metrics, every group comes from one place in the report,
and within the group the labels tell the samples apart as far as the source tells its things apart.
-/

namespace MetricScraper

/-- What can be asked at a moment tells things apart: the instances of an object that is replicated
by their names, containers by their ids, and interfaces of a container by their endpoints. -/
structure Moment.TellsApart (m : Moment) : Prop where
  instances : ∀ (s : Replication.Source) (t : CounterTable), m.table s.object = .ok t →
    (t.instances.map Instance.label).Nodup
  rows : Containers.TellsApart m.rows

/-- The collector that a group is of; the figures of the collectors are of none. -/
def MetricGroup.builtin? : MetricGroup → Option Builtin
  | network => some .network
  | diskStatus => some .diskStatus
  | containers => some .containers
  | source _ => some .replication
  | children => some .replication
  | units => none

open MetricGroup (Stock)
open Replication (Source)

variable {A : Prop}

/-! ### Collectors -/

namespace Builtin

/-- The samples of a collector that works alone are of one group. -/
theorem keeps_of_build {s : Settings} {b : Builtin} {w : Work Unit}
    (hb : b.build s = .ok (.single w)) :
    ∃ g : MetricGroup, g.builtin? = some b ∧
      w.Keeps (fun m => A → m.TellsApart) (Stock A s.space (· = g)) [] := by
  cases b with
  | network =>
    obtain ⟨f, -, hf⟩ := Results.map_eq_ok_iff.mp hb
    cases hf
    exact ⟨.network, rfl, Network.keeps_collect s.space f⟩
  | replication =>
    obtain ⟨ss, -, hss⟩ := Results.map_eq_ok_iff.mp hb
    cases hss
  | diskStatus =>
    cases hb
    exact ⟨.diskStatus, rfl, DiskStatus.keeps_collect s.space s.disk⟩
  | containers =>
    cases hb
    exact ⟨.containers, rfl, Containers.keeps_collect s.space fun _ hm hA => (hm hA).rows⟩

/-- The only composite is that of file replication, and it reads no source twice. -/
theorem composite_of_build {s : Settings} {b : Builtin} {c : Composite}
    (hb : b.build s = .ok (.composite c)) :
    b = replication ∧ ∃ sources : List Source, sources.Nodup ∧
      c = Replication.composite s.space sources := by
  cases b with
  | network =>
    obtain ⟨f, -, hf⟩ := Results.map_eq_ok_iff.mp hb
    cases hf
  | replication =>
    obtain ⟨ss, hss, hcomposite⟩ := Results.map_eq_ok_iff.mp hb
    cases hcomposite
    rw [sources] at hss
    split at hss
    · rename_i found hfound
      cases hss
      exact ⟨rfl, _, Replication.nodup_of_sourcesFrom hfound List.nodup_nil, rfl⟩
    · cases hss
  | diskStatus => cases hb
  | containers => cases hb

end Builtin

/-! ### Figures -/

theorem entry_metaSamples {space subsystem : String} (duration success : MetricSpec) (name : String)
    (elapsed : Duration) (succeeded : Bool) :
    Entry space subsystem [duration, success] [name]
      (metaSamples (.ofSpec space subsystem duration) (.ofSpec space subsystem success) name elapsed
        succeeded) :=
  (Entry.single duration _).append (.single success _)

/-- What file replication hands over: the samples of each source, and its two figures. -/
theorem Replication.stock_of_parts {space : String} {sources : List Source} (hn : sources.Nodup)
    {parts : List Part} (hlen : parts.length = sources.length)
    (hparts : ∀ (j : Nat) (source : Source), sources[j]? = some source →
      ∃ out elapsed succeeded, Stock A space (· = .source source) out ∧
        parts[j]? = some (.ofRun (composite space sources).duration
          (composite space sources).success source.name out elapsed succeeded)) :
    Stock A space (fun g => g.builtin? = some .replication)
      (parts.flatMap fun p => p.samples ++ p.figures) := by
  have hsnd : (sources.zip parts).map Prod.snd = parts := List.map_snd_zip (Nat.le_of_eq hlen)
  have hne : (sources.zip parts).Pairwise fun q q' => q.1 ≠ q'.1 := Places.pairwise_zip hn parts
  have hmem : ∀ q ∈ sources.zip parts, ∃ out elapsed succeeded,
      Stock A space (· = .source q.1) out ∧ q.2 = .ofRun (composite space sources).duration
        (composite space sources).success q.1.name out elapsed succeeded := by
    intro q hq
    obtain ⟨j, hj⟩ := List.mem_iff_getElem?.mp hq
    obtain ⟨hsource, hpart⟩ := List.getElem?_zip_eq_some.mp hj
    obtain ⟨out, elapsed, succeeded, hstock, hofRun⟩ := hparts j q.1 hsource
    exact ⟨out, elapsed, succeeded, hstock, Option.some.inj (hpart.symm.trans hofRun)⟩
  -- every source is a group of its own, and the figures of all sources are one more
  have hsamples : Stock A space (fun g => ∃ q ∈ sources.zip parts, g = .source q.1)
      ((sources.zip parts).flatMap fun q => q.2.samples) := by
    refine .flatMap (fun q hq => ?_) (hne.imp fun hne g hg hg' => ?_)
    · obtain ⟨out, elapsed, succeeded, hstock, hpart⟩ := hmem q hq
      rw [hpart]
      exact hstock
    · exact hne (MetricGroup.source.inj (hg.symm.trans hg'))
  have hfigures : Stock A space (· = .children)
      ((sources.zip parts).flatMap fun q => q.2.figures) := by
    refine .of_entries (fun q => [q.1.name]) (fun q hq => ?_) fun _ => hne.imp ?_
    · obtain ⟨out, elapsed, succeeded, -, hpart⟩ := hmem q hq
      rw [hpart]
      exact entry_metaSamples _ _ _ _ _
    · exact fun hne heq => hne (Source.name_injective (List.singleton_inj.mp heq))
  have hall : Stock A space _ ((sources.zip parts).flatMap fun q => q.2.samples ++ q.2.figures) :=
    (hsamples.append hfigures fun g ⟨q, _, hg⟩ hg' => by cases hg.symm.trans hg').perm
      (List.flatMap_append_perm _ _ _)
  rw [← hsnd, List.flatMap_map]
  refine hall.mono fun g hg => ?_
  rcases hg with ⟨q, -, rfl⟩ | rfl <;> rfl

namespace Engine

/-! ### What the source answers -/

/-- Whatever the source has answered so far tells things apart. -/
structure TellsApart (past : History) : Prop where
  instances : ∀ (e : State) (i : Nat) (snapshot : Snapshot),
    (e, .fetched i (.answered (.ok snapshot))) ∈ past →
    ∀ (s : Source) (t : CounterTable), snapshot.table s.object = .ok t →
      (t.instances.map Instance.label).Nodup
  rows : ∀ (e : State) (m : Move) (rows : Rows), (e, m) ∈ past → m.rows? = some rows →
    Containers.TellsApart rows

variable {sc : Scraper} {past : History} {e : State} {i k n : Nat} {r : Run} {c : Context}

theorem fetched_of_mem {answer : FetchAnswer} (h : .came answer ∈ fetchEnds past i) :
    ∃ e, (e, .fetched i answer) ∈ past := by
  obtain ⟨⟨e, m⟩, hp, hm⟩ := List.mem_filterMap.mp h
  refine ⟨e, ?_⟩
  cases m with
  | fetched j other =>
    by_cases hj : j = i
    · simp only [Move.fetchEnd?, if_pos hj, Option.some.injEq, FetchEnd.came.injEq] at hm
      rw [← hj, ← hm]
      exact hp
    · simp [Move.fetchEnd?, hj] at hm
  | fetchLate j =>
    by_cases hj : j = i <;> simp [Move.fetchEnd?, hj] at hm
  | _ => cases hm

theorem instances_of_given (h : TellsApart past) {snapshot : Snapshot}
    (hg : Given sc (fetchEnds past i) snapshot) {s : Source} {t : CounterTable}
    (ht : snapshot.table s.object = .ok t) : (t.instances.map Instance.label).Nodup := by
  have hget := (snapshot.table_eq_ok_iff s.object t).mp ht
  generalize hends : fetchEnds past i = ends at hg
  cases hg with
  | nothing hd => cases hget
  | snapshot snapshot =>
    obtain ⟨e, he⟩ := fetched_of_mem (hends ▸ List.mem_singleton_self _)
    exact h.instances e i snapshot he s t ht
  | error hall =>
    rw [hall] at hget
    split at hget <;> cases hget
  | late hall =>
    rw [hall] at hget
    split at hget <;> cases hget

theorem tellsApart_moment (hc : Course sc past e) (h : TellsApart past)
    (hr : e.runs[n]? = some r) {p : State × Move} (hp : p ∈ past) {rows : Rows}
    (hrows : p.2.rows? = some rows) : (p.1.moment r.context rows).TellsApart where
  instances s t ht := by
    obtain ⟨scrape, hs, hphase⟩ := context_of_course hc hr
    exact instances_of_given h ((fetched_of_course hc hs).given hphase).1 ht
  rows := h.rows p.1 p.2 rows hp hrows

/-! ### What units contribute -/

/-- What a built-in collector contributes to a report is of its own groups. -/
theorem stock_of_contributes (hc : Course sc past e) {s : Settings}
    {b : Builtin} {name : String} {collector : Collector} (hb : b.build s = .ok collector)
    (hu : sc.units[k]? = some (name, collector)) {x : Start} {out : List Sample}
    (hx : x.Contributes sc past e i k c out) :
    Stock (TellsApart past) s.space (fun g => g.builtin? = some b) out := by
  cases hx with
  | skipped stalled => exact .nil
  | late hg => exact .nil
  | panicked hg hr hserves hj he => exact .nil
  | @single n r _ w t ending hg hr hserves hu' hj he hne hon =>
    cases hu.symm.trans hu'
    obtain ⟨g, hbuiltin, hkeeps⟩ := Builtin.keeps_of_build hb
    have hplace : sc.units[r.place]? = some (name, .single w) := hserves.place ▸ hu
    have hpushed := pushed_of_keeps (o := ⟨n, none⟩) hc hr hplace rfl hkeeps .nil
      fun p hp rows hrows h => tellsApart_moment hc h hr hp hrows
    exact hpushed.mono fun _ hg => hg ▸ hbuiltin
  | @composite n r _ comp s₁ r₁ g parts hg hr hserves hu' hm hr₁ hj hlen hparts =>
    cases hu.symm.trans hu'
    obtain ⟨rfl, sources, hn, rfl⟩ := Builtin.composite_of_build hb
    have hplace : sc.units[r.place]? =
        some (name, .composite (Replication.composite s.space sources)) := hserves.place ▸ hu
    refine Replication.stock_of_parts hn (hlen.trans (List.length_map _)) fun j source hj => ?_
    have hchild : (Replication.composite s.space sources).children[j]? =
        some (source.child s.space) := by
      simp [Replication.composite, Composite.ofChildren, hj]
    obtain ⟨ch, out, succeeded, elapsed, -, hgives, hpart⟩ := hparts j _ hchild
    refine ⟨out, elapsed, succeeded, ?_, hpart⟩
    -- a child that failed, or that nothing has come of, has handed over no samples
    cases hgives with
    | success hs he hon =>
      have hkeeps : (source.child s.space).work.Keeps (fun m => TellsApart past → m.TellsApart)
          (Stock (TellsApart past) s.space (· = .source source)) [] :=
        source.keeps_child s.space fun m t hm ht h => (hm h).instances source t ht
      exact pushed_of_keeps (o := ⟨n, some j⟩) hc hr hplace (by simp [Collector.work?, hchild])
        hkeeps .nil fun p hp rows hrows h => tellsApart_moment hc h hr hp hrows
    | failure hs he hne => exact .nil
    | unsent hs => exact .nil

end Engine

/-! ### Reports -/

/-- What a report has of the units of some names, and the figures of all units. -/
def Report.excerpt (sc : Scraper) (keep : String → Bool) (handovers : List Handover) :
    List Sample :=
  ((sc.units.zip handovers).filter fun u => keep u.1.1).flatMap (fun u => u.2.samples) ++
    (sc.units.zip handovers).flatMap fun u =>
      metaSamples sc.duration sc.success u.1.1 u.2.elapsed u.2.isOk

theorem Report.excerpt_all {sc : Scraper} {handovers : List Handover}
    (hlen : handovers.length = sc.units.length) :
    excerpt sc (fun _ => true) handovers = (ofHandovers sc handovers).samples := by
  have hsnd : (sc.units.zip handovers).map Prod.snd = handovers :=
    List.map_snd_zip (Nat.le_of_eq hlen)
  have hsamples : ((sc.units.zip handovers).filter fun _ => true).flatMap (fun u => u.2.samples) =
      handovers.flatMap Handover.samples := by
    rw [List.filter_true]
    conv_rhs => rw [← hsnd, List.flatMap_map]
  rw [excerpt, hsamples]
  rfl

theorem Report.stock_excerpt {space : String} {units : List (String × Collector)}
    (dependencies : List String) {handovers : List Handover}
    (hn : (units.map Prod.fst).Nodup)
    (h : ∀ q ∈ units.zip handovers, ∃ b : Builtin, b.name = q.1.1 ∧
      Stock A space (fun g => g.builtin? = some b) q.2.samples) (keep : String → Bool) :
    Stock A space (fun g => ∀ b, g.builtin? = some b → keep b.name = true)
      (excerpt (.ofUnits space units dependencies) keep handovers) := by
  have hne : (units.zip handovers).Pairwise fun q q' => q.1.1 ≠ q'.1.1 :=
    Places.pairwise_zip (List.pairwise_map.mp hn) handovers
  have hcollectors : Stock A space
      (fun g => ∃ q ∈ (units.zip handovers).filter fun u => keep u.1.1,
        ∃ b : Builtin, b.name = q.1.1 ∧ g.builtin? = some b)
      (((units.zip handovers).filter fun u => keep u.1.1).flatMap fun u => u.2.samples) := by
    refine .flatMap (fun q hq => ?_) ((hne.filter _).imp ?_)
    · obtain ⟨b, hb, hstock⟩ := h q (List.mem_filter.mp hq).1
      exact hstock.mono fun g hg => ⟨b, hb, hg⟩
    · rintro q q' hne g ⟨b, hb, hg⟩ ⟨b', hb', hg'⟩
      cases hg.symm.trans hg'
      exact hne (hb.symm.trans hb')
  have hfigures : Stock A space (· = .units)
      ((units.zip handovers).flatMap fun u =>
        metaSamples (Scraper.ofUnits space units dependencies).duration
          (Scraper.ofUnits space units dependencies).success u.1.1 u.2.elapsed u.2.isOk) := by
    refine .of_entries (fun u => [u.1.1]) (fun u _ => ?_) fun _ => hne.imp ?_
    · exact entry_metaSamples _ _ _ _ _
    · exact fun hne heq => hne (List.singleton_inj.mp heq)
  refine (hcollectors.append hfigures ?_).mono ?_
  · rintro g ⟨q, -, b, -, hg⟩ rfl
    cases hg
  · rintro g (⟨q, hq, b, hb, hg⟩ | rfl) b' hb'
    · cases hg.symm.trans hb'
      rw [hb]
      exact (List.mem_filter.mp hq).2
    · cases hb'

/-- The lines of help and type that stand before samples of a metric. -/
def Exposition.headText (d : Descriptor) : List Char :=
  helpMark ++ d.name.toList ++ ' ' :: escapeHelp d.help.toList ++ '\n' :: typeMark ++
    d.name.toList ++ ' ' :: d.type.word.toList ++ ['\n']

theorem Exposition.familyText_eq (format : NumberFormat) {family : List Sample}
    (h : IsFamily family) {d : Descriptor} (hd : ∀ s ∈ family, s.descriptor = d) :
    familyText format family = headText d ++ family.flatMap (sampleLine format) := by
  obtain ⟨first, rest, -⟩ := h
  rw [← hd first List.mem_cons_self, familyText, headText]
  simp

/-- The scraper over the collectors that a list of names enables. -/
def Exporter.scraperFor (s : Settings) (names : List String) : Except ConfigError Scraper := do
  let registry ← Builtin.registry s
  let enabled ← registry.resolve names
  let units ← registry.build (Builtin.build s) enabled
  return .ofUnits s.space units (registry.dependencies enabled)

theorem Exporter.scraperOf_eq (s : Settings) : scraperOf s = scraperFor s s.enabledNames := rfl

/-- The units of the scraper are built-in collectors under their names, each at most once. -/
theorem Exporter.units_of_scraperFor {s : Settings} {names : List String} {sc : Scraper}
    (h : scraperFor s names = .ok sc) :
    ∃ units dependencies, sc = .ofUnits s.space units dependencies ∧
      (units.map Prod.fst).Nodup ∧
      ∀ unit ∈ units, ∃ b : Builtin, b.name = unit.1 ∧ b.build s = .ok unit.2 := by
  obtain ⟨r, hr, h⟩ := Results.bind_eq_ok_iff.mp h
  obtain ⟨enabled, hresolve, h⟩ := Results.bind_eq_ok_iff.mp h
  obtain ⟨units, hbuild, h⟩ := Results.bind_eq_ok_iff.mp h
  cases h
  obtain ⟨ss, -, rfl, -⟩ := Builtin.registry_eq_ok hr
  obtain ⟨hnames, hunits⟩ := Builtin.builds_of_ok hbuild
  exact ⟨units, _, rfl, hnames ▸ Registry.nodup_of_resolve hresolve, hunits⟩

namespace Engine

variable {past : History} {e : State}

theorem stock_of_outcome {sc : Scraper} (hc : Course sc past e) {s : Settings} {i k : Nat}
    {scrape : Scrape} (hs : e.scrapes[i]? = some scrape) {c : Context}
    (hphase : scrape.phase = .collecting c) {u : String × Collector}
    (hu : sc.units[k]? = some u) {b : Builtin} (hb : b.build s = .ok u.2) {o : Handover}
    (ho : scrape.outcomes[k]? = some o) :
    Stock (TellsApart past) s.space (fun g => g.builtin? = some b) o.samples := by
  obtain ⟨f, elapsed, hf, rfl⟩ := fares_of_outcome hc hs ho
  obtain ⟨x, -, hx⟩ := contributes_of_fares hc hs hphase hf
  rw [Fate.samples_handover]
  exact stock_of_contributes hc hb hu hx

/-- A report is a stock of the groups of its units and of their figures. -/
theorem stock_of_answer {s : Settings} {names : List String} {sc : Scraper}
    (hsc : Exporter.scraperFor s names = .ok sc) (hc : Course sc past e) {i : Nat}
    {scrape : Scrape} {report : Report} (hs : e.scrapes[i]? = some scrape)
    (ha : scrape.answer? sc = some (.ok report)) (keep : String → Bool) :
    Stock (TellsApart past) s.space (fun g => ∀ b, g.builtin? = some b → keep b.name = true)
      (Report.excerpt sc keep scrape.outcomes) := by
  obtain ⟨units, dependencies, rfl, hn, hunits⟩ := Exporter.units_of_scraperFor hsc
  obtain ⟨c, hphase⟩ := collecting_of_answer? ha
  refine Report.stock_excerpt dependencies hn (fun q hq => ?_) keep
  obtain ⟨k, hk⟩ := List.mem_iff_getElem?.mp hq
  obtain ⟨hu, ho⟩ := List.getElem?_zip_eq_some.mp hk
  obtain ⟨b, hname, hb⟩ := hunits q.1 (List.mem_of_getElem? hu)
  exact ⟨b, hname, stock_of_outcome hc hs hphase hu hb ho⟩

/-- For all settings and names that are accepted, and in every course, samples of one name are of
one metric in the whole report of a scrape, so the lines of help and type that are written for the
first sample of a family are those of each of its samples.  If the source tells its things apart
whenever it answers, no series is there twice among the samples of file replication and its
children, those of containers, and the figures of all collectors. -/
theorem series_apart {s : Settings} {names : List String} {sc : Scraper}
    (hsc : Exporter.scraperFor s names = .ok sc) (hc : Course sc past e) {i : Nat}
    {scrape : Scrape} {report : Report} (hs : e.scrapes[i]? = some scrape)
    (ha : scrape.answer? sc = some (.ok report)) :
    report.samples = Report.excerpt sc (fun _ => true) scrape.outcomes ∧
    (TellsApart past → ((Report.excerpt sc
      (fun name => name == Replication.name || name == Containers.name)
      scrape.outcomes).map Sample.series).Nodup) ∧
    (∀ x ∈ report.samples, ∀ y ∈ report.samples, x.name = y.name → x.descriptor = y.descriptor) ∧
    ∀ format : NumberFormat, ∀ family ∈ families report.samples, ∀ x ∈ family,
      Exposition.familyText format family =
        Exposition.headText x.descriptor ++ family.flatMap (Exposition.sampleLine format) := by
  have hstock := stock_of_answer hsc hc hs ha
  obtain ⟨hlen, rfl⟩ := of_answer? ha
  have hall := Report.excerpt_all hlen
  have hmetric : ∀ x ∈ (Report.ofHandovers sc scrape.outcomes).samples,
      ∀ y ∈ (Report.ofHandovers sc scrape.outcomes).samples,
        x.name = y.name → x.descriptor = y.descriptor := by
    rw [← hall]
    intro x hx y hy hname
    obtain ⟨g, -, hxg⟩ := (hstock fun _ => true).has x hx
    obtain ⟨g', -, hyg⟩ := (hstock fun _ => true).has y hy
    exact (MetricGroup.descriptor_of_name hxg hyg hname).2
  refine ⟨hall.symm, fun htells => (hstock _).apart htells fun g hg => ?_, hmetric, ?_⟩
  -- the excerpt leaves out the two groups that are not kept apart
  · constructor <;> rintro rfl
    · exact absurd (hg .network rfl) (by decide)
    · exact absurd (hg .diskStatus rfl) (by decide)
  · intro format family hfamily x hx
    have hf : Exposition.IsFamily family := Exposition.isFamily_of_mem hfamily
    refine Exposition.familyText_eq format hf fun y hy => ?_
    exact hmetric y (Exposition.mem_of_mem_family hfamily hy) x
      (Exposition.mem_of_mem_family hfamily hx) (hf.name_eq hy hx)

/-! ### Two containers and two volumes -/

def smallSettings : Settings :=
  { Settings.standard with collectors := "dfsr,container", replicationSources := "volume" }

def systemRows : List Row := [
  ⟨[("Id", .text "a"), ("Type", .text "Container")]⟩,
  ⟨[("Id", .text "b"), ("Type", .text "Container")]⟩,
  ⟨[("Id", .text "b"), ("Type", .text "VirtualMachine")]⟩]

def rowOfOnes (texts : List (String × Value)) (fields : List Field) : Row :=
  ⟨texts ++ fields.map fun f => (f.counter, .unsigned 1)⟩

/-- Two interfaces of one container, and one of the other that goes by the same endpoint. -/
def networkRows : List Row :=
  [("a", "eth0"), ("a", "eth1"), ("b", "eth0")].map fun (id, endpoint) =>
    rowOfOnes [("ContainerId", .text id), ("EndpointId", .text endpoint)] Containers.networkFields

def statisticsRows : List Row :=
  ["a", "b"].map fun id =>
    rowOfOnes [("Id", .text id)] (Containers.memoryFields ++ Containers.processorFields)

def twoContainers : Rows := fun q =>
  .ok (if q = Containers.systemQuery then systemRows
    else if q = Containers.networkQuery then networkRows else statisticsRows)

def twoVolumes : Snapshot :=
  Snapshot.empty.insert ⟨Source.volume.object,
    [.ofCounters (some "C:") [("Database Lookups", 3)], .ofCounters none [("Database Lookups", 4)]]⟩

def smallMoves : List Move :=
  [.begin none, .fetched 0 (.answered (.ok twoVolumes)), .note 0, .launch 0, .note 0, .launch 0,
    .childWork 0 0 twoContainers, .childWork 0 0 twoContainers, .send 0 0, .receive 0, .conclude 0,
    .release 0, .deliver 0] ++
  List.replicate 8 (.work 1 twoContainers) ++
  [.conclude 1, .release 1, .deliver 1, .collect 0, .collect 0]

def smallPlay : History × State := play mixedScraper [] State.initial smallMoves

theorem twoContainers_tellsApart : Containers.TellsApart twoContainers where
  ids rows h := by
    have hrows : systemRows = rows := Except.ok.inj h
    rw [← hrows]
    decide
  endpoints rows h := by
    have hrows : networkRows = rows := Except.ok.inj h
    rw [← hrows]
    decide

theorem smallPlay_tellsApart : TellsApart smallPlay.1 where
  instances e i snapshot hm s t ht := by
    have hmoves : .fetched i (.answered (.ok snapshot)) ∈ smallMoves :=
      (mem_play hm).resolve_left List.not_mem_nil
    obtain ⟨rfl, rfl⟩ : i = 0 ∧ snapshot = twoVolumes := by simpa [smallMoves] using hmoves
    cases s with
    | volume =>
      cases ht
      decide
    | _ => cases ht
  rows e m rows hm hrows := by
    have hmoves : m ∈ smallMoves := (mem_play hm).resolve_left List.not_mem_nil
    have hsame : rows = twoContainers := by
      cases m with
      | work n rows' =>
        cases hrows
        exact (show n = 1 ∧ rows = twoContainers by simpa [smallMoves] using hmoves).2
      | childWork n k rows' =>
        cases hrows
        exact (show n = 0 ∧ k = 0 ∧ rows = twoContainers by simpa [smallMoves] using hmoves).2.2
      | _ => cases hrows
    rw [hsame]
    exact twoContainers_tellsApart

theorem series_apart_small :
    ∃ scrape report, Exporter.scraperOf smallSettings = .ok mixedScraper ∧
      smallPlay.2.scrapes[0]? = some scrape ∧ scrape.answer? mixedScraper = some (.ok report) ∧
      report.samples.length = 40 ∧ TellsApart smallPlay.1 ∧
      ((Report.excerpt mixedScraper
        (fun name => name == Replication.name || name == Containers.name)
        scrape.outcomes).map Sample.series).Nodup := by
  have hsc : Exporter.scraperOf smallSettings = .ok mixedScraper := rfl
  have hc : Course mixedScraper smallPlay.1 smallPlay.2 := Course.start.play _
  obtain ⟨-, hapart, -⟩ :=
    series_apart ((Exporter.scraperOf_eq _).symm.trans hsc) hc (i := 0) rfl rfl
  exact ⟨_, _, hsc, rfl, rfl, rfl, smallPlay_tellsApart, hapart smallPlay_tellsApart⟩

end Engine

end MetricScraper
