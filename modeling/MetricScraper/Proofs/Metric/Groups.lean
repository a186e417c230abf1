import MetricScraper.Engine.State
import MetricScraper.Proofs.Collector.DiskStatus
import MetricScraper.Registry.Builtin

/-!
# All metrics of the program

The metrics stand in groups: those of a collector, those of a source of file replication, and two
groups of figures.  Every full name of a group, less the namespace, begins with the stem of the
group, and no stem begins another one; so a name belongs to one group, and in it to one metric.
-/

namespace MetricScraper

inductive MetricGroup where
  | network
  | diskStatus
  | containers
  | source (s : Replication.Source)
  /-- The figures of the sources, as children of their composite. -/
  | children
  /-- The figures of the collectors. -/
  | units
  deriving DecidableEq, Repr

namespace MetricGroup

def subsystem : MetricGroup → String
  | network => Network.name
  | diskStatus => DiskStatus.name
  | containers => Containers.name
  | source s => Replication.name ++ "_" ++ s.name
  | children => Replication.name
  | units => "exporter"

/-- The metrics of a group as they are declared. -/
def specs : MetricGroup → List MetricSpec
  | network => Network.fields.map Field.spec
  | diskStatus => DiskStatus.diskSpecs ++ DiskStatus.attributeSpecs
  | containers =>
    Containers.available :: (Containers.memoryFields ++ Containers.processorFields ++
      Containers.networkFields).map Field.spec
  | source s => s.fields.map Field.spec
  | children => [durationSpec "Duration of a child collection.",
      successSpec "Whether a child collector succeeded."]
  | units => [durationSpec "Duration of a collection.",
      successSpec "Whether the collector was successful."]

/-- How every name of the group begins after the namespace. -/
def stem : MetricGroup → String
  | network => "net_"
  | diskStatus => "smart_"
  | containers => "container_"
  | source .connection => "dfsr_connection_"
  | source .folder => "dfsr_folder_"
  | source .volume => "dfsr_volume_"
  | children => "dfsr_collector_"
  | units => "exporter_"

/-- What the declared names of the group begin with. -/
def mark : MetricGroup → String
  | children => "collector_"
  | _ => ""

theorem stem_eq (g : MetricGroup) : g.stem = nameLead "" g.subsystem ++ g.mark := by
  cases g with
  | source s => cases s <;> rfl
  | _ => rfl

theorem mark_leads {g : MetricGroup} : ∀ m ∈ g.specs, g.mark.toList <+: m.name.toList := by
  cases g with
  | children => decide
  | _ => exact fun m _ => List.nil_prefix

theorem stem_leads {g : MetricGroup} {m : MetricSpec} (hm : m ∈ g.specs) :
    g.stem.toList <+: (nameLead "" g.subsystem ++ m.name).toList := by
  rw [stem_eq, String.toList_append, String.toList_append]
  exact (List.prefix_append_right_inj _).mpr (mark_leads m hm)

theorem stems_apart {g g' : MetricGroup} (h : g.stem.toList <+: g'.stem.toList) : g = g' := by
  revert h
  cases g with
  | source s =>
    cases g' with
    | source s' => cases s <;> cases s' <;> decide
    | _ => cases s <;> decide
  | _ =>
    cases g' with
    | source s' => cases s' <;> decide
    | _ => decide

theorem specs_named {g : MetricGroup} : ∀ m ∈ g.specs, m.name ≠ "" := by
  cases g with
  | source s => cases s <;> decide
  | _ => decide

theorem specs_names (g : MetricGroup) : (g.specs.map MetricSpec.name).Nodup := by
  cases g with
  | diskStatus => exact DiskStatus.specs_names
  | source s => cases s <;> decide
  | _ => decide

/-! ### Samples of a group -/

/-- A sample of one of the metrics of a group, under a namespace. -/
def Has (space : String) (g : MetricGroup) (x : Sample) : Prop :=
  ∃ m ∈ g.specs, x.descriptor = .ofSpec space g.subsystem m

variable {space : String} {g g' : MetricGroup}

theorem name_of_has {x : Sample} {m : MetricSpec} (hm : m ∈ g.specs)
    (hx : x.descriptor = .ofSpec space g.subsystem m) :
    x.name = nameLead space "" ++ (nameLead "" g.subsystem ++ m.name) := by
  rw [Sample.name, hx, Descriptor.ofSpec, qualifiedName_eq_append _ _ (specs_named m hm),
    nameLead_eq_append, String.append_assoc]

theorem descriptor_of_name {x y : Sample} (hx : g.Has space x) (hy : g'.Has space y)
    (h : x.name = y.name) : g = g' ∧ x.descriptor = y.descriptor := by
  obtain ⟨m, hm, hxm⟩ := hx
  obtain ⟨m', hm', hym⟩ := hy
  have hname := h
  rw [name_of_has hm hxm, name_of_has hm' hym, String.append_right_inj] at hname
  have hgroup : g = g' := by
    -- both stems begin one name, so one of them begins the other
    have hpre := stem_leads hm
    rw [hname] at hpre
    rcases List.prefix_or_prefix_of_prefix hpre (stem_leads hm') with hle | hle
    · exact stems_apart hle
    · exact (stems_apart hle).symm
  subst hgroup
  rw [String.append_right_inj] at hname
  have hmetric := List.inj_on_of_nodup_map g.specs_names hm hm' hname
  exact ⟨rfl, by rw [hxm, hym, hmetric]⟩

theorem has_of_entry {specs : List MetricSpec} {values : List String} {samples : List Sample}
    (h : Entry space g.subsystem specs values samples) (hspecs : ∀ m ∈ specs, m ∈ g.specs) :
    ∀ x ∈ samples, g.Has space x := by
  intro x hx
  obtain ⟨m, hm, hxm⟩ := h.exists_spec hx
  exact ⟨m, hspecs m hm, hxm⟩

/-! ### Stocks -/

/-- Whether the series of a group are apart as soon as the source tells the things apart that are
published.  Interfaces may lose their names to the same label, and one disk may record an attribute
twice. -/
def IsApart (g : MetricGroup) : Prop := g ≠ network ∧ g ≠ diskStatus

instance (g : MetricGroup) : Decidable g.IsApart :=
  inferInstanceAs (Decidable (g ≠ network ∧ g ≠ diskStatus))

/-- Samples of the metrics of some groups.  Under a condition on the source they are of different
series, if the groups are all kept apart. -/
structure Stock (A : Prop) (space : String) (G : MetricGroup → Prop) (out : List Sample) :
    Prop where
  has : ∀ x ∈ out, ∃ g, G g ∧ g.Has space x
  apart : A → (∀ g, G g → g.IsApart) → (out.map Sample.series).Nodup

namespace Stock

variable {A : Prop} {G G' : MetricGroup → Prop} {out out' : List Sample}

theorem nil : Stock A space G [] :=
  ⟨fun _ hx => absurd hx List.not_mem_nil, fun _ _ => List.nodup_nil⟩

theorem mono (h : Stock A space G out) (hG : ∀ g, G g → G' g) : Stock A space G' out where
  has x hx := (h.has x hx).imp fun _ hg => ⟨hG _ hg.1, hg.2⟩
  apart hA hall := h.apart hA fun g hg => hall g (hG g hg)

theorem perm (h : Stock A space G out) (hp : out.Perm out') : Stock A space G out' where
  has x hx := h.has x (hp.mem_iff.mpr hx)
  apart hA hall := (hp.map Sample.series).nodup_iff.mp (h.apart hA hall)

/-- Stocks of different groups have no series in common. -/
theorem disjoint (h : Stock A space G out) (h' : Stock A space G' out')
    (hne : ∀ g, G g → ¬ G' g) : (out.map Sample.series).Disjoint (out'.map Sample.series) := by
  intro key hkey hkey'
  obtain ⟨x, hx, rfl⟩ := List.mem_map.mp hkey
  obtain ⟨y, hy, heq⟩ := List.mem_map.mp hkey'
  obtain ⟨g, hg, hxg⟩ := h.has x hx
  obtain ⟨g', hg', hyg⟩ := h'.has y hy
  have hname : x.name = y.name := (congrArg Prod.fst heq).symm
  obtain ⟨rfl, -⟩ := descriptor_of_name hxg hyg hname
  exact hne g hg hg'

theorem append (h : Stock A space G out) (h' : Stock A space G' out')
    (hne : ∀ g, G g → ¬ G' g) : Stock A space (fun g => G g ∨ G' g) (out ++ out') where
  has x hx := by
    rcases List.mem_append.mp hx with hx | hx
    · obtain ⟨g, hg, hxg⟩ := h.has x hx
      exact ⟨g, Or.inl hg, hxg⟩
    · obtain ⟨g, hg, hxg⟩ := h'.has x hx
      exact ⟨g, Or.inr hg, hxg⟩
  apart hA hall := by
    rw [List.map_append, List.nodup_append']
    exact ⟨h.apart hA fun g hg => hall g (Or.inl hg), h'.apart hA fun g hg => hall g (Or.inr hg),
      h.disjoint h' hne⟩

theorem flatMap {α : Type} {l : List α} {f : α → List Sample} {G : α → MetricGroup → Prop}
    (h : ∀ a ∈ l, Stock A space (G a) (f a))
    (hne : l.Pairwise fun a b => ∀ g, G a g → ¬ G b g) :
    Stock A space (fun g => ∃ a ∈ l, G a g) (l.flatMap f) where
  has x hx := by
    obtain ⟨a, ha, hx⟩ := List.mem_flatMap.mp hx
    obtain ⟨g, hg, hxg⟩ := (h a ha).has x hx
    exact ⟨g, ⟨a, ha, hg⟩, hxg⟩
  apart hA hall := by
    rw [List.map_flatMap, List.nodup_flatMap]
    refine ⟨fun a ha => (h a ha).apart hA fun g hg => hall g ⟨a, ha, hg⟩, hne.imp_of_mem ?_⟩
    intro a b ha hb hab
    exact (h a ha).disjoint (h b hb) hab

/-- Nothing is asked of a group that is not kept apart but that the samples are of its metrics. -/
theorem of_has (hg : ¬ g.IsApart) (h : ∀ x ∈ out, g.Has space x) : Stock A space (· = g) out :=
  ⟨fun x hx => ⟨g, rfl, h x hx⟩, fun _ hall => absurd (hall g rfl) hg⟩

/-- Entries of all metrics of a group, under different label values. -/
theorem of_entries {α : Type} {l : List α} {f : α → List Sample} (valuesOf : α → List String)
    (h : ∀ a ∈ l, Entry space g.subsystem g.specs (valuesOf a) (f a))
    (hvalues : A → l.Pairwise fun a b => valuesOf a ≠ valuesOf b) :
    Stock A space (· = g) (l.flatMap f) where
  has x hx := by
    obtain ⟨a, ha, hx⟩ := List.mem_flatMap.mp hx
    exact ⟨g, rfl, has_of_entry (h a ha) (fun _ hm => hm) x hx⟩
  apart hA _ := Entry.nodup_series_flatMap h specs_named g.specs_names (hvalues hA)

end Stock

end MetricGroup

end MetricScraper
