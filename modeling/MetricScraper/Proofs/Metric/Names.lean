import Mathlib.Data.List.Nodup
import MetricScraper.Metric.FieldTable

/-!
# Names and series

Metrics of one namespace and subsystem have one name only if they were declared under one name.  A
series is a name with the values of its labels.  What is published of one thing, a disk, an
instance, a container, is an entry: samples of some metrics, each at most once, under the same
label values; so they are of different series as soon as the metrics are named apart.
-/

namespace MetricScraper

/-! ### Full names of metrics -/

/-- What stands before the last part of a full name. -/
def nameLead (space subsystem : String) : String :=
  String.join (([space, subsystem].filter fun part => !part.isEmpty).map (· ++ "_"))

theorem qualifiedName_eq_append (space subsystem : String) {name : String} (h : name ≠ "") :
    qualifiedName space subsystem name = nameLead space subsystem ++ name := by
  have hname : name.isEmpty = false := by simpa using h
  by_cases hspace : space = "" <;> by_cases hsub : subsystem = "" <;>
    simp [qualifiedName, nameLead, hname, hspace, hsub, String.intercalate_cons_cons,
      String.append_assoc]

theorem qualifiedName_inj {space subsystem name name' : String} (h : name ≠ "") (h' : name' ≠ "")
    (heq : qualifiedName space subsystem name = qualifiedName space subsystem name') :
    name = name' := by
  rw [qualifiedName_eq_append space subsystem h, qualifiedName_eq_append space subsystem h'] at heq
  exact String.append_right_inj _ |>.mp heq

theorem nameLead_eq_append (space subsystem : String) :
    nameLead space subsystem = nameLead space "" ++ nameLead "" subsystem := by
  by_cases hspace : space = "" <;> by_cases hsub : subsystem = "" <;>
    simp [nameLead, hspace, hsub]

/-! ### Series -/

namespace Sample

/-- What tells a series apart. -/
def series (x : Sample) : String × List String := (x.name, x.labelValues)

theorem disjoint_series {xs ys : List Sample}
    (h : ∀ x ∈ xs, ∀ y ∈ ys, x.labelValues ≠ y.labelValues) :
    (xs.map series).Disjoint (ys.map series) := by
  intro key hkey hkey'
  obtain ⟨x, hx, rfl⟩ := List.mem_map.mp hkey
  obtain ⟨y, hy, heq⟩ := List.mem_map.mp hkey'
  exact h x hx y hy (congrArg Prod.snd heq).symm

end Sample

/-! ### Entries -/

/-- Samples of some of the metrics, each at most once and in order, under the same label values. -/
structure Entry (space subsystem : String) (specs : List MetricSpec) (values : List String)
    (samples : List Sample) : Prop where
  descriptors : (samples.map Sample.descriptor).Sublist
    (specs.map (Descriptor.ofSpec space subsystem))
  values : ∀ x ∈ samples, x.labelValues = values

namespace Entry

variable {space subsystem : String} {specs specs' : List MetricSpec} {values : List String}
  {samples samples' : List Sample}

theorem nil : Entry space subsystem specs values [] :=
  ⟨List.nil_sublist _, fun _ hx => absurd hx List.not_mem_nil⟩

theorem single (spec : MetricSpec) (value : Float) :
    Entry space subsystem [spec] values [⟨.ofSpec space subsystem spec, value, values⟩] :=
  ⟨.refl _, fun _ hx => by rw [List.mem_singleton.mp hx]⟩

theorem append (h : Entry space subsystem specs values samples)
    (h' : Entry space subsystem specs' values samples') :
    Entry space subsystem (specs ++ specs') values (samples ++ samples') := by
  refine ⟨?_, fun x hx => ?_⟩
  · rw [List.map_append, List.map_append]
    exact h.descriptors.append h'.descriptors
  · rcases List.mem_append.mp hx with hx | hx
    · exact h.values x hx
    · exact h'.values x hx

/-- One sample for everything that has a value. -/
theorem filterMap {α : Type} (spec : α → MetricSpec) (value? : α → Option Float) (l : List α) :
    Entry space subsystem (l.map spec) values
      (l.filterMap fun a => (value? a).map fun v =>
        ⟨.ofSpec space subsystem (spec a), v, values⟩) := by
  induction l with
  | nil => exact .nil
  | cons a l ih =>
    rw [List.map_cons, List.filterMap_cons]
    cases value? a with
    | none => exact ⟨ih.descriptors.cons _, ih.values⟩
    | some v => exact (single (spec a) v).append ih

theorem option (spec : MetricSpec) (value : Option Float) :
    Entry space subsystem [spec] values
      (value.map fun v => ⟨.ofSpec space subsystem spec, v, values⟩).toList := by
  cases value with
  | none => exact nil
  | some v => exact single spec v

theorem exists_spec (h : Entry space subsystem specs values samples) {x : Sample}
    (hx : x ∈ samples) : ∃ m ∈ specs, x.descriptor = .ofSpec space subsystem m := by
  obtain ⟨m, hm, heq⟩ := List.mem_map.mp (h.descriptors.subset (List.mem_map_of_mem hx))
  exact ⟨m, hm, heq.symm⟩

theorem nodup_series (h : Entry space subsystem specs values samples)
    (hne : ∀ m ∈ specs, m.name ≠ "") (hnames : (specs.map MetricSpec.name).Nodup) :
    (samples.map Sample.series).Nodup := by
  have hfull : ((specs.map (Descriptor.ofSpec space subsystem)).map Descriptor.name).Nodup := by
    rw [List.map_map]
    refine hnames.of_map.map_on fun m hm m' hm' heq => ?_
    exact List.inj_on_of_nodup_map hnames hm hm' (qualifiedName_inj (hne m hm) (hne m' hm') heq)
  have hsamples := (h.descriptors.map Descriptor.name).nodup hfull
  rw [List.map_map] at hsamples
  have hseries : samples.map Sample.series =
      (samples.map (Descriptor.name ∘ Sample.descriptor)).map fun name => (name, values) := by
    rw [List.map_map]
    exact List.map_congr_left fun x hx => Prod.ext rfl (h.values x hx)
  rw [hseries]
  exact hsamples.map fun _ _ heq => congrArg Prod.fst heq

theorem nodup_series_flatMap {α : Type} {l : List α} {f : α → List Sample}
    {valuesOf : α → List String} (h : ∀ a ∈ l, Entry space subsystem specs (valuesOf a) (f a))
    (hne : ∀ m ∈ specs, m.name ≠ "") (hnames : (specs.map MetricSpec.name).Nodup)
    (hvalues : l.Pairwise fun a b => valuesOf a ≠ valuesOf b) :
    ((l.flatMap f).map Sample.series).Nodup := by
  rw [List.map_flatMap, List.nodup_flatMap]
  refine ⟨fun a ha => (h a ha).nodup_series hne hnames, hvalues.imp_of_mem ?_⟩
  intro a b ha hb hab
  refine Sample.disjoint_series fun x hx y hy => ?_
  rw [(h a ha).values x hx, (h b hb).values y hy]
  exact hab

end Entry

/-! ### Entries of field tables -/

namespace FieldTable

variable {ε : Type} {space subsystem : String} {labels : List String}

theorem entry_collectFields (lookup : String → Except ε (Option Float)) (fields : List Field) :
    Entry space subsystem (fields.map Field.spec) labels
      (collectFields labels lookup (ofFields space subsystem fields).fields).1 := by
  induction fields with
  | nil => exact .nil
  | cons f rest ih =>
    simp only [ofFields, List.map_cons, collectFields] at ih ⊢
    cases lookup f.counter with
    | error e => exact .nil
    | ok found =>
      cases found with
      | none => exact ⟨ih.descriptors.cons _, ih.values⟩
      | some value => exact (Entry.single f.spec value).append ih

theorem entry_readInstance {lookup : String → Except ε (Option Float)} {fields : List Field}
    {samples : List Sample}
    (h : (ofFields space subsystem fields).readInstance labels lookup = .ok samples) :
    Entry space subsystem (fields.map Field.spec) labels samples := by
  have hentry : Entry space subsystem (fields.map Field.spec) labels
      (collectFields labels lookup (ofFields space subsystem fields).fields).1 :=
    entry_collectFields lookup fields
  rw [readInstance, collectInstance] at h
  split at h
  · rename_i out hout
    cases h
    rwa [hout] at hentry
  · cases h

theorem entry_instanceSamples (fields : List Field) (i : Instance) :
    Entry space subsystem (fields.map Field.spec) [i.label]
      ((ofFields space subsystem fields).instanceSamples i) := by
  rw [instanceSamples, ofFields, List.filterMap_map]
  exact .filterMap Field.spec (fun f => i.counter? f.counter) fields

end FieldTable

end MetricScraper
