import Mathlib.Data.List.Nodup
import MetricScraper.Collector.Network
import MetricScraper.Proofs.Metric.Names

/-!
# Series of network interfaces

An interface is published under its name with every character replaced but the letters and digits
of ASCII.  So names that differ in replaced characters only become one label, and two interfaces
with such names share a series for every column that both of them have.
-/

namespace MetricScraper

namespace Network

/-! ### Names that become one label -/

/-- Two names agree in their letters and digits, place by place. -/
def Alike (x y : String) : Prop :=
  List.Forall₂ (fun c d => c = d ∨ (c.isAlphanum = false ∧ d.isAlphanum = false))
    x.toList y.toList

/-- What a character of a name becomes. -/
theorem replaced_eq_iff (c d : Char) :
    (if c.isAlphanum then c else '_') = (if d.isAlphanum then d else '_') ↔
      c = d ∨ (c.isAlphanum = false ∧ d.isAlphanum = false) := by
  have hunderscore : '_'.isAlphanum = false := by decide
  by_cases hc : c.isAlphanum = true <;> by_cases hd : d.isAlphanum = true
  · simp [hc, hd]
  · -- a letter or digit is no underscore
    have hne : c ≠ '_' := by
      rintro rfl
      rw [hunderscore] at hc
      cases hc
    have hcd : c ≠ d := by
      rintro rfl
      exact hd hc
    simp [hc, hd, hne, hcd]
  · have hne : '_' ≠ d := by
      rintro rfl
      rw [hunderscore] at hd
      cases hd
    have hcd : c ≠ d := by
      rintro rfl
      exact hc hd
    simp [hc, hd, hne, hcd]
  · simp [hc, hd]

theorem mangle_eq_iff (x y : String) : mangle x = mangle y ↔ Alike x y := by
  have hlists : mangle x = mangle y ↔
      x.toList.map (fun c => if c.isAlphanum then c else '_') =
        y.toList.map fun c => if c.isAlphanum then c else '_' :=
    ⟨fun h => String.ofList_injective h, fun h => congrArg String.ofList h⟩
  rw [hlists, ← List.forall₂_eq_eq_eq, List.forall₂_map_left_iff, List.forall₂_map_right_iff]
  simp only [replaced_eq_iff]
  rfl

theorem mangle_eq_empty_iff (x : String) : mangle x = "" ↔ x = "" := by
  have h : mangle x = "" ↔ (mangle x).toList = [] := by simp
  rw [h]
  simp [mangle]

/-! ### The series of a row -/

/-- What tells the series of the collector apart. -/
def key (s : Sample) : String × Option String := (s.name, s.label? "nic")

/-- Whether a row has a number in a column. -/
def hasNumber (row : Row) (column : String) : Bool :=
  match row.float? column with
  | .ok (some _) => true
  | _ => false

/-- Whether a row is published under a name. -/
structure Publishes (filter : InstanceFilter) (row : Row) (name : String) : Prop where
  text : row.text "Name" = .ok name
  admitted : filter.admits name = true
  named : name ≠ ""

/-- The series that a row is published as. -/
def rowKeys (space : String) (filter : InstanceFilter) (row : Row) :
    List (String × Option String) :=
  match row.text "Name" with
  | .error _ => []
  | .ok name =>
    if !filter.admits name || (mangle name).isEmpty then []
    else
      (fields.filter fun f => hasNumber row f.counter).map fun f =>
        (qualifiedName space Network.name f.spec.name, some (mangle name))

theorem mem_rowKeys {space : String} {filter : InstanceFilter} {row : Row}
    {k : String × Option String} :
    k ∈ rowKeys space filter row ↔
      ∃ name f, Publishes filter row name ∧ f ∈ fields ∧ hasNumber row f.counter = true ∧
        k = (qualifiedName space Network.name f.spec.name, some (mangle name)) := by
  unfold rowKeys
  constructor
  · intro hk
    split at hk
    · cases hk
    · rename_i name htext
      split at hk
      · cases hk
      · rename_i hpub
        simp only [Bool.or_eq_true, Bool.not_eq_true', not_or, Bool.not_eq_false,
          Bool.not_eq_true] at hpub
        have hname : name ≠ "" := by
          intro hempty
          have hm : mangle name = "" := (mangle_eq_empty_iff name).mpr hempty
          simp [hm] at hpub
        obtain ⟨f, hf, rfl⟩ := List.mem_map.mp hk
        obtain ⟨hmem, hnum⟩ := List.mem_filter.mp hf
        exact ⟨name, f, ⟨htext, hpub.1, hname⟩, hmem, hnum, rfl⟩
  · intro h
    obtain ⟨name, f, ⟨htext, hadm, hname⟩, hf, hnum, rfl⟩ := h
    have hm : (mangle name).isEmpty = false := by
      simpa using fun hempty => hname ((mangle_eq_empty_iff name).mp hempty)
    simp only [htext, hadm, hm, Bool.not_true, Bool.or_false, Bool.false_eq_true, if_false]
    exact List.mem_map.mpr ⟨f, List.mem_filter.mpr ⟨hf, hnum⟩, rfl⟩

/-- The metrics of the columns are named apart. -/
theorem fields_names : (fields.map fun f => f.spec.name).Nodup := by decide

theorem fields_names_ne : ∀ f ∈ fields, f.spec.name ≠ "" := by decide

theorem fields_labels : ∀ f ∈ fields, f.spec.labels = ["nic"] := by decide

theorem qualifiedName_fields_inj {space : String} {f g : Field} (hf : f ∈ fields) (hg : g ∈ fields)
    (h : qualifiedName space name f.spec.name = qualifiedName space name g.spec.name) :
    f = g := by
  have hname := qualifiedName_inj (fields_names_ne f hf) (fields_names_ne g hg) h
  exact List.inj_on_of_nodup_map fields_names hf hg hname

theorem nodup_rowKeys (space : String) (filter : InstanceFilter) (row : Row) :
    (rowKeys space filter row).Nodup := by
  unfold rowKeys
  split
  · exact List.nodup_nil
  · rename_i name htext
    split
    · exact List.nodup_nil
    · have hfields : (fields.filter fun f => hasNumber row f.counter).Nodup :=
        fields_names.of_map.filter _
      refine hfields.map_on ?_
      intro f hf g hg heq
      exact qualifiedName_fields_inj (List.mem_filter.mp hf).1 (List.mem_filter.mp hg).1
        (congrArg Prod.fst heq)

/-- Two rows are published, with names that are alike, and have a column in common. -/
inductive Clash (filter : InstanceFilter) (a b : Row) : Prop where
  | mk {x y : String} {f : Field} (ha : Publishes filter a x) (hb : Publishes filter b y)
      (halike : Alike x y) (hf : f ∈ fields) (hfa : hasNumber a f.counter = true)
      (hfb : hasNumber b f.counter = true)

/-- Rows that have a series in common clash. -/
theorem disjoint_rowKeys_iff {space : String} {filter : InstanceFilter} {a b : Row} :
    (rowKeys space filter a).Disjoint (rowKeys space filter b) ↔ ¬ Clash filter a b := by
  constructor
  · intro hdis hclash
    obtain @⟨x, y, f, ha, hb, halike, hf, hfa, hfb⟩ := hclash
    have hka : (qualifiedName space name f.spec.name, some (mangle x)) ∈ rowKeys space filter a :=
      mem_rowKeys.mpr ⟨x, f, ha, hf, hfa, rfl⟩
    have hkb : (qualifiedName space name f.spec.name, some (mangle y)) ∈ rowKeys space filter b :=
      mem_rowKeys.mpr ⟨y, f, hb, hf, hfb, rfl⟩
    rw [(mangle_eq_iff x y).mpr halike] at hka
    exact hdis hka hkb
  · intro hnot k hka hkb
    obtain ⟨x, f, ha, hf, hfa, rfl⟩ := mem_rowKeys.mp hka
    obtain ⟨y, g, hb, hg, hgb, heq⟩ := mem_rowKeys.mp hkb
    have hfg := qualifiedName_fields_inj hf hg (congrArg Prod.fst heq)
    have hxy : mangle x = mangle y := Option.some.inj (congrArg Prod.snd heq)
    subst hfg
    exact hnot (.mk ha hb ((mangle_eq_iff x y).mp hxy) hf hfa hgb)

/-! ### What the rows come to -/

theorem keys_of_collectFields {space label : String} {row : Row} {fs : List Field}
    (hlabels : ∀ f ∈ fs, f.spec.labels = ["nic"]) {samples : List Sample}
    (h : FieldTable.collectFields [label] row.float?
      (fs.map fun f => (f.counter, Descriptor.ofSpec space name f.spec)) = (samples, .ok ())) :
    samples.map key = (fs.filter fun f => hasNumber row f.counter).map fun f =>
      (qualifiedName space name f.spec.name, some label) := by
  induction fs generalizing samples with
  | nil =>
    cases h
    rfl
  | cons f fs ih =>
    have hrest : ∀ g ∈ fs, g.spec.labels = ["nic"] :=
      fun g hg => hlabels g (List.mem_cons_of_mem f hg)
    have hfirst : f.spec.labels = ["nic"] := hlabels f (List.mem_cons_self ..)
    simp only [List.map_cons, FieldTable.collectFields] at h
    cases hread : row.float? f.counter with
    | error e => simp [hread] at h
    | ok found =>
      cases found with
      | none =>
        have hnum : hasNumber row f.counter = false := by simp [hasNumber, hread]
        simp only [hread] at h
        rw [List.filter_cons, hnum, if_neg (by simp)]
        exact ih hrest h
      | some value =>
        have hnum : hasNumber row f.counter = true := by simp [hasNumber, hread]
        simp only [hread, Prod.mk.injEq] at h
        obtain ⟨rfl, hok⟩ := h
        rw [List.filter_cons, hnum, if_pos rfl, List.map_cons, List.map_cons,
          ih hrest (Prod.ext rfl hok)]
        simp [key, Sample.name, Sample.label?, Sample.labels, Descriptor.ofSpec, hfirst]

theorem keys_of_rowSamples {space : String} {filter : InstanceFilter} {row : Row}
    {samples : List Sample}
    (h : rowSamples filter (FieldTable.ofFields space name fields) row = .ok samples) :
    samples.map key = rowKeys space filter row := by
  unfold rowSamples at h
  unfold rowKeys
  cases htext : row.text "Name" with
  | error e => simp [htext] at h
  | ok nic =>
    simp only [htext] at h ⊢
    split at h
    · rename_i hskip
      cases h
      rw [if_pos hskip]
      rfl
    · rename_i hpub
      rw [if_neg hpub]
      simp only [FieldTable.readInstance, FieldTable.collectInstance, FieldTable.ofFields] at h
      split at h
      · rename_i out hout
        cases h
        exact keys_of_collectFields fields_labels hout
      · cases h

/-- A run through the rows that succeeds appends the series of every row. -/
theorem keys_of_collectRows {space : String} {filter : InstanceFilter} {world : World}
    {rows : List Row} {out : List Sample} {before after : Record}
    (h : (collectRows filter (FieldTable.ofFields space name fields) out rows).run world before =
      (after, .done ())) :
    ∃ added, after.samples = before.samples ++ out ++ added ∧
      added.map key = rows.flatMap (rowKeys space filter) := by
  induction rows generalizing out before with
  | nil =>
    cases h
    exact ⟨[], by simp [Record.push], rfl⟩
  | cons row rest ih =>
    simp only [collectRows, Work.run] at h
    cases hlate : (world before).late with
    | some waited => simp [hlate] at h
    | none =>
      simp only [hlate] at h
      cases hrow : rowSamples filter (FieldTable.ofFields space name fields) row with
      | error e => simp [hrow, Work.run] at h
      | ok samples =>
        simp only [hrow] at h
        obtain ⟨added, hafter, hkeys⟩ := ih h
        refine ⟨samples ++ added, ?_, ?_⟩
        · rw [hafter]
          simp [Record.look]
        · rw [List.map_append, List.flatMap_cons, hkeys, keys_of_rowSamples hrow]

/-- A run that succeeds has read the rows of its query and appended, row after row, one sample for
each column that has a number, under the label of the row.  No two of these samples are of one
series exactly when no two rows clash: are published under names that are alike, and have a column
in common. -/
theorem series_apart_iff (space : String) (filter : InstanceFilter) {world : World}
    {prior : List Sample} {record : Record}
    (h : (collect space filter).run world (.after prior) = (record, .done ())) :
    ∃ rows out, (world (.after prior)).rows query = .ok rows ∧ record.samples = prior ++ out ∧
      out.map key = rows.flatMap (rowKeys space filter) ∧
      ((out.Pairwise fun s t => ¬ (s.name = t.name ∧ s.label? "nic" = t.label? "nic")) ↔
        rows.Pairwise fun a b => ¬ Clash filter a b) := by
  simp only [collect, Work.run] at h
  cases hrows : (world (.after prior)).rows query with
  | error e => simp [hrows] at h
  | ok rows =>
    simp only [hrows] at h
    obtain ⟨out, hout, hkeys⟩ := keys_of_collectRows h
    refine ⟨rows, out, rfl, ?_, hkeys, ?_⟩
    · simpa [Record.call, Record.after] using hout
    · have hnodup :
          (out.Pairwise fun s t => ¬ (s.name = t.name ∧ s.label? "nic" = t.label? "nic")) ↔
            (out.map key).Nodup := by
        rw [List.Nodup, List.pairwise_map]
        simp only [key, ne_eq, Prod.mk.injEq]
      have hrowsIff : (rows.flatMap (rowKeys space filter)).Nodup ↔
          rows.Pairwise fun a b => ¬ Clash filter a b := by
        rw [List.nodup_flatMap]
        constructor
        · intro hboth
          exact hboth.2.imp fun hdis => disjoint_rowKeys_iff.mp hdis
        · intro hclash
          exact ⟨fun row _ => nodup_rowKeys space filter row,
            hclash.imp fun hnot => disjoint_rowKeys_iff.mpr hnot⟩
      rw [hnodup, hkeys, hrowsIff]

/-! ### Interfaces with and without a series of their own -/

/-- A filter that every name passes. -/
def everyName : InstanceFilter := ⟨.empty, .step .empty⟩

def interface (nic : String) : Row :=
  ⟨[("Name", .text nic), ("BytesReceivedPerSec", .unsigned 1)]⟩

def worldOf (rows : List Row) : World := fun _ =>
  ⟨fun object => .error (.missingObject object), fun _ => .ok rows, none, fun _ => false⟩

theorem series_apart_iff_dotted :
    ∃ record out, (collect "windows" everyName).run
        (worldOf [interface "eth.1", interface "eth_2"]) (.after []) = (record, .done ()) ∧
      record.samples = [] ++ out ∧
      out.Pairwise fun s t => ¬ (s.name = t.name ∧ s.label? "nic" = t.label? "nic") := by
  have hrun : (collect "windows" everyName).run
      (worldOf [interface "eth.1", interface "eth_2"]) (.after []) = (_, .done ()) := rfl
  obtain ⟨rows, out, hrows, hout, -, hiff⟩ := series_apart_iff "windows" everyName hrun
  refine ⟨_, out, hrun, hout, hiff.mpr ?_⟩
  cases hrows
  refine List.pairwise_pair.mpr ?_
  intro hclash
  obtain @⟨x, y, f, ha, hb, halike, -⟩ := hclash
  cases ha.text
  cases hb.text
  have hlabel : mangle "eth.1" = mangle "eth_2" := (mangle_eq_iff _ _).mpr halike
  revert hlabel
  decide

/-- Two interfaces with different names are published as one series. -/
theorem dotted_name_shares_series :
    ∃ record s t, (collect "windows" everyName).run
        (worldOf [interface "eth.1", interface "eth_1"]) (.after []) = (record, .done ()) ∧
      (["eth.1", "eth_1"].Nodup ∧ [interface "eth.1", interface "eth_1"].map (·.text "Name") =
        ["eth.1", "eth_1"].map .ok) ∧
      record.samples = [s, t] ∧ s.name = t.name ∧ s.label? "nic" = t.label? "nic" :=
  ⟨_, _, _, rfl, ⟨by decide, rfl⟩, rfl, rfl, by decide⟩

end Network

end MetricScraper
