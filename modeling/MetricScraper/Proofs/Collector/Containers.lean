import MetricScraper.Proofs.Collector.Keeping
import MetricScraper.Proofs.Results

/-!
# Series of containers

What is published of a container is one entry under its id, and one more for each interface, under
the endpoint as well.  So the series of all containers are apart if the source tells the containers
apart by their ids, and the interfaces of each of them by their endpoints.
-/

namespace MetricScraper

/-- Two rows hold the same text in a column. -/
def Row.Agrees (column : String) (a b : Row) : Prop :=
  ∃ text, a.text column = .ok text ∧ b.text column = .ok text

instance (column : String) (a b : Row) : Decidable (Row.Agrees column a b) :=
  match ha : a.text column, hb : b.text column with
  | .ok s, .ok t =>
    decidable_of_iff (s = t) (by simp [Row.Agrees, ha, hb, eq_comm])
  | .error _, _ => .isFalse (by simp [Row.Agrees, ha])
  | _, .error _ => .isFalse (by simp [Row.Agrees, hb])

namespace Containers

/-- The answers of a source tell containers apart by their ids, and the interfaces of a container by
their endpoints. -/
structure TellsApart (answer : Query → Except QueryError (List Row)) : Prop where
  ids : ∀ rows, answer systemQuery = .ok rows → rows.Pairwise fun a b =>
    a.text "Type" = .ok "Container" → b.text "Type" = .ok "Container" → ¬ Row.Agrees "Id" a b
  endpoints : ∀ rows, answer networkQuery = .ok rows → rows.Pairwise fun a b =>
    Row.Agrees "ContainerId" a b → ¬ Row.Agrees "EndpointId" a b

/-! ### Rows -/

theorem readIds_cons {row : Row} {rest : List Row} {ids : List String}
    (h : readIds (row :: rest) = .ok ids) :
    readIds rest = .ok ids ∨ ∃ id others, row.text "Type" = .ok "Container" ∧
      row.text "Id" = .ok id ∧ readIds rest = .ok others ∧ ids = id :: others := by
  rw [readIds] at h
  obtain ⟨kind, hkind, h⟩ := Results.bind_eq_ok_iff.mp h
  split at h
  · rename_i hcontainer
    obtain ⟨id, hid, h⟩ := Results.bind_eq_ok_iff.mp h
    obtain ⟨others, hothers, h⟩ := Results.bind_eq_ok_iff.mp h
    cases h
    rw [beq_iff_eq.mp hcontainer] at hkind
    exact Or.inr ⟨id, others, hkind, hid, hothers, rfl⟩
  · exact Or.inl h

theorem mem_of_readIds {rows : List Row} {ids : List String} (h : readIds rows = .ok ids)
    {id : String} (hid : id ∈ ids) :
    ∃ row ∈ rows, row.text "Type" = .ok "Container" ∧ row.text "Id" = .ok id := by
  induction rows generalizing ids with
  | nil =>
    cases h
    cases hid
  | cons row rest ih =>
    rcases readIds_cons h with hrest | ⟨first, others, hkind, hfirst, hothers, rfl⟩
    · obtain ⟨other, hother, hrow⟩ := ih hrest hid
      exact ⟨other, List.mem_cons_of_mem _ hother, hrow⟩
    · rcases List.mem_cons.mp hid with rfl | hid
      · exact ⟨row, List.mem_cons_self, hkind, hfirst⟩
      · obtain ⟨other, hother, hrow⟩ := ih hothers hid
        exact ⟨other, List.mem_cons_of_mem _ hother, hrow⟩

theorem nodup_of_readIds {rows : List Row} {ids : List String} (h : readIds rows = .ok ids)
    (hrows : rows.Pairwise fun a b => a.text "Type" = .ok "Container" →
      b.text "Type" = .ok "Container" → ¬ Row.Agrees "Id" a b) : ids.Nodup := by
  induction rows generalizing ids with
  | nil =>
    cases h
    exact List.nodup_nil
  | cons row rest ih =>
    obtain ⟨hrow, hrest⟩ := List.pairwise_cons.mp hrows
    rcases readIds_cons h with hread | ⟨id, others, hkind, hid, hothers, rfl⟩
    · exact ih hread hrest
    · refine List.nodup_cons.mpr ⟨fun hmem => ?_, ih hothers hrest⟩
      obtain ⟨other, hother, hkind', hid'⟩ := mem_of_readIds hothers hmem
      exact hrow other hother hkind hkind' ⟨id, hid, hid'⟩

theorem keyRows_eq_ok {column : String} {rows : List Row} {keyed : List (String × Row)}
    (h : keyRows column rows = .ok keyed) :
    keyed.map Prod.snd = rows ∧ ∀ entry ∈ keyed, entry.2.text column = .ok entry.1 := by
  induction rows generalizing keyed with
  | nil =>
    cases h
    exact ⟨rfl, fun _ hentry => absurd hentry List.not_mem_nil⟩
  | cons row rest ih =>
    rw [keyRows] at h
    obtain ⟨key, hkey, h⟩ := Results.bind_eq_ok_iff.mp h
    obtain ⟨others, hothers, h⟩ := Results.bind_eq_ok_iff.mp h
    cases h
    obtain ⟨hrest, hkeys⟩ := ih hothers
    exact ⟨congrArg (row :: ·) hrest, List.forall_mem_cons.mpr ⟨hkey, hkeys⟩⟩

theorem pairwise_rowsOf {rows : List Row} {network : List (String × Row)}
    (h : keyRows "ContainerId" rows = .ok network)
    (hrows : rows.Pairwise fun a b => Row.Agrees "ContainerId" a b → ¬ Row.Agrees "EndpointId" a b)
    (id : String) : (rowsOf network id).Pairwise fun a b => ¬ Row.Agrees "EndpointId" a b := by
  obtain ⟨hsnd, hkeys⟩ := keyRows_eq_ok h
  rw [← hsnd, List.pairwise_map] at hrows
  rw [rowsOf, List.pairwise_map]
  -- rows that are kept are of one container, so their endpoints differ
  refine (hrows.filter _).imp_of_mem ?_
  intro a b ha hb hab
  obtain ⟨ha, hida⟩ := List.mem_filter.mp ha
  obtain ⟨hb, hidb⟩ := List.mem_filter.mp hb
  have hta := hkeys a ha
  have htb := hkeys b hb
  rw [beq_iff_eq.mp hida] at hta
  rw [beq_iff_eq.mp hidb] at htb
  exact hab ⟨id, hta, htb⟩

/-! ### Samples of a container -/

variable {A : Prop} {space id : String} {P : Moment → Prop}

/-- The metrics of a container but for those of its interfaces. -/
def ownSpecs : List MetricSpec :=
  [available] ++ memoryFields.map Field.spec ++ processorFields.map Field.spec

/-- The samples of interfaces are entries under their endpoints. -/
theorem entries_of_interfacesSamples {rows : List Row} {samples : List Sample}
    (h : interfacesSamples (.ofFields space name networkFields) id rows = .ok samples) :
    ∃ entries : List (String × List Sample), samples = entries.flatMap Prod.snd ∧
      (∀ e ∈ entries, Entry space name (networkFields.map Field.spec) [label id, e.1] e.2) ∧
      (∀ e ∈ entries, ∃ row ∈ rows, row.text "EndpointId" = .ok e.1) ∧
      ((rows.Pairwise fun a b => ¬ Row.Agrees "EndpointId" a b) →
        entries.Pairwise fun e e' => [label id, e.1] ≠ [label id, e'.1]) := by
  induction rows generalizing samples with
  | nil =>
    cases h
    exact ⟨[], rfl, fun _ he => absurd he List.not_mem_nil, fun _ he => absurd he List.not_mem_nil,
      fun _ => .nil⟩
  | cons row rest ih =>
    rw [interfacesSamples] at h
    obtain ⟨first, hfirst, h⟩ := Results.bind_eq_ok_iff.mp h
    obtain ⟨others, hothers, h⟩ := Results.bind_eq_ok_iff.mp h
    cases h
    obtain ⟨endpoint, hendpoint, hread⟩ := Results.bind_eq_ok_iff.mp hfirst
    obtain ⟨entries, rfl, hentries, hfrom, hapart⟩ := ih hothers
    refine ⟨(endpoint, first) :: entries, rfl, ?_, ?_, ?_⟩
    · exact List.forall_mem_cons.mpr ⟨FieldTable.entry_readInstance hread, hentries⟩
    · refine List.forall_mem_cons.mpr ⟨⟨row, List.mem_cons_self, hendpoint⟩, fun e he => ?_⟩
      obtain ⟨other, hother, hte⟩ := hfrom e he
      exact ⟨other, List.mem_cons_of_mem _ hother, hte⟩
    · intro hrows
      obtain ⟨hrow, hrest⟩ := List.pairwise_cons.mp hrows
      refine List.pairwise_cons.mpr ⟨fun e he heq => ?_, hapart hrest⟩
      obtain ⟨other, hother, hte⟩ := hfrom e he
      simp only [List.cons.injEq, true_and, and_true] at heq
      exact hrow other hother ⟨endpoint, hendpoint, heq ▸ hte⟩

/-- A container has no series twice if its interfaces are told apart, and its id in the first label
of all of them. -/
theorem stock_of_containerSamples {statistics : Row} {interfaces : List Row}
    {samples : List Sample} (h : containerSamples space id statistics interfaces = .ok samples)
    (hrows : A → interfaces.Pairwise fun a b => ¬ Row.Agrees "EndpointId" a b) :
    MetricGroup.Stock A space (· = .containers) samples ∧
      ∀ x ∈ samples, x.labelValues.head? = some (label id) := by
  rw [containerSamples] at h
  obtain ⟨memory, hmemory, h⟩ := Results.bind_eq_ok_iff.mp h
  obtain ⟨processor, hprocessor, h⟩ := Results.bind_eq_ok_iff.mp h
  obtain ⟨network, hnetwork, h⟩ := Results.bind_eq_ok_iff.mp h
  cases h
  have hown : Entry space name ownSpecs [label id]
      (⟨.ofSpec space name available, 1.0, [label id]⟩ :: memory ++ processor) :=
    ((Entry.single available 1.0).append (FieldTable.entry_readInstance hmemory)).append
      (FieldTable.entry_readInstance hprocessor)
  obtain ⟨entries, rfl, hentries, -, hapart⟩ := entries_of_interfacesSamples hnetwork
  have hvalues : ∀ x ∈ entries.flatMap Prod.snd,
      ∃ endpoint, x.labelValues = [label id, endpoint] := by
    intro x hx
    obtain ⟨e, he, hx⟩ := List.mem_flatMap.mp hx
    exact ⟨e.1, (hentries e he).values x hx⟩
  refine ⟨⟨?_, fun hA _ => ?_⟩, ?_⟩
  · intro x hx
    refine ⟨.containers, rfl, ?_⟩
    rcases List.mem_append.mp hx with hx | hx
    · exact MetricGroup.has_of_entry (g := .containers) hown (by decide) x hx
    · obtain ⟨e, he, hx⟩ := List.mem_flatMap.mp hx
      exact MetricGroup.has_of_entry (g := .containers) (hentries e he) (by decide) x hx
  · rw [List.map_append, List.nodup_append']
    refine ⟨hown.nodup_series (by decide) (by decide),
      Entry.nodup_series_flatMap hentries (by decide) (by decide) (hapart (hrows hA)), ?_⟩
    -- the samples of interfaces have one label more
    refine Sample.disjoint_series fun x hx y hy => ?_
    obtain ⟨endpoint, hy⟩ := hvalues y hy
    rw [hown.values x hx, hy]
    simp
  · intro x hx
    rcases List.mem_append.mp hx with hx | hx
    · rw [hown.values x hx, List.head?_cons]
    · obtain ⟨endpoint, hx⟩ := hvalues x hx
      rw [hx, List.head?_cons]

theorem stock_of_containerPart (space id : String) (statistics : Option Row)
    {interfaces : List Row}
    (hrows : A → interfaces.Pairwise fun a b => ¬ Row.Agrees "EndpointId" a b) :
    MetricGroup.Stock A space (· = .containers) (containerPart space id statistics interfaces).1 ∧
      ∀ x ∈ (containerPart space id statistics interfaces).1,
        x.labelValues.head? = some (label id) := by
  cases statistics with
  | none => exact ⟨.nil, fun _ hx => absurd hx List.not_mem_nil⟩
  | some row =>
    rw [containerPart]
    split
    · rename_i samples hsamples
      exact stock_of_containerSamples hsamples hrows
    · exact ⟨.nil, fun _ hx => absurd hx List.not_mem_nil⟩

/-! ### All containers -/

theorem label_injective {id id' : String} (h : label id = label id') : id = id' :=
  (String.append_right_inj _).mp h

theorem keeps_collectContainers {statistics network : List (String × Row)}
    (hnetwork : A → ∀ id, (rowsOf network id).Pairwise fun a b => ¬ Row.Agrees "EndpointId" a b)
    {ids : List String} (hids : A → ids.Nodup) {out : List Sample}
    (hout : MetricGroup.Stock A space (· = .containers) out)
    (hnew : A → ∀ x ∈ out, ∀ id ∈ ids, x.labelValues.head? ≠ some (label id)) :
    (collectContainers space statistics network out ids).Keeps P
      (MetricGroup.Stock A space (· = .containers)) [] := by
  -- what has been put together is of containers before, so their labels are none of those to come
  induction ids generalizing out with
  | nil => exact Work.keeps_emit hout
  | cons id rest ih =>
    obtain ⟨hpart, hlabels⟩ :=
      stock_of_containerPart space id (lastRow? statistics id) fun hA => hnetwork hA id
    refine Work.keeps_notes_bind _
      (ih (fun hA => (hids hA).of_cons) ⟨?_, fun hA hall => ?_⟩ fun hA => ?_)
    · exact List.forall_mem_append.mpr ⟨hout.has, hpart.has⟩
    · rw [List.map_append, List.nodup_append']
      refine ⟨hout.apart hA hall, hpart.apart hA hall, ?_⟩
      refine Sample.disjoint_series fun x hx y hy heq => ?_
      exact hnew hA x hx id List.mem_cons_self (heq ▸ hlabels y hy)
    · refine List.forall_mem_append.mpr ⟨fun x hx other hother => ?_, fun x hx other hother => ?_⟩
      · exact hnew hA x hx other (List.mem_cons_of_mem _ hother)
      · rw [hlabels x hx, ne_eq, Option.some.injEq]
        exact fun heq => (List.nodup_cons.mp (hids hA)).1 (label_injective heq ▸ hother)

/-- Of a source that tells containers and interfaces apart, no series is published twice. -/
theorem keeps_collect (space : String) (hP : ∀ m, P m → A → TellsApart m.rows) :
    (collect space).Keeps P (MetricGroup.Stock A space (· = .containers)) [] := by
  intro first systems hfirst hsystems
  refine Work.keeps_orFail fun ids hids => ?_
  split
  · trivial
  intro _ statisticsRows _ _
  refine Work.keeps_orFail fun statistics _ => ?_
  intro last networkRows hlast hrows
  refine Work.keeps_orFail fun network hnetwork => ?_
  refine keeps_collectContainers (fun hA => ?_) (fun hA => ?_) .nil
    fun _ _ hx => absurd hx List.not_mem_nil
  · exact pairwise_rowsOf hnetwork ((hP last hlast hA).endpoints networkRows hrows)
  · exact nodup_of_readIds hids ((hP first hfirst hA).ids systems hsystems)

end Containers

end MetricScraper
