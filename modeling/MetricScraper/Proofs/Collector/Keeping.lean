import MetricScraper.Proofs.Metric.Groups

/-!
# What works keep of their samples

A work keeps a property of samples if everything that it hands out has it together with what it has
handed out before, whatever it is answered within a promise on the moments at which it asks.  One
step of a task keeps it; so a task has it at every moment, in whatever steps it gets on.
-/

namespace MetricScraper

variable {A : Prop} {P : Moment → Prop} {Q : List Sample → Prop}

/-- Whenever the work hands out samples after `out`, at moments of which `P` holds, `Q` holds of all
samples up to then. -/
def Work.Keeps (P : Moment → Prop) (Q : List Sample → Prop) : Work Unit → List Sample → Prop
  | .done _, _ => True
  | .fail _, _ => True
  | .panic, _ => True
  | .push samples rest, out => Q (out ++ samples) ∧ rest.Keeps P Q (out ++ samples)
  | .log _ rest, out => rest.Keeps P Q out
  | .table object next, out => ∀ (m : Moment) (t : CounterTable), P m → m.table object = .ok t →
      (next t).Keeps P Q out
  | .rows query next, out => ∀ (m : Moment) (rows : List Row), P m → m.rows query = .ok rows →
      (next rows).Keeps P Q out
  | .check rest, out => rest.Keeps P Q out
  | .await _ rest, out => rest.Keeps P Q out

/-! ### Tasks -/

/-- What a task has handed out is as it should be, and what its work still hands out will be. -/
structure Task.Keeps (P : Moment → Prop) (Q : List Sample → Prop) (t : Task) : Prop where
  samples : Q t.record.samples
  work : t.work.Keeps P Q t.record.samples

theorem Task.Keeps.step {m : Moment} {t t' : Task} (h : t.Keeps P Q) (hm : P m)
    (ht : t.step m = some t') : t'.Keeps P Q := by
  obtain ⟨record, work⟩ := t
  obtain ⟨hsamples, hwork⟩ := h
  cases work with
  | done result => cases ht
  | fail error => cases ht
  | panic => cases ht
  | push samples rest =>
    cases ht
    exact ⟨hwork.1, hwork.2⟩
  | log entry rest =>
    cases ht
    exact ⟨hsamples, hwork⟩
  | table object next =>
    simp only [Task.step] at ht
    split at ht
    · rename_i t hq
      cases ht
      exact ⟨hsamples, hwork m t hm hq⟩
    · cases ht
      exact ⟨hsamples, trivial⟩
  | rows query next =>
    simp only [Task.step] at ht
    split at ht
    · rename_i rows hq
      cases ht
      exact ⟨hsamples, hwork m rows hm hq⟩
    · cases ht
      exact ⟨hsamples, trivial⟩
  | check rest =>
    simp only [Task.step] at ht
    split at ht
    · cases ht
      exact ⟨hsamples, hwork⟩
    · cases ht
      exact ⟨hsamples, trivial⟩
  | await gate rest =>
    simp only [Task.step] at ht
    split at ht
    · cases ht
      exact ⟨hsamples, hwork⟩
    · cases ht

namespace Work

variable {out : List Sample}

/-! ### Parts of works -/

theorem keeps_emit {samples : List Sample} (h : Q samples) : (emit samples).Keeps P Q [] :=
  ⟨h, trivial⟩

theorem keeps_notes_bind {f : Unit → Work Unit} (entries : List LogEntry)
    (h : (f ()).Keeps P Q out) : ((notes entries).bind f).Keeps P Q out := by
  induction entries with
  | nil => exact h
  | cons entry entries ih => exact ih

theorem keeps_orFail {α : Type} {result : Except QueryError α} {next : α → Work Unit}
    (h : ∀ x, result = .ok x → (next x).Keeps P Q out) :
    (Containers.orFail result next).Keeps P Q out := by
  cases result with
  | ok x => exact h x rfl
  | error e => trivial

end Work

/-! ### Collectors whose series are not kept apart -/

namespace Network

variable {space : String}

theorem has_of_rowSamples {filter : InstanceFilter} {row : Row} {samples : List Sample}
    (h : rowSamples filter (.ofFields space name fields) row = .ok samples) :
    ∀ x ∈ samples, MetricGroup.network.Has space x := by
  rw [rowSamples] at h
  split at h
  · cases h
  · split at h
    · cases h
      exact fun x hx => absurd hx List.not_mem_nil
    · exact MetricGroup.has_of_entry (FieldTable.entry_readInstance h) fun m hm => hm

theorem keeps_collectRows (filter : InstanceFilter) {out : List Sample}
    (hout : ∀ x ∈ out, MetricGroup.network.Has space x) (rows : List Row) :
    (collectRows filter (.ofFields space name fields) out rows).Keeps P
      (MetricGroup.Stock A space (· = .network)) [] := by
  induction rows generalizing out with
  | nil => exact Work.keeps_emit (.of_has (by decide) hout)
  | cons row rest ih =>
    rw [collectRows, Work.Keeps]
    cases hrow : rowSamples filter (.ofFields space name fields) row with
    | error e => trivial
    | ok samples => exact ih (List.forall_mem_append.mpr ⟨hout, has_of_rowSamples hrow⟩)

theorem keeps_collect (space : String) (filter : InstanceFilter) :
    (collect space filter).Keeps P (MetricGroup.Stock A space (· = .network)) [] :=
  fun _ rows _ _ => keeps_collectRows filter (fun _ hx => absurd hx List.not_mem_nil) rows

end Network

namespace DiskStatus

variable {space : String}

theorem has_of_diskSamples {options : Options} {disk : DiskRow} {predicted : Option Bool} :
    ∀ x ∈ diskSamples space options disk predicted, MetricGroup.diskStatus.Has space x := by
  have hstatus : ∀ x ∈ statusSamples space disk, MetricGroup.diskStatus.Has space x :=
    MetricGroup.has_of_entry (entry_statusSamples space disk) fun m hm =>
      List.mem_append_left _ (List.mem_append_left _ hm)
  have hfigures : ∀ x ∈ figureSamples space options disk predicted,
      MetricGroup.diskStatus.Has space x :=
    MetricGroup.has_of_entry (entry_figureSamples space options disk predicted) fun m hm =>
      List.mem_append_left _ (List.mem_append_right _ hm)
  rw [diskSamples_eq, List.forall_mem_append, List.forall_mem_append]
  refine ⟨⟨hstatus, fun x hx => ?_⟩, hfigures⟩
  obtain ⟨a, -, hx⟩ := List.mem_flatMap.mp hx
  exact MetricGroup.has_of_entry (entry_attributeSamples disk.volume a)
    (fun m hm => List.mem_append_right _ hm) x hx

theorem keeps_collectDisks (options : Options) (predictions : List (String × Bool)) (count : Nat)
    {out : List Sample} (hout : ∀ x ∈ out, MetricGroup.diskStatus.Has space x) (failing : Nat)
    (rows : List Row) :
    (collectDisks space options predictions count out failing rows).Keeps P
      (MetricGroup.Stock A space (· = .diskStatus)) [] := by
  induction rows generalizing out failing with
  | nil => exact Work.keeps_emit (.of_has (by decide) hout)
  | cons row rest ih =>
    rw [collectDisks, Work.Keeps]
    cases readDisk? row with
    | error e => trivial
    | ok found =>
      cases found with
      | none => exact ih hout failing
      | some disk =>
        exact Work.keeps_notes_bind _
          (ih (List.forall_mem_append.mpr ⟨hout, has_of_diskSamples⟩) _)

theorem keeps_collect (space : String) (options : Options) :
    (collect space options).Keeps P (MetricGroup.Stock A space (· = .diskStatus)) [] := by
  intro _ disks _ _ _ rows _ _
  dsimp only
  cases readPredictions [] rows with
  | error e => trivial
  | ok predictions =>
    exact keeps_collectDisks options predictions _ (fun _ hx => absurd hx List.not_mem_nil) 0 disks

end DiskStatus

/-! ### Sources of file replication -/

namespace Replication.Source

/-- A source whose instances are named apart has no series twice. -/
theorem keeps_child (space : String) (s : Source)
    (hP : ∀ (m : Moment) (t : CounterTable), P m → m.table s.object = .ok t → A →
      (t.instances.map Instance.label).Nodup) :
    (s.child space).work.Keeps P (MetricGroup.Stock A space (· = .source s)) [] := by
  intro m t hm ht
  have hlabels (hA : A) : t.instances.Pairwise fun i j => [i.label] ≠ [j.label] :=
    (List.pairwise_map.mp (hP m t hm ht hA)).imp fun hne heq => hne (List.singleton_inj.mp heq)
  exact Work.keeps_emit
    (.of_entries _ (fun i _ => FieldTable.entry_instanceSamples s.fields i) hlabels)

end Replication.Source

end MetricScraper
