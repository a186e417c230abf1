import MetricScraper.Collector.Work

/-!
# What a work can yield

The samples that a work hands out and the end that it comes to, whatever it is answered on the way.
A task keeps what its work can still yield together with what it has handed out.
-/

namespace MetricScraper

/-- The samples that a work can hand out up to its end, with the end. -/
inductive Work.Yields : Work Unit → List Sample → Ending Unit → Prop where
  | done (result : Unit) : Yields (.done result) [] (.done result)
  | fail (error : CollectError) : Yields (.fail error) [] (.failed error)
  | panic : Yields .panic [] .panicked
  | push {rest : Work Unit} {out : List Sample} {ending : Ending Unit} (samples : List Sample)
      (h : rest.Yields out ending) : Yields (.push samples rest) (samples ++ out) ending
  | log {rest : Work Unit} {out : List Sample} {ending : Ending Unit} (entry : LogEntry)
      (h : rest.Yields out ending) : Yields (.log entry rest) out ending
  | table {next : CounterTable → Work Unit} {out : List Sample} {ending : Ending Unit}
      (object : String) (table : CounterTable) (h : (next table).Yields out ending) :
      Yields (.table object next) out ending
  | noTable {next : CounterTable → Work Unit} (object : String) (error : CollectError) :
      Yields (.table object next) [] (.failed error)
  | rows {next : List Row → Work Unit} {out : List Sample} {ending : Ending Unit}
      (query : Query) (rows : List Row) (h : (next rows).Yields out ending) :
      Yields (.rows query next) out ending
  | noRows {next : List Row → Work Unit} (query : Query) (error : QueryError) :
      Yields (.rows query next) [] (.failed (.query error))
  | check {rest : Work Unit} {out : List Sample} {ending : Ending Unit}
      (h : rest.Yields out ending) : Yields (.check rest) out ending
  | late {rest : Work Unit} (waited : Duration) :
      Yields (.check rest) [] (.failed (.timeout waited))
  | await {rest : Work Unit} {out : List Sample} {ending : Ending Unit} (gate : String)
      (h : rest.Yields out ending) : Yields (.await gate rest) out ending

/-! ### Tasks -/

/-- A task that has come from the start of a work: whatever it can yield yet, the work can yield
after what the task has handed out. -/
def Task.From (w : Work Unit) (t : Task) : Prop :=
  ∀ (out : List Sample) (ending : Ending Unit), t.work.Yields out ending →
    w.Yields (t.record.samples ++ out) ending

theorem Task.from_start (w : Work Unit) : (Task.start w).From w :=
  fun _ _ h => h

/-- A step yields nothing that the work could not yield before it. -/
theorem Task.step_yields {m : Moment} {t t' : Task} (ht : t.step m = some t') :
    ∀ (out : List Sample) (ending : Ending Unit), t'.work.Yields out ending →
      ∃ pushed, t'.record.samples = t.record.samples ++ pushed ∧
        t.work.Yields (pushed ++ out) ending := by
  intro out ending hy
  obtain ⟨record, work⟩ := t
  cases work with
  | done result => cases ht
  | fail error => cases ht
  | panic => cases ht
  | push samples rest =>
    cases ht
    exact ⟨samples, rfl, .push samples hy⟩
  | log entry rest =>
    cases ht
    exact ⟨[], (List.append_nil _).symm, .log entry hy⟩
  | table object next =>
    simp only [Task.step] at ht
    split at ht
    · rename_i table _
      cases ht
      exact ⟨[], (List.append_nil _).symm, .table object table hy⟩
    · rename_i error _
      cases ht
      cases hy
      exact ⟨[], (List.append_nil _).symm, .noTable object error⟩
  | rows query next =>
    simp only [Task.step] at ht
    split at ht
    · rename_i rows _
      cases ht
      exact ⟨[], (List.append_nil _).symm, .rows query rows hy⟩
    · rename_i error _
      cases ht
      cases hy
      exact ⟨[], (List.append_nil _).symm, .noRows query error⟩
  | check rest =>
    simp only [Task.step] at ht
    split at ht
    · cases ht
      exact ⟨[], (List.append_nil _).symm, .check hy⟩
    · rename_i waited _
      cases ht
      cases hy
      exact ⟨[], (List.append_nil _).symm, .late waited⟩
  | await gate rest =>
    simp only [Task.step] at ht
    split at ht
    · cases ht
      exact ⟨[], (List.append_nil _).symm, .await gate hy⟩
    · cases ht

theorem Task.From.step {m : Moment} {w : Work Unit} {t t' : Task} (h : t.From w)
    (ht : t.step m = some t') : t'.From w := by
  intro out ending hy
  obtain ⟨pushed, hs, hy'⟩ := Task.step_yields ht out ending hy
  rw [hs, List.append_assoc]
  exact h _ _ hy'

/-! ### Tasks that have ended -/

theorem Task.yields_of_ending {t : Task} {ending : Ending Unit} (h : t.ending? = some ending) :
    t.work.Yields [] ending := by
  obtain ⟨record, work⟩ := t
  cases work with
  | done result =>
    cases h
    exact .done result
  | fail error =>
    cases h
    exact .fail error
  | panic =>
    cases h
    exact .panic
  | _ => cases h

theorem Task.step_eq_none {t : Task} {ending : Ending Unit} (h : t.ending? = some ending)
    (m : Moment) : t.step m = none := by
  obtain ⟨record, work⟩ := t
  cases work with
  | done result => rfl
  | fail error => rfl
  | panic => rfl
  | _ => cases h

/-- A task that has ended has handed out what its work yields. -/
theorem Task.From.yields {w : Work Unit} {t : Task} (h : t.From w) {ending : Ending Unit}
    (he : t.ending? = some ending) : w.Yields t.record.samples ending := by
  have hy := h [] ending (Task.yields_of_ending he)
  rw [List.append_nil] at hy
  exact hy

theorem Task.handover?_eq_some {t : Task} {elapsed : Duration} {o : Handover} :
    t.handover? elapsed = some o ↔
      ∃ ending, t.ending? = some ending ∧ .ofEnding t.record.samples elapsed ending = o :=
  Option.map_eq_some_iff

end MetricScraper
