import MetricScraper.Proofs.Collector.Parts
import MetricScraper.Proofs.Engine.Progress

/-!
# Composites and their children

The output of a composite has the part of every child, in order, and each part says what the child
has sent by the time at which the composite returns.
-/

namespace MetricScraper.Engine

/-- What the run of a child is for its composite, when the composite waits no longer. -/
inductive ChildRun.Settled (child : Child) (ch : ChildRun) (late : Bool) (waited : Duration) :
    Handover → Prop where
  /-- The child has come to its end and sent its result. -/
  | received {ending : Ending Unit} (hs : ch.sent = true) (he : ch.task.ending? = some ending)
      (hy : child.work.Yields ch.task.record.samples ending) (elapsed : Duration) :
      Settled child ch late waited (.ofEnding ch.task.record.samples elapsed ending)
  /-- The child had sent nothing when the deadline had passed. -/
  | missed (hs : ch.sent = false) (hl : late = true) :
      Settled child ch late waited (.failed (.timeout waited) waited)

/-- A child that has panicked for its composite has panicked, or has failed like that itself. -/
theorem ChildRun.Settled.panicked {child : Child} {ch : ChildRun} {late : Bool} {waited : Duration}
    {o : Handover} (h : ch.Settled child late waited o) (ho : o.result = .error .panicked) :
    ch.task.ending? = some .panicked ∨ ch.task.ending? = some (.failed .panicked) := by
  cases h with
  | missed hs hl => cases ho
  | @received ending hs he hy elapsed =>
    cases ending with
    | done result => cases ho
    | failed error =>
      cases ho
      exact Or.inr he
    | panicked => exact Or.inl he

variable {sc : Scraper} {past : History} {e : State} {n : Nat} {r : Run} {c : Composite}
  {g : GroupRun}

theorem settled_of_runs? (hg : g.Sound c) {isLate : Bool} {waited : Duration}
    {runs : List Handover} (h : g.runs? isLate waited = some runs) {k : Nat} {child : Child}
    (hc : c.children[k]? = some child) :
    ∃ ch o, g.children[k]? = some ch ∧ runs[k]? = some o ∧
      ch.Settled child isLate waited o := by
  have hlt := (List.getElem?_eq_some_iff.mp hc).1
  have hlen := hg.children_length
  obtain ⟨ch, hk⟩ : ∃ ch, g.children[k]? = some ch := ⟨_, List.getElem?_eq_getElem (by omega)⟩
  obtain ⟨o, ho, hcase⟩ := hg.run_of_child h hk
  refine ⟨ch, o, hk, ho, ?_⟩
  rcases hcase with ⟨hs, ch', elapsed, hk', -, hover⟩ | ⟨hs, hl, rfl⟩
  · cases hk.symm.trans hk'
    obtain ⟨child', hc', hfrom⟩ := hg.tasks hk
    cases hc.symm.trans hc'
    obtain ⟨ending, he, rfl⟩ := Task.handover?_eq_some.mp hover
    exact .received hs he (hfrom.yields he) elapsed
  · exact .missed hs hl

/-! ### What a composite has handed over -/

theorem group_of_ending (hc : Course sc past e) (hr : e.runs[n]? = some r) {name : String}
    (hu : sc.units[r.place]? = some (name, .composite c)) {h : Handover}
    (hh : r.ending = some h) :
    ∃ later before s r₁ g runs, past = later ++ (s, .conclude n) :: before ∧
      s.runs[n]? = some r₁ ∧ r₁.job = .group c g ∧ g.Sound c ∧
      g.runs? (s.isPast r.context.deadline) (s.elapsed r₁) = some runs ∧
      h = c.handover runs (s.elapsed r₁) := by
  obtain ⟨later, before, s, r₁, hpast, hr₁, hsound, hcon⟩ := concluded_job hc hr hu hh
  obtain ⟨g, hj, hg⟩ := hsound.children
  rw [hj, Job.conclude?, Option.map_eq_some_iff] at hcon
  obtain ⟨runs, hruns, rfl⟩ := hcon
  exact ⟨later, before, s, r₁, g, runs, hpast, hr₁, hj, hg, hruns, rfl⟩

/-- A composite with a child that ends at once and one that waits at a gate. -/
def pairComposite : Composite :=
  .ofChildren "windows" "pair" [⟨"first", .done ()⟩, ⟨"second", .await "gate" (.done ())⟩]

def pairScraper : Scraper := .ofUnits "windows" [("pair", .composite pairComposite)] []

end MetricScraper.Engine
