import MetricScraper.Proofs.Engine.Composites
import MetricScraper.Proofs.Engine.Crowding

/-!
# How many runs of a child there are

A scraper counts the stalled runs of its units, and not those of their children.  A composite that
is late returns without the children that have sent nothing; its own run ends, nothing is stalled,
and the next scrape starts all of its children again.  So a child can have one run for each scrape
in progress, and besides these every run that its composite has returned without.
-/

namespace MetricScraper.Engine
open Places

/-- Whether a run has a child that has been started and has not ended. -/
def Run.executesChild (place k : Nat) (r : Run) : Bool :=
  r.place == place &&
    match r.job with
    | .single _ => false
    | .group _ g => g.children[k]?.any fun ch => !ch.sent

/-- Whether the composite of a run has returned before a child has ended. -/
def Run.orphans (place k : Nat) (r : Run) : Bool := r.executesChild place k && r.ending.isSome

/-- The number of runs of a child that have been started and have not ended. -/
def State.executingChild (e : State) (place k : Nat) : Nat :=
  e.runs.countP (Run.executesChild place k)

/-- The number of those whose composites have returned. -/
def State.orphaned (e : State) (place k : Nat) : Nat := e.runs.countP (Run.orphans place k)

variable {sc : Scraper} {past : History} {e e' : State} {m : Move} {n k place : Nat} {r r' : Run}

theorem executesChild_iff :
    r.executesChild place k = true ↔
      r.place = place ∧ ∃ c g ch, r.job = .group c g ∧ g.children[k]? = some ch ∧
        ch.sent = false := by
  unfold Run.executesChild
  cases hj : r.job with
  | single t => simp
  | group c g =>
    simp only [Bool.and_eq_true, beq_iff_eq, Option.any_eq_true, Bool.not_eq_true',
      Job.group.injEq]
    constructor
    · intro h
      obtain ⟨hp, ch, hk, hs⟩ := h
      exact ⟨hp, c, g, ch, ⟨rfl, rfl⟩, hk, hs⟩
    · intro h
      obtain ⟨hp, c', g', ch, ⟨rfl, rfl⟩, hk, hs⟩ := h
      exact ⟨hp, ch, hk, hs⟩

/-! ### Children whose composites wait for them -/

/-- A run of a child that is no orphan belongs to a run of its unit that executes itself. -/
theorem executingChild_le (hl : Linked sc e) (place k : Nat) :
    e.executingChild place k ≤ e.executing place + e.orphaned place k := by
  have hsplit : e.executingChild place k =
      e.runs.countP (fun r => r.executesChild place k && r.ending.isNone) +
        e.orphaned place k := by
    rw [State.executingChild, State.orphaned, Nat.add_comm,
      List.countP_eq_countP_filter_add _ _ fun r => r.ending.isSome]
    simp only [List.countP_filter, Option.not_isSome]
    rfl
  have hwait : e.runs.countP (fun r => r.executesChild place k && r.ending.isNone) ≤
      e.executing place := by
    apply countP_le_of_getElem?
    intro n r hr hex
    simp only [Bool.and_eq_true, Option.isNone_iff_eq_none] at hex
    refine ⟨r, hr, isExecutingAt_iff.mpr ⟨(executesChild_iff.mp hex.1).1, ?_⟩⟩
    intro hfin
    exact hl.ending hr hfin hex.2
  omega

/-! ### Children that their composites have returned without -/

/-- A child of a run has sent its result. -/
def Run.ChildSent (k : Nat) (r : Run) : Prop :=
  ∃ c g ch, r.job = .group c g ∧ g.children[k]? = some ch ∧ ch.sent = true

/-- What a child has sent stays sent. -/
theorem JobChange.childSent {job : Job} (h : JobChange e n r m job) (hs : r.ChildSent k) :
    ({ r with job := job } : Run).ChildSent k := by
  obtain ⟨c, g, ch, hj, hk, hsent⟩ := hs
  cases h with
  | work hj' ht => cases hj.symm.trans hj'
  | @childWork _ _ j ch' t' rows hj' hk' ht =>
    cases hj.symm.trans hj'
    by_cases hjk : j = k
    · subst hjk
      cases hk.symm.trans hk'
      exact ⟨_, _, _, rfl, getElem?_set_self _ hk, hsent⟩
    · exact ⟨_, _, ch, rfl, (List.getElem?_set_ne hjk).trans hk, hsent⟩
  | @send _ _ j ch' o hj' hk' hs' ho =>
    cases hj.symm.trans hj'
    by_cases hjk : j = k
    · subst hjk
      exact ⟨_, _, _, rfl, getElem?_set_self _ hk, rfl⟩
    · exact ⟨_, _, ch, rfl, (List.getElem?_set_ne hjk).trans hk, hsent⟩
  | receive hj' hn hp hch =>
    cases hj.symm.trans hj'
    exact ⟨_, _, ch, rfl, hk, hsent⟩

theorem Run.Turn.childSent (h : r.Turn e n m r') (hs : r.ChildSent k) : r'.ChildSent k := by
  cases h with
  | job hj => exact hj.childSent hs
  | _ => exact hs

theorem childSent_lasts {later before : History} {s : State}
    (hc : Course sc (later ++ (s, m) :: before) e) (hr : s.runs[n]? = some r)
    (hs : r.ChildSent k) : ∃ r', e.runs[n]? = some r' ∧ r'.ChildSent k := by
  refine hc.lasts (P := fun e => ∃ r', e.runs[n]? = some r' ∧ r'.ChildSent k) ?_ ⟨r, hr, hs⟩
  intro past e e' m hc h hex
  obtain ⟨r₀, hr₀, hs₀⟩ := hex
  obtain ⟨r', hr', hturn⟩ := run_stays h hr₀
  exact ⟨r', hr', hturn.childSent hs₀⟩

theorem result_of_failed (c : Composite) {runs : List Handover} {child : Child} {o : Handover}
    (elapsed : Duration) (hk : c.children[k]? = some child) (ho : runs[k]? = some o)
    (hfail : o.isOk = false) :
    ∃ failed, (c.handover runs elapsed).result =
      .error (.childrenFailed failed c.children.length) ∧ 0 < failed := by
  have hpart := c.getElem?_parts runs hk ho
  have hpos : 0 < (c.parts runs).countP Part.hasFailed := by
    refine List.countP_pos_iff.mpr ⟨_, List.mem_of_getElem? hpart, ?_⟩
    simp [Composite.part, hfail]
  refine ⟨_, ?_, hpos⟩
  show (c.collect runs []).2 = _
  rw [c.collect_eq, if_neg (Nat.pos_iff_ne_zero.mp hpos)]

/-- A composite returns without a child only after its deadline, and with a failure. -/
theorem late_of_orphans (hc : Course sc past e) (hr : e.runs[n]? = some r)
    (ho : r.orphans place k = true) :
    ∃ later before s h failed total, past = later ++ (s, .conclude n) :: before ∧
      s.isPast r.context.deadline = true ∧ r.ending = some h ∧
      h.result = .error (.childrenFailed failed total) ∧ 0 < failed := by
  simp only [Run.orphans, Bool.and_eq_true] at ho
  obtain ⟨-, c, g, ch, hj, hk, hsent⟩ := executesChild_iff.mp ho.1
  obtain ⟨h, hh⟩ := Option.isSome_iff_exists.mp ho.2
  obtain ⟨⟨name, collector⟩, hu, hsound⟩ := job_of_course hc hr
  obtain ⟨rfl, hg⟩ : collector = .composite c ∧ g.Sound c := by
    rw [hj] at hsound
    cases hsound with
    | group hg => exact ⟨rfl, hg⟩
  obtain ⟨later, before, s, r₁, g₁, runs, rfl, hr₁, hj₁, hg₁, hruns, rfl⟩ :=
    group_of_ending hc hr hu hh
  have hlt := (List.getElem?_eq_some_iff.mp hk).1
  have hlen := hg.children_length
  have hlen₁ := hg₁.children_length
  obtain ⟨ch₁, hk₁⟩ : ∃ ch₁, g₁.children[k]? = some ch₁ :=
    ⟨_, List.getElem?_eq_getElem (by omega)⟩
  obtain ⟨child, hchild⟩ : ∃ child, c.children[k]? = some child :=
    ⟨_, List.getElem?_eq_getElem (by omega)⟩
  -- the child had sent nothing when its composite returned, for what is sent stays sent
  have hsent₁ : ch₁.sent = false := by
    by_contra hs
    rw [Bool.not_eq_false] at hs
    obtain ⟨r', hr', c', g', ch', hj', hk', hs'⟩ :=
      childSent_lasts hc hr₁ ⟨c, g₁, ch₁, hj₁, hk₁, hs⟩
    cases hr.symm.trans hr'
    cases hj.symm.trans hj'
    cases hk.symm.trans hk'
    rw [hsent] at hs'
    cases hs'
  obtain ⟨o, ho₁, hcase⟩ := hg₁.run_of_child hruns hk₁
  rcases hcase with ⟨hs, -⟩ | ⟨-, hlate, rfl⟩
  · rw [hsent₁] at hs
    cases hs
  · obtain ⟨failed, hres, hpos⟩ := result_of_failed c (s.elapsed r₁) hchild ho₁ rfl
    exact ⟨later, before, s, _, failed, _, rfl, hlate, hh, hres, hpos⟩

/-! ### The bound -/

/-- In every course, a child has no more runs at the same time than scrapes have been in progress
at the same time, apart from those that its composite has returned without.  A composite does so
only after its deadline, and it counts the child as failed.  So when scrapes do not overlap, a child
whose composites have always waited for it, as they do without a deadline, never has two runs. -/
theorem child_executing_bounded (sc : Scraper) {past : History} {e : State} (hc : Course sc past e)
    (place k : Nat) :
    e.executingChild place k ≤ peak sc past e + e.orphaned place k ∧
    (∀ (n : Nat) (r : Run), e.runs[n]? = some r → r.orphans place k = true →
      ∃ later before s h failed total, past = later ++ (s, .conclude n) :: before ∧
        s.isPast r.context.deadline = true ∧ r.ending = some h ∧
        h.result = .error (.childrenFailed failed total) ∧ 0 < failed) ∧
    ((∀ r ∈ e.runs, r.place = place → r.context.deadline = none) →
      e.executingChild place k ≤ peak sc past e) := by
  have hbound : e.executingChild place k ≤ peak sc past e + e.orphaned place k := by
    have hsplit := executingChild_le (linked_of_course hc) place k
    have hunit := executing_le_peak hc place
    omega
  refine ⟨hbound, fun n r hr ho => late_of_orphans hc hr ho, ?_⟩
  intro hnone
  have hzero : e.orphaned place k = 0 := by
    rw [State.orphaned, List.countP_eq_zero]
    intro r hmem ho
    obtain ⟨n, hr⟩ := List.mem_iff_getElem?.mp hmem
    obtain ⟨later, before, s, h, failed, total, -, hlate, -⟩ := late_of_orphans hc hr ho
    simp only [Run.orphans, Bool.and_eq_true] at ho
    rw [hnone r hmem (executesChild_iff.mp ho.1).1] at hlate
    simp [State.isPast] at hlate
  omega

/-! ### A child that hangs -/

/-- A scrape of the pair that is late at once: the first child sends its result, the second hangs,
and the composite returns without it. -/
def pairScrape (i n : Nat) : List Move :=
  [.begin (some 0), .note i, .launch i, .send n 0, .receive n, .conclude n, .release n,
    .deliver n, .collect i]

def pairTwice : History × State :=
  play pairScraper [] State.initial (pairScrape 0 0 ++ pairScrape 1 1)

theorem child_executing_bounded_pair :
    pairTwice.2.executingChild 0 1 = 2 ∧
      pairTwice.2.executingChild 0 1 ≤
        peak pairScraper pairTwice.1 pairTwice.2 + pairTwice.2.orphaned 0 1 ∧
      ∃ r, pairTwice.2.runs[0]? = some r ∧ r.orphans 0 1 = true ∧
        ∃ h failed total, r.ending = some h ∧
          h.result = .error (.childrenFailed failed total) ∧ 0 < failed := by
  have hc : Course pairScraper pairTwice.1 pairTwice.2 := Course.start.play _
  obtain ⟨hle, horphan, -⟩ := child_executing_bounded pairScraper hc 0 1
  obtain ⟨-, -, -, h, failed, total, -, -, hh, hres, hpos⟩ := horphan 0 _ rfl (by decide)
  exact ⟨by decide, hle, _, rfl, by decide, h, failed, total, hh, hres, hpos⟩

/-- A child has two runs at the same time though scrapes have not overlapped. -/
theorem hung_child_runs_twice :
    ∃ past e, Course pairScraper past e ∧ peak pairScraper past e ≤ 1 ∧
      e.executingChild 0 1 = 2 :=
  have hc : Course pairScraper pairTwice.1 pairTwice.2 := Course.start.play _
  ⟨_, _, hc, by decide, by decide⟩

/-! ### Any number of runs -/

/-- A state that scrapes lead to that do not overlap. -/
def Sequential (sc : Scraper) (e : State) : Prop := ∃ past, Course sc past e ∧ peak sc past e ≤ 1

theorem Sequential.next (h : Sequential sc e) (hs : e.step sc m = some e')
    (hone : e'.inProgress sc ≤ 1) : Sequential sc e' := by
  obtain ⟨past, hc, hpeak⟩ := h
  exact ⟨(e, m) :: past, .next hc hs, Nat.max_le.mpr ⟨hpeak, hone⟩⟩

/-- A state with one more scrape, and the runs that it has started. -/
def State.extend (e : State) (s : Scrape) (runs : List Run) : State :=
  { e with scrapes := e.scrapes ++ [s], runs := e.runs ++ runs }

theorem inProgress_extend (h : e.inProgress sc = 0) (s : Scrape) (runs : List Run) :
    (e.extend s runs).inProgress sc = if s.isReturned sc.units.length then 0 else 1 := by
  have hold : e.scrapes.countP (fun s => !s.isReturned sc.units.length) = 0 := h
  rw [State.inProgress, State.extend, List.countP_append, hold, List.countP_singleton]
  cases s.isReturned sc.units.length <;> rfl

theorem inProgress_extend_le (h : e.inProgress sc = 0) (s : Scrape) (runs : List Run) :
    (e.extend s runs).inProgress sc ≤ 1 := by
  rw [inProgress_extend h]
  split <;> omega

namespace Pair

/-- What the collectors of a scrape are given that is late at once. -/
def context (e : State) : Context := ⟨.empty, e.now, some (e.now + 0)⟩

def scrape (e : State) (noted : Option Nat) (starts : List Start) (outcomes : List Handover) :
    Scrape :=
  ⟨some (e.now + 0), .collecting (context e), noted, starts, outcomes⟩

def run (e : State) (g : GroupRun) (ending : Option Handover) (status : RunStatus)
    (delivered : Bool) : Run :=
  ⟨e.scrapes.length, 0, context e, e.now, .group pairComposite g, ending, status, delivered⟩

/-- What the first child sends. -/
def first : Handover := .ofEnding [] 0 (.done ())

def children : List ChildRun :=
  [⟨.start (.done ()), true⟩, ⟨.start (.await "gate" (.done ())), false⟩]

/-- The first child has sent its result. -/
def sent : GroupRun := ⟨children, [(0, first)], [none, none], 2⟩

/-- The result of the first child has come in. -/
def received : GroupRun := ⟨children, [], [some first, none], 1⟩

/-- What the composite hands over without the second child. -/
def late : Handover := pairComposite.handover [first, .failed (.timeout 0) 0] 0

/-- Scrapes in a state in which no other is in progress and nothing is stalled. -/
structure Quiet (e : State) : Prop where
  sequential : Sequential pairScraper e
  stalled : e.stalled 0 = 0
  inProgress : e.inProgress pairScraper = 0

theorem launched (h : Quiet e) :
    Sequential pairScraper
      (e.extend (scrape e none [.started e.runs.length] [])
        [run e (.start pairComposite) none .running false]) := by
  have hone := inProgress_extend_le h.inProgress
  have hbegun : Sequential pairScraper (e.extend (scrape e none [] []) []) := by
    refine h.sequential.next (m := .begin (some 0)) ?_ (hone _ _)
    simp [State.step, State.begin, State.extend, scrape, context, pairScraper, Scraper.ofUnits,
      phaseAfter]
  have hnoted : Sequential pairScraper (e.extend (scrape e (some 0) [] []) []) := by
    refine hbegun.next (m := .note e.scrapes.length) ?_ (hone _ _)
    simp [State.step, State.note, State.setScrape, State.extend, scrape, pairScraper,
      Scraper.ofUnits, h.stalled]
  refine hnoted.next (m := .launch e.scrapes.length) ?_ (hone _ _)
  simp [State.step, State.launch, State.setScrape, State.extend, scrape, run, pairScraper,
    Scraper.ofUnits, Job.start]

theorem returned (h : Quiet e) :
    Sequential pairScraper
      (e.extend (scrape e none [.started e.runs.length] [])
        [run e received (some late) .running false]) := by
  have hone := inProgress_extend_le h.inProgress
  have hsent : Sequential pairScraper
      (e.extend (scrape e none [.started e.runs.length] [])
        [run e sent none .running false]) := by
    refine (launched h).next (m := .send e.runs.length 0) ?_ (hone _ _)
    simp [State.step, State.changeJob, State.setRun, State.extend, State.elapsed, run, Job.send,
      GroupRun.start, pairComposite, Composite.ofChildren, sent, children, first, Task.handover?,
      Task.start, Task.ending?, Record.empty]
  have hreceived : Sequential pairScraper
      (e.extend (scrape e none [.started e.runs.length] [])
        [run e received none .running false]) := by
    refine hsent.next (m := .receive e.runs.length) ?_ (hone _ _)
    simp [State.step, State.changeJob, State.setRun, State.extend, run, Job.receive, sent,
      received]
  refine hreceived.next (m := .conclude e.runs.length) ?_ (hone _ _)
  simp [State.step, State.endJob, State.setRun, State.extend, State.elapsed, State.isPast, run,
    context, Job.conclude?, GroupRun.runs?, GroupRun.silence?, GroupRun.records, Silence.record,
    received, children, late]

theorem collected (h : Quiet e) :
    Sequential pairScraper
      (e.extend (scrape e none [.started e.runs.length] [late])
        [run e received (some late) .finished true]) := by
  have hone := inProgress_extend_le h.inProgress
  have hreleased : Sequential pairScraper
      (e.extend (scrape e none [.started e.runs.length] [])
        [run e received (some late) .finished false]) := by
    refine (returned h).next (m := .release e.runs.length) ?_ (hone _ _)
    simp [State.step, State.release, State.setRun, State.extend, run]
  have hdelivered : Sequential pairScraper
      (e.extend (scrape e none [.started e.runs.length] [])
        [run e received (some late) .finished true]) := by
    refine hreleased.next (m := .deliver e.runs.length) ?_ (hone _ _)
    simp [State.step, State.deliver, State.setRun, State.extend, run]
  refine hdelivered.next (m := .collect e.scrapes.length) ?_ (hone _ _)
  simp [State.step, State.collect, State.setScrape, State.extend, scrape, run, State.nextStart?,
    pairScraper, Scraper.ofUnits]

/-- One more scrape leaves one more run of the second child, and nothing that is stalled. -/
theorem again (h : Quiet e) :
    ∃ e', Quiet e' ∧ e'.executingChild 0 1 = e.executingChild 0 1 + 1 := by
  refine ⟨_, ⟨collected h, h.stalled, ?_⟩, ?_⟩
  · rw [inProgress_extend h.inProgress]
    rfl
  · simp [State.executingChild, State.extend, Run.executesChild, run, received, children]

end Pair

/-- Scrapes one after another lead to any number of runs of a child at the same time. -/
theorem child_executing_unbounded (count : Nat) :
    ∃ e, Sequential pairScraper e ∧ e.executingChild 0 1 = count := by
  have hquiet : ∃ e, Pair.Quiet e ∧ e.executingChild 0 1 = count := by
    induction count with
    | zero => exact ⟨_, ⟨⟨[], .start, by decide⟩, rfl, rfl⟩, rfl⟩
    | succ count ih =>
      obtain ⟨e, h, hcount⟩ := ih
      obtain ⟨e', h', hmore⟩ := Pair.again h
      exact ⟨e', h', by rw [hmore, hcount]⟩
  obtain ⟨e, h, hcount⟩ := hquiet
  exact ⟨e, h.sequential, hcount⟩

end MetricScraper.Engine
