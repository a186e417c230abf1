import MetricScraper.Proofs.Engine.Answers
import MetricScraper.Proofs.Engine.Fetches

/-!
# Scrapes come to an answer

A scrape whose patience is over is never stuck, whatever its source and its collectors do: it gives
up on its fetch, starts its units, and takes or gives up on the run of each.  It makes no more of
these moves than its units need.
-/

namespace MetricScraper.Engine
open Places

/-! ### What a scrape has to do yet -/

/-- Whether a move is one that a scrape makes of itself to get on. -/
def Move.getsOn (i : Nat) : Move → Bool
  | .fetchLate j => j == i
  | .note j => j == i
  | .launch j => j == i
  | .collect j => j == i
  | .giveUp j => j == i
  | _ => false

def Phase.toDo : Phase → Nat
  | .fetching => 1
  | _ => 0

/-- How many moves a scrape has to make yet. -/
def Scrape.toDo (units : Nat) (s : Scrape) : Nat :=
  s.phase.toDo + 2 * (units - s.starts.length) - (if s.noted.isSome then 1 else 0) +
    (units - s.outcomes.length)

/-- Whether there is nothing left that a scrape has to wait for: its patience is over, or its fetch
and all of its runs are. -/
def Scrape.MayGo (sc : Scraper) (e : State) (i : Nat) (s : Scrape) : Prop :=
  e.isPast (s.deadline.map (· + grace)) = true ∨
    (∃ c, s.phase = .collecting c) ∧ s.starts.length = sc.units.length ∧
      ∀ (n : Nat) (r : Run), e.runs[n]? = some r → r.scrape = i → r.delivered = true

variable {sc : Scraper} {past : History} {e e' : State} {m : Move} {i : Nat} {s t : Scrape}

theorem toDo_fetched {units : Nat} (hn : s.noted = none) (hp : s.phase = .fetching)
    (now : Duration) (snapshot : Option Snapshot) :
    ({ s with phase := phaseAfter now s.deadline snapshot } : Scrape).toDo units + 1 =
      s.toDo units := by
  cases snapshot <;> simp [Scrape.toDo, hp, hn, phaseAfter, Phase.toDo] <;> omega

theorem toDo_note {units : Nat} (hn : s.noted = none) (hl : s.starts.length < units)
    (stalled : Nat) :
    ({ s with noted := some stalled } : Scrape).toDo units + 1 = s.toDo units := by
  simp [Scrape.toDo, hn]
  omega

theorem toDo_start {units stalled : Nat} (hn : s.noted = some stalled)
    (hl : s.starts.length < units) (x : Start) :
    ({ s with noted := none, starts := s.starts ++ [x] } : Scrape).toDo units + 1 =
      s.toDo units := by
  simp [Scrape.toDo, hn]
  omega

theorem toDo_outcome {units : Nat} (hl : s.outcomes.length < units) (o : Handover) :
    ({ s with outcomes := s.outcomes ++ [o] } : Scrape).toDo units + 1 = s.toDo units := by
  simp [Scrape.toDo]
  omega

/-- A scrape gets on by a move of its own. -/
def Proceeds (sc : Scraper) (e : State) (i : Nat) (s : Scrape) : Prop :=
  ∃ m e' t, m.getsOn i = true ∧ Effect sc e m e' ∧ e'.scrapes[i]? = some t ∧
    t.toDo sc.units.length < s.toDo sc.units.length ∧ t.MayGo sc e' i ∧ t.phase ≠ .failed

theorem isPast_of_grace {deadline : Option Duration}
    (h : e.isPast (deadline.map (· + grace)) = true) : e.isPast deadline = true := by
  cases deadline with
  | none => cases h
  | some d =>
    simp only [State.isPast, Option.map_some, decide_eq_true_eq] at h ⊢
    exact Nat.le_trans (Nat.le_add_right d grace) h

theorem proceeds_fetchLate (hf : s.Fits sc.units.length) (hs : e.scrapes[i]? = some s)
    (hp : s.phase = .fetching) (hgo : e.isPast (s.deadline.map (· + grace)) = true) :
    Proceeds sc e i s := by
  have hnone : s.noted = none := (hf.idle (by simp [hp])).2
  exact ⟨.fetchLate i, _, _, beq_self_eq_true i, .fetchLate hs hp (isPast_of_grace hgo),
    getElem?_set_self _ hs, Nat.le_of_eq (toDo_fetched hnone hp _ _), Or.inl hgo,
    by simp [phaseAfter]⟩

theorem proceeds_start {c : Context} (hs : e.scrapes[i]? = some s) (hp : s.phase = .collecting c)
    (hl : s.starts.length < sc.units.length)
    (hgo : e.isPast (s.deadline.map (· + grace)) = true) : Proceeds sc e i s := by
  cases hn : s.noted with
  | none =>
    exact ⟨.note i, _, _, beq_self_eq_true i, .note hs hp hn hl, getElem?_set_self _ hs,
      Nat.le_of_eq (toDo_note hn hl _), Or.inl hgo, by simp [hp]⟩
  | some stalled =>
    have hless := fun x => Nat.le_of_eq (toDo_start hn hl x)
    by_cases hz : 0 < stalled
    · exact ⟨.launch i, _, _, beq_self_eq_true i, .skip hs hp hn hl hz, getElem?_set_self _ hs,
        hless _, Or.inl hgo, by simp [hp]⟩
    · obtain ⟨u, hu⟩ : ∃ u, sc.units[s.starts.length]? = some u := ⟨_, List.getElem?_eq_getElem hl⟩
      have hzero : stalled = 0 := by omega
      rw [hzero] at hn
      exact ⟨.launch i, _, _, beq_self_eq_true i, .launch hs hp hn hu, getElem?_set_self _ hs,
        hless _, Or.inl hgo, by simp [hp]⟩

theorem proceeds_outcome {c : Context} (hl : Linked sc e) (hs : e.scrapes[i]? = some s)
    (hp : s.phase = .collecting c) (hall : s.starts.length = sc.units.length)
    (hlt : s.outcomes.length < sc.units.length) (hgo : s.MayGo sc e i) : Proceeds sc e i s := by
  have hless := fun o => Nat.le_of_eq (toDo_outcome hlt o)
  obtain ⟨x, hx⟩ : ∃ x, s.starts[s.outcomes.length]? = some x :=
    ⟨_, List.getElem?_eq_getElem (by omega)⟩
  have hnext : State.nextStart? sc s = some x := nextStart?_eq_some.mpr ⟨hall, hx⟩
  cases x with
  | skipped stalled =>
    exact ⟨.collect i, _, _, beq_self_eq_true i, .collectSkipped hs hnext, getElem?_set_self _ hs,
      hless _, hgo, by simp [hp]⟩
  | started n =>
    obtain ⟨r, hr, hri, -⟩ := hl.run_of_start hs hx
    cases hd : r.delivered with
    | true =>
      obtain ⟨o, ho⟩ := Option.ne_none_iff_exists'.mp (hl.ending hr (hl.delivered hr hd))
      exact ⟨.collect i, _, _, beq_self_eq_true i, .collect hs hnext hr hd ho,
        getElem?_set_self _ hs, hless _, hgo, by simp [hp]⟩
    | false =>
      -- the run is not delivered, so it can only be the patience of the scrape that is over
      have hpast : e.isPast (s.deadline.map (· + grace)) = true := by
        refine hgo.resolve_right fun h => ?_
        have hdel := h.2.2 n r hr hri
        rw [hd] at hdel
        cases hdel
      by_cases hst : r.status = .running
      · exact ⟨.giveUp i, _, _, beq_self_eq_true i, .abandon hs hnext hr hd hpast hst,
          getElem?_set_self _ hs, hless _, Or.inl hpast, by simp [hp]⟩
      · exact ⟨.giveUp i, _, _, beq_self_eq_true i, .miss hs hnext hr hd hpast hst,
          getElem?_set_self _ hs, hless _, Or.inl hpast, by simp [hp]⟩

/-- A scrape that has nothing to wait for is never stuck. -/
theorem proceeds (hl : Linked sc e) (hs : e.scrapes[i]? = some s) (hp : s.phase ≠ .failed)
    (hr : s.isReturned sc.units.length = false) (hgo : s.MayGo sc e i) : Proceeds sc e i s := by
  have hf := hl.fits hs
  cases hphase : s.phase with
  | failed => exact absurd hphase hp
  | fetching =>
    refine proceeds_fetchLate hf hs hphase (hgo.resolve_right fun h => ?_)
    obtain ⟨⟨c, hc⟩, -⟩ := h
    rw [hphase] at hc
    cases hc
  | collecting c =>
    by_cases hall : s.starts.length = sc.units.length
    · refine proceeds_outcome hl hs hphase hall ?_ hgo
      have hle := hf.outcomes_le
      simp only [Scrape.isReturned, hphase, beq_eq_false_iff_ne] at hr
      omega
    · have hle := hf.starts_le
      exact proceeds_start hs hphase (by omega) (hgo.resolve_right fun h => hall h.2.1)

theorem answer?_of_isReturned (hp : s.phase ≠ .failed)
    (hr : s.isReturned sc.units.length = true) : ∃ report, s.answer? sc = some (.ok report) := by
  cases hphase : s.phase with
  | failed => exact absurd hphase hp
  | fetching => simp [Scrape.isReturned, hphase] at hr
  | collecting c => exact ⟨.ofHandovers sc s.outcomes, by simp [Scrape.answer?, hphase, hr]⟩

/-- By its own moves, a scrape that has nothing to wait for comes to its report. -/
theorem returns_of_mayGo (hc : Course sc past e) (hs : e.scrapes[i]? = some s)
    (hp : s.phase ≠ .failed) (hgo : s.MayGo sc e i) :
    ∃ later e' t report, Course sc (later ++ past) e' ∧ (∀ p ∈ later, p.2.getsOn i = true) ∧
      e'.scrapes[i]? = some t ∧ t.answer? sc = some (.ok report) := by
  -- each move of its own leaves the scrape less to do and still nothing to wait for
  induction hsize : s.toDo sc.units.length using Nat.strong_induction_on
    generalizing past e s with
  | _ size ih =>
    cases hr : s.isReturned sc.units.length with
    | true =>
      obtain ⟨report, ha⟩ := answer?_of_isReturned hp hr
      exact ⟨[], e, s, report, hc, by simp, hs, ha⟩
    | false =>
      obtain ⟨m, e₁, t, hm, heff, ht, hlt, hgo₁, hp₁⟩ :=
        proceeds (linked_of_course hc) hs hp hr hgo
      obtain ⟨later, e', t', report, hc', hall, ht', ha⟩ :=
        ih _ (hsize ▸ hlt) (.next hc (step_of_effect heff)) ht hp₁ hgo₁ rfl
      refine ⟨later ++ [(e, m)], e', t', report, by simpa using hc', ?_, ht', ha⟩
      intro p hmem
      rcases List.mem_append.mp hmem with hmem | hmem
      · exact hall p hmem
      · rw [List.mem_singleton.mp hmem]
        exact hm

/-- With a deadline, a scrape comes to its report as time passes, if nothing else happens. -/
theorem returns_of_deadline (hc : Course sc past e) (hs : e.scrapes[i]? = some s)
    (hp : s.phase ≠ .failed) {d : Duration} (hd : s.deadline = some d) :
    ∃ later e' t report, Course sc (later ++ past) e' ∧
      (∀ p ∈ later, p.2.getsOn i = true ∨ ∃ time, p.2 = .pass time) ∧
      e'.scrapes[i]? = some t ∧ t.answer? sc = some (.ok report) := by
  have hpass : Effect sc e (.pass (d + grace)) { e with now := e.now + (d + grace) } :=
    .pass (d + grace)
  have hgo : s.MayGo sc { e with now := e.now + (d + grace) } i := by
    refine Or.inl ?_
    simp only [hd, Option.map_some, State.isPast, decide_eq_true_eq]
    exact Nat.le_add_left (d + grace) e.now
  obtain ⟨later, e', t, report, hc', hall, ht, ha⟩ :=
    returns_of_mayGo (.next hc (step_of_effect hpass)) hs hp hgo
  refine ⟨later ++ [(e, .pass (d + grace))], e', t, report, by simpa using hc', ?_, ht, ha⟩
  intro p hmem
  rcases List.mem_append.mp hmem with hmem | hmem
  · exact Or.inl (hall p hmem)
  · rw [List.mem_singleton.mp hmem]
    exact Or.inr ⟨_, rfl⟩

/-! ### A scrape makes no more moves of its own than it has to -/

theorem JobChange.getsOn_eq {n : Nat} {r : Run} {job : Job} (h : JobChange e n r m job) :
    m.getsOn i = false := by
  cases h <;> rfl

theorem toDo_of_set {j : Nat} {s' u : Scrape} (hs : e.scrapes[i]? = some s)
    (hu : e.scrapes[j]? = some u) (ht : (e.scrapes.set j s')[i]? = some t) {units : Nat}
    (hother : j ≠ i → m.getsOn i = false)
    (hself : j = i → s'.toDo units + (if m.getsOn i then 1 else 0) ≤ u.toDo units) :
    t.toDo units + (if m.getsOn i then 1 else 0) ≤ s.toDo units := by
  rcases getElem?_set_some ht with ⟨rfl, rfl⟩ | ⟨hij, ht⟩
  · cases hs.symm.trans hu
    exact hself rfl
  · cases hs.symm.trans ht
    simp [hother hij]

theorem outcomes_lt_of_nextStart? {x : Start} (h : State.nextStart? sc s = some x) :
    s.outcomes.length < sc.units.length := by
  obtain ⟨hall, hx⟩ := nextStart?_eq_some.mp h
  rw [← hall]
  exact (List.getElem?_eq_some_iff.mp hx).1

theorem scrape_toDo_step (h : Effect sc e m e') (hl : Linked sc e) (hs : e.scrapes[i]? = some s)
    (ht : e'.scrapes[i]? = some t) :
    t.toDo sc.units.length + (if m.getsOn i then 1 else 0) ≤ s.toDo sc.units.length := by
  have same : m.getsOn i = false → e.scrapes[i]? = some t →
      t.toDo sc.units.length + (if m.getsOn i then 1 else 0) ≤ s.toDo sc.units.length := by
    intro hm ht
    cases hs.symm.trans ht
    simp [hm]
  have other : ∀ {j : Nat}, j ≠ i → (j == i) = false := fun hij => beq_false_of_ne hij
  have own : ∀ {a b : Nat}, a + 1 = b → ∀ {c : Bool}, a + (if c then 1 else 0) ≤ b := by
    intro a b hab c
    split <;> omega
  cases h with
  | begin timeout =>
    rcases getElem?_concat_some ht with ht | ⟨hlen, -⟩
    · exact same rfl ht
    · have hlt := (List.getElem?_eq_some_iff.mp hs).1
      omega
  | fetched answer hu hp =>
    have hnone := ((hl.fits hu).idle (by simp [hp])).2
    exact toDo_of_set hs hu ht (fun _ => rfl) fun _ => own (toDo_fetched hnone hp _ _)
  | fetchLate hu hp hd =>
    have hnone := ((hl.fits hu).idle (by simp [hp])).2
    exact toDo_of_set hs hu ht other fun _ => own (toDo_fetched hnone hp _ _)
  | note hu hp hn hlt => exact toDo_of_set hs hu ht other fun _ => own (toDo_note hn hlt _)
  | skip hu hp hn hlt h => exact toDo_of_set hs hu ht other fun _ => own (toDo_start hn hlt _)
  | launch hu hp hn hunit =>
    have hlt := (List.getElem?_eq_some_iff.mp hunit).1
    exact toDo_of_set hs hu ht other fun _ => own (toDo_start hn hlt _)
  | collectSkipped hu hn =>
    exact toDo_of_set hs hu ht other fun _ => own (toDo_outcome (outcomes_lt_of_nextStart? hn) _)
  | collect hu hn hr hd hh =>
    exact toDo_of_set hs hu ht other fun _ => own (toDo_outcome (outcomes_lt_of_nextStart? hn) _)
  | abandon hu hn hr hd hp hst =>
    exact toDo_of_set hs hu ht other fun _ => own (toDo_outcome (outcomes_lt_of_nextStart? hn) _)
  | miss hu hn hr hd hp hst =>
    exact toDo_of_set hs hu ht other fun _ => own (toDo_outcome (outcomes_lt_of_nextStart? hn) _)
  | job hr hj => exact same hj.getsOn_eq ht
  | _ => exact same rfl ht

theorem getsOn_of_isOf (h : m.isOf e i = false) : m.getsOn i = false := by
  cases m <;> simp_all [Move.isOf, Move.getsOn]

theorem countP_getsOn_eq_zero (hc : Course sc past e) (hi : e.scrapes.length ≤ i) :
    past.countP (fun p => p.2.getsOn i) = 0 := by
  rw [List.countP_eq_zero]
  intro p hp hm
  rw [getsOn_of_isOf (isOf_eq_false hc hi p hp)] at hm
  cases hm

/-- The moves of its own that a scrape has made and those that it has to make yet are no more than
one for its fetch and three for each unit. -/
theorem getsOn_add_toDo (hc : Course sc past e) (hs : e.scrapes[i]? = some s) :
    past.countP (fun p => p.2.getsOn i) + s.toDo sc.units.length ≤ 3 * sc.units.length + 1 := by
  induction hc generalizing s with
  | start => simp [State.initial] at hs
  | @next past e e' m hc h ih =>
    have heff := effect_of_step h
    rw [List.countP_cons]
    dsimp only
    rcases scrape_turn heff hs with ⟨s₀, hs₀, -⟩ | ⟨hlen, hn, hx, ho, -⟩
    · have hstep := scrape_toDo_step heff (linked_of_course hc) hs₀ hs
      have hsum := ih hs₀
      omega
    · -- the scrape begins by this move, so it is none of those by which it gets on
      have hm : ¬ m.getsOn i = true := fun hm => by
        rcases begin_cases heff with ⟨timeout, rfl, -⟩ | ⟨-, hsame⟩
        · cases hm
        · have hlt := (List.getElem?_eq_some_iff.mp hs).1
          omega
      have hphase : s.phase.toDo ≤ 1 := by
        cases s.phase <;> simp [Phase.toDo]
      rw [countP_getsOn_eq_zero hc (Nat.le_of_eq hlen), if_neg hm, Scrape.toDo, hn, hx, ho]
      simp only [Option.isSome_none, Bool.false_eq_true, if_false, List.length_nil]
      omega

/-! ### What a scrape comes to -/

theorem collectors_of_answer {report : Report} (ha : s.answer? sc = some (.ok report)) :
    report.outcomes.map Outcome.collector = sc.units.map Prod.fst := by
  obtain ⟨hlen, rfl⟩ := of_answer? ha
  have hfst : (sc.units.zip s.outcomes).map Prod.fst = sc.units :=
    List.map_fst_zip (Nat.le_of_eq hlen.symm)
  conv_rhs => rw [← hfst]
  simp [Report.ofHandovers, Outcome.ofHandover, Function.comp_def]

theorem failed_iff_answer? : s.phase = .failed ↔ s.answer? sc = some (.error .context) := by
  cases hp : s.phase with
  | fetching => simp [Scrape.answer?, hp]
  | failed => simp [Scrape.answer?, hp]
  | collecting c =>
    simp only [Scrape.answer?, hp, reduceCtorEq, false_iff]
    split <;> simp

/-- In every course, whatever the source and the collectors do, a scrape calls once for the objects
that its collectors read, or not at all if they read none, and nothing else is called for.  It fails
exactly if its fetch panicked before it gave up on it, as it does only past its deadline.  Otherwise
its report has an outcome for each unit, and its collectors are given the snapshot that the fetch
was answered with, or an error for each object that was called for and nothing for the others.  With
a deadline, or when all of its runs have been delivered, the scrape comes to such a report by
at most three moves of its own for each unit and one for its fetch. -/
theorem scrape_fetches_once (sc : Scraper) (hc : Course sc past e)
    (hs : e.scrapes[i]? = some s) :
    calls sc past i = (if sc.dependencies = [] then [] else [sc.dependencies]) ∧
    e.fetches = (List.range e.scrapes.length).flatMap (calls sc past) ∧
    (s.answer? sc = some (.error .context) ↔ fetchEnds past i = [.came .panicked]) ∧
    (∀ e₀, (e₀, .fetchLate i) ∈ past → e₀.isPast s.deadline = true) ∧
    (∀ report, s.answer? sc = some (.ok report) →
      report.outcomes.map Outcome.collector = sc.units.map Prod.fst) ∧
    (∀ (n : Nat) (r : Run), e.runs[n]? = some r → r.scrape = i →
      r.context.deadline = s.deadline ∧ Given sc (fetchEnds past i) r.context.snapshot) ∧
    (fetchEnds past i ≠ [.came .panicked] → s.deadline ≠ none ∨ s.MayGo sc e i →
      ∃ later e' t report, Course sc (later ++ past) e' ∧
        (∀ p ∈ later, p.2.getsOn i = true ∨ ∃ time, p.2 = .pass time) ∧
        e'.scrapes[i]? = some t ∧ t.answer? sc = some (.ok report)) ∧
    past.countP (fun p => p.2.getsOn i) ≤ 3 * sc.units.length + 1 := by
  have hfetched := fetched_of_course hc hs
  refine ⟨?_, fetches_of_course hc, ?_, ?_, ?_, ?_, ?_, ?_⟩
  · rw [calls_of_course hc, if_pos (List.getElem?_eq_some_iff.mp hs).1, Scraper.request]
    simp only [List.isEmpty_iff]
  · rw [← failed_iff_answer?]
    exact hfetched.failed_iff
  · intro e₀ hm
    exact late_of_course hc hs hm
  · intro report ha
    exact collectors_of_answer ha
  · intro n r hr hri
    obtain ⟨s', hs', hp⟩ := context_of_course hc hr
    rw [hri] at hs'
    cases hs.symm.trans hs'
    exact (hfetched.given hp).symm
  · intro hpanic hgo
    have hp : s.phase ≠ .failed := fun hp => hpanic (hfetched.failed_iff.mp hp)
    rcases hgo with hd | hgo
    · obtain ⟨d, hd⟩ := Option.ne_none_iff_exists'.mp hd
      exact returns_of_deadline hc hs hp hd
    · obtain ⟨later, e', t, report, hc', hall, ht, ha⟩ := returns_of_mayGo hc hs hp hgo
      exact ⟨later, e', t, report, hc', fun p hmem => Or.inl (hall p hmem), ht, ha⟩
  · have hbound := getsOn_add_toDo hc hs
    omega

/-- A scraper whose only collector reads counters and waits at a gate. -/
def countersScraper : Scraper :=
  .ofUnits "windows" [("gated", .single (.await "gate" (.done ())))] ["System"]

/-- A scrape that gives up on its fetch and starts its collector. -/
def countersPlay : History × State :=
  play countersScraper [] State.initial [.begin (some 0), .fetchLate 0, .note 0, .launch 0]

/-- The collector is given an error for the object that it reads, and nothing else. -/
theorem scrape_fetches_once_late :
    ∃ s r, countersPlay.2.scrapes[0]? = some s ∧ countersPlay.2.runs[0]? = some r ∧
      calls countersScraper countersPlay.1 0 = [["System"]] ∧
      s.answer? countersScraper ≠ some (.error .context) ∧
      Given countersScraper [.late] r.context.snapshot := by
  have hc : Course countersScraper countersPlay.1 countersPlay.2 := Course.start.play _
  obtain ⟨hcalls, -, hfailed, -, -, hgiven, -⟩ :=
    scrape_fetches_once countersScraper hc (i := 0) rfl
  refine ⟨_, _, rfl, rfl, hcalls, ?_, (hgiven 0 _ rfl rfl).2⟩
  intro hf
  have hends := hfailed.mp hf
  cases hends

end MetricScraper.Engine
