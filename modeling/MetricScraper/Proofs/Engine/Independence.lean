import MetricScraper.Proofs.Engine.Prompt
import MetricScraper.Proofs.Engine.Reports

/-!
# Units that do not depend on the counters

What a scrape has of a unit that reads no counters depends on the source of the counters by one
thing only: whether the fetch lasted to the deadline.  Then the unit may find itself out of time
before it has begun.
-/

namespace MetricScraper.Engine

variable {sc : Scraper} {past : History} {e : State} {s : Scrape} {c c' : Context} {place : Nat}
  {rows : Rows} {w : Work Unit}

/-! ### Fates of prompt units -/

/-- The fate that the work of a prompt unit brings it in a scrape. -/
def Context.fate (c : Context) (rows : Rows) (w : Work Unit) : Fate :=
  .ended (c.result rows w).1.samples (c.result rows w).2

theorem fate_congr (h : c.isLate = c'.isLate) : c.fate rows w = c'.fate rows w := by
  simp only [Context.fate, Context.result, Context.moment, h]

/-- A unit does what it does after a timely fetch, or is out of time and hands out nothing. -/
theorem fate_of_timely (hw : w.Batch) (h : c'.isLate = false) :
    c.fate rows w = c'.fate rows w ∨
      ∃ waited, c.fate rows w = .ended [] (.failed (.timeout waited)) := by
  have htimeless : World.timeless (fun _ => c.moment rows) = fun _ => c'.moment rows := by
    simp only [Context.moment, h]
    rfl
  rcases Work.run_timeless (fun _ => c.moment rows) w Record.empty with heq | ⟨waited, hlate⟩
  · rw [htimeless] at heq
    refine Or.inl ?_
    simp only [Context.fate, Context.result, heq]
  · refine Or.inr ⟨waited, ?_⟩
    rcases hw.run_cases (fun _ => c.moment rows) Record.empty with
      ⟨error, hfail, hsame⟩ | ⟨out, hdone, -⟩
    · simp only [Context.fate, Context.result, hlate, hsame]
      rfl
    · rw [hlate] at hdone
      cases hdone

/-- What a scrape has of a prompt unit is what the work of the unit comes to. -/
theorem fate_of_fares {u : String × Collector} (hu : sc.units[place]? = some u)
    (hcol : u.2 = .single w) (hw : w.Batch) (hc : Course sc past e) (hp : Prompt place rows past)
    {i : Nat} (hs : e.scrapes[i]? = some s) (hphase : s.phase = .collecting c) {f : Fate}
    {elapsed : Duration} (hf : Fares sc past e s place f elapsed) :
    f.samples = (c.fate rows w).samples ∧ f.succeeded = (c.fate rows w).succeeded := by
  have hti := timely_of_course hc hp
  have hl := linked_of_course hc
  cases hf with
  | @ended n r u' samples ending elapsed hx hg hr hu' hret =>
    obtain ⟨r', hr', hi, hplace⟩ := hl.run_of_start hs hx
    cases hr.symm.trans hr'
    obtain ⟨s', hs', hphase'⟩ := context_of_course hc hr
    rw [hi] at hs'
    cases hs.symm.trans hs'
    cases hphase.symm.trans hphase'
    obtain ⟨-, -, -, -, -, -, -, -, hending⟩ := hret
    obtain ⟨elapsed', heq⟩ := (follows_of_course hu hcol hw hc hp hr hplace).handed hending
    rw [← Fate.handover_ended, ← Fate.handover_ended] at heq
    constructor
    · have hsamples := congrArg Handover.samples heq
      rwa [Fate.samples_handover, Fate.samples_handover] at hsamples
    · have hok := congrArg Handover.isOk heq
      rwa [Fate.isOk_handover, Fate.isOk_handover] at hok
  | late hx hg waited =>
    obtain ⟨r, hr, -, hplace⟩ := hl.run_of_start hs hx
    exact absurd hg (hti.kept hr hplace)
  | skipped hx =>
    obtain ⟨n, hn⟩ := hti.started hs hx
    cases hn

/-! ### Two scrapes -/

/-- A scrape and its report, in a course in which the unit at a place is prompt. -/
structure Reported (sc : Scraper) (place : Nat) (rows : Rows) (past : History) (e : State)
    (s : Scrape) (c : Context) (report : Report) : Prop where
  course : Course sc past e
  prompt : Prompt place rows past
  scrape : ∃ i : Nat, e.scrapes[i]? = some s
  phase : s.phase = .collecting c
  answer : s.answer? sc = some (.ok report)

theorem Reported.part {report : Report} (h : Reported sc place rows past e s c report)
    {u : String × Collector} (hu : sc.units[place]? = some u) (hcol : u.2 = .single w)
    (hw : w.Batch) :
    ∃ fares p, Tells sc past e s report fares ∧ (sc.parts fares)[place]? = some p ∧
      p.untimed = ((c.fate rows w).samples,
        ⟨sc.success, if (c.fate rows w).succeeded then 1.0 else 0.0, [u.1]⟩) ∧
      p.hasFailed = !(c.fate rows w).succeeded := by
  obtain ⟨i, hs⟩ := h.scrape
  obtain ⟨fares, htells⟩ := tells_of_answer h.course hs h.answer
  have hlt := (List.getElem?_eq_some_iff.mp hu).1
  obtain ⟨f, hf⟩ : ∃ f, fares[place]? = some f :=
    ⟨_, List.getElem?_eq_getElem (htells.length.symm ▸ hlt)⟩
  obtain ⟨hsamples, hsucceeded⟩ := fate_of_fares hu hcol hw h.course h.prompt hs h.phase
    (htells.fates place f hf)
  refine ⟨fares, _, htells, Scraper.getElem?_parts hu hf, ?_, ?_⟩
  · rw [Scraper.untimed_part, hsamples, hsucceeded]
  · rw [Scraper.part, Part.hasFailed_ofRun, hsucceeded]

/-- Of a unit that reads no counters, two scrapes have the same samples and the same success,
whatever their fetches came to, if both fetches or neither lasted to the deadline.  After a fetch
that did, a scrape has of the unit what it has after one that did not, or a failure without any
samples. -/
theorem independent_of_source {u : String × Collector} (hu : sc.units[place]? = some u)
    {settings : Settings} {b : Builtin} (hb : b.build settings = .ok u.2)
    (hne : b ≠ .replication) {report : Report}
    (h : Reported sc place rows past e s c report) {past' : History} {e' : State} {s' : Scrape}
    {report' : Report} (h' : Reported sc place rows past' e' s' c' report') :
    ∃ fares fares' p p', Tells sc past e s report fares ∧ Tells sc past' e' s' report' fares' ∧
      (sc.parts fares)[place]? = some p ∧ (sc.parts fares')[place]? = some p' ∧
      (c.isLate = c'.isLate → p.untimed = p'.untimed) ∧
      (c'.isLate = false → p.untimed = p'.untimed ∨ p.samples = [] ∧ p.hasFailed = true) := by
  obtain ⟨w, hcol, hw⟩ := Builtin.batch_of_build hb hne
  obtain ⟨fares, p, htells, hp, hu₁, hfailed⟩ := h.part hu hcol hw
  obtain ⟨fares', p', htells', hp', hu₂, -⟩ := h'.part hu hcol hw
  refine ⟨fares, fares', p, p', htells, htells', hp, hp', ?_, ?_⟩
  · intro hsame
    rw [hu₁, hu₂, fate_congr hsame]
  · intro htimely
    have hfate : c.fate rows w = c'.fate rows w ∨ _ := fate_of_timely hw htimely
    rcases hfate with heq | ⟨waited, heq⟩
    · exact Or.inl (by rw [hu₁, hu₂, heq])
    · rw [heq] at hu₁ hfailed
      exact Or.inr ⟨congrArg Prod.fst hu₁, hfailed⟩

/-! ### A late fetch and a timely one -/

theorem play_cons {e' : State} {m : Move} {moves : List Move} (h : e.step sc m = some e') :
    play sc past e (m :: moves) = play sc ((e, m) :: past) e' moves := by
  rw [play, h]

theorem Prompt.play {moves : List Move} (hp : Prompt place rows past)
    (hrows : ∀ (n : Nat) (rows' : Rows), .work n rows' ∈ moves → rows' = rows)
    (hpass : ∀ time, .pass time ∉ moves) : Prompt place rows (play sc past e moves).1 where
  answers hm := (mem_play hm).elim (fun h => hp.answers h) fun h => hrows _ _ h
  fetching hm := (mem_play hm).elim (fun h => hp.fetching h) fun h => absurd h (hpass _)
  collecting hm := (mem_play hm).elim (fun h => hp.collecting h) fun h => absurd h (hpass _)

theorem prompt_nil (place : Nat) (rows : Rows) : Prompt place rows [] := by
  constructor <;> intros <;> contradiction

/-- File replication, which reads one counter object, and a collector of containers. -/
def mixedScraper : Scraper :=
  .ofUnits "windows"
    [("dfsr", .composite (Replication.composite "windows" [.volume])),
      ("container", .single (Containers.collect "windows"))]
    [Replication.Source.volume.object]

/-- One container without statistics. -/
def oneContainer : Rows := fun _ =>
  .ok [⟨[("Id", .text "a"), ("Type", .text "Container"), ("ContainerId", .text "a")]⟩]

/-- What the first scrape and its runs do when its fetch has come to its end. -/
def settlingMoves : List Move :=
  [.note 0, .launch 0, .note 0, .launch 0, .childWork 0 0 oneContainer, .childWork 0 0 oneContainer,
    .send 0 0, .receive 0, .conclude 0, .release 0, .deliver 0] ++
  List.replicate 12 (.work 1 oneContainer) ++
  [.conclude 1, .release 1, .deliver 1, .collect 0, .collect 0]

/-- The source gives the scrape this answer at once. -/
def answeredPlay (result : Except FetchError Snapshot) : History × State :=
  play mixedScraper [] State.initial
    (.begin (some 9) :: .fetched 0 (.answered result) :: settlingMoves)

/-- The source is silent up to the deadline. -/
def silentPlay : History × State :=
  play mixedScraper [] State.initial
    (.begin (some 9) :: .pass 9 :: .fetchLate 0 :: settlingMoves)

def volumeSnapshot : Snapshot := Snapshot.empty.insert ⟨Replication.Source.volume.object, []⟩

theorem settlingMoves_rows (n : Nat) (rows : Rows) (h : .work n rows ∈ settlingMoves) :
    rows = oneContainer := by
  simp [settlingMoves] at h
  exact h.2

theorem settlingMoves_pass (time : Duration) : .pass time ∉ settlingMoves := by
  simp [settlingMoves]

theorem answeredPlay_prompt (result : Except FetchError Snapshot) :
    Prompt 1 oneContainer (answeredPlay result).1 := by
  refine (prompt_nil 1 oneContainer).play ?_ ?_
  · intro n rows h
    exact settlingMoves_rows n rows (by simpa using h)
  · intro time h
    exact settlingMoves_pass time (by simpa using h)

/-- A scrape that waits for its fetch. -/
def begun : State := State.initial.begin mixedScraper (some 9)

theorem silentPlay_prompt : Prompt 1 oneContainer silentPlay.1 := by
  have hone : ∀ {i : Nat} {s : Scrape}, begun.scrapes[i]? = some s →
      s = ⟨some 9, .fetching, none, [], []⟩ := fun {i} {s} hs => by
    rcases Places.getElem?_concat_some hs with hs | ⟨-, rfl⟩
    · cases hs
    · rfl
  have hpassed : ∀ {e : State} {time : Duration},
      (e, .pass time) ∈ [(begun, Move.pass 9), (State.initial, .begin (some 9))] →
        e = begun ∧ time = 9 := fun hm => by simpa using hm
  have hp : Prompt 1 oneContainer [(begun, .pass 9), (State.initial, .begin (some 9))] := by
    refine ⟨fun hm => by simp at hm, fun hm hs _ => ?_, fun hm hs hc => ?_⟩
    · obtain ⟨rfl, rfl⟩ := hpassed hm
      rw [hone hs]
      rfl
    · obtain ⟨rfl, -⟩ := hpassed hm
      rw [hone hs] at hc
      cases hc
  have hbegin : State.initial.step mixedScraper (.begin (some 9)) = some begun := rfl
  have hpass : begun.step mixedScraper (.pass 9) = some { begun with now := begun.now + 9 } := rfl
  rw [silentPlay, play_cons hbegin, play_cons hpass]
  refine hp.play ?_ ?_
  · intro n rows h
    exact settlingMoves_rows n rows (by simpa using h)
  · intro time h
    exact settlingMoves_pass time (by simpa using h)

/-- The container collector does the same whether the source answers with a snapshot or is down. -/
theorem independent_of_source_down :
    ∃ s c report s' c' report' fares fares' p p',
      Reported mixedScraper 1 oneContainer (answeredPlay (.error (.unavailable "perflib"))).1
        (answeredPlay (.error (.unavailable "perflib"))).2 s c report ∧
      Reported mixedScraper 1 oneContainer (answeredPlay (.ok volumeSnapshot)).1
        (answeredPlay (.ok volumeSnapshot)).2 s' c' report' ∧
      (mixedScraper.parts fares)[1]? = some p ∧ (mixedScraper.parts fares')[1]? = some p' ∧
      p.untimed = p'.untimed := by
  have hu : mixedScraper.units[1]? = some ("container", .single (Containers.collect "windows")) :=
    rfl
  have hb : Builtin.containers.build .standard = .ok (.single (Containers.collect "windows")) :=
    rfl
  have hdown : Reported mixedScraper 1 oneContainer
      (answeredPlay (.error (.unavailable "perflib"))).1
      (answeredPlay (.error (.unavailable "perflib"))).2 _ _ _ :=
    ⟨Course.start.play _, answeredPlay_prompt _, ⟨0, rfl⟩, rfl, rfl⟩
  have hup : Reported mixedScraper 1 oneContainer (answeredPlay (.ok volumeSnapshot)).1
      (answeredPlay (.ok volumeSnapshot)).2 _ _ _ :=
    ⟨Course.start.play _, answeredPlay_prompt _, ⟨0, rfl⟩, rfl, rfl⟩
  obtain ⟨fares, fares', p, p', -, -, hp, hp', hsame, -⟩ :=
    independent_of_source hu hb (by decide) hdown hup
  exact ⟨_, _, _, _, _, _, fares, fares', p, p', hdown, hup, hp, hp', hsame rfl⟩

/-- A scrape of the container collector succeeds when the source answers at once, and fails when
the source is silent up to the deadline. -/
theorem silent_source_fails_containers :
    ∃ u s c report s' c' report', mixedScraper.units[1]? = some u ∧
      Builtin.containers.build .standard = .ok u.2 ∧
      Reported mixedScraper 1 oneContainer silentPlay.1 silentPlay.2 s c report ∧
      Reported mixedScraper 1 oneContainer (answeredPlay (.ok volumeSnapshot)).1
        (answeredPlay (.ok volumeSnapshot)).2 s' c' report' ∧
      s.deadline = s'.deadline ∧ fetchEnds silentPlay.1 0 = [.late] ∧
      report.outcomes.map Outcome.success = [false, false] ∧
      report'.outcomes.map Outcome.success = [true, true] :=
  ⟨_, _, _, _, _, _, _, rfl, rfl,
    ⟨Course.start.play _, silentPlay_prompt, ⟨0, rfl⟩, rfl, rfl⟩,
    ⟨Course.start.play _, answeredPlay_prompt _, ⟨0, rfl⟩, rfl, rfl⟩, rfl, rfl, rfl, rfl⟩

end MetricScraper.Engine
