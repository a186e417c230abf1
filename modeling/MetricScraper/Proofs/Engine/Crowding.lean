import MetricScraper.Proofs.Engine.Answers
import MetricScraper.Proofs.Engine.Stalls

/-!
# How many runs of a unit there are

A run of a unit is held by the scrape that started it, until the run ends, and a scrape that has
read a count of zero holds the run that it is going to start.  There are no more executing runs
than holders, and a scrape becomes a holder only while all holders are in progress.
-/

namespace MetricScraper.Engine
open Places

/-! ### Executing runs and their holders -/

def Run.isExecutingAt (place : Nat) (r : Run) : Bool := r.place == place && r.status != .finished

/-- The number of runs of a unit that have started and have not ended. -/
def State.executing (e : State) (place : Nat) : Nat := e.runs.countP (Run.isExecutingAt place)

/-- Whether a scrape has started a run of a unit that has not ended, or is about to start one. -/
def State.isHolder (e : State) (place : Nat) (s : Scrape) : Bool :=
  (s.noted == some 0 && s.starts.length == place) ||
    match s.starts[place]? with
    | some (.started n) => e.runs[n]?.any (Run.isExecutingAt place)
    | _ => false

def State.holders (e : State) (place : Nat) : Nat := e.scrapes.countP (e.isHolder place)

/-- What makes a scrape a holder. -/
inductive Holds (e : State) (place : Nat) (s : Scrape) : Prop where
  | noted (hn : s.noted = some 0) (hl : s.starts.length = place)
  | started {n : Nat} {r : Run} (hx : s.starts[place]? = some (.started n))
      (hr : e.runs[n]? = some r) (hp : r.place = place) (hs : r.status ≠ .finished)

variable {sc : Scraper} {past : History} {e e' : State} {m : Move}

theorem isExecutingAt_iff {place : Nat} {r : Run} :
    r.isExecutingAt place = true ↔ r.place = place ∧ r.status ≠ .finished := by
  simp [Run.isExecutingAt]

theorem isHolder_iff {place : Nat} {s : Scrape} :
    e.isHolder place s = true ↔ Holds e place s := by
  simp only [State.isHolder, Bool.or_eq_true, Bool.and_eq_true, beq_iff_eq]
  constructor
  · intro h
    rcases h with ⟨hn, hl⟩ | h
    · exact .noted hn hl
    · split at h
      · rename_i n hx
        obtain ⟨r, hr, hex⟩ := (Option.any_eq_true _ _).mp h
        obtain ⟨hp, hs⟩ := isExecutingAt_iff.mp hex
        exact .started hx hr hp hs
      · cases h
  · intro h
    cases h with
    | noted hn hl => exact Or.inl ⟨hn, hl⟩
    | started hx hr hp hs =>
      rw [hx]
      simp only [hr, Option.any_some]
      exact Or.inr (isExecutingAt_iff.mpr ⟨hp, hs⟩)

/-- Every executing run has a holder of its own. -/
theorem executing_le_holders (hl : Linked sc e) (place : Nat) :
    e.executing place ≤ e.holders place := by
  apply countP_le_of_injOn fun n => (e.runs[n]?.map Run.scrape).getD 0
  · -- the holder of a run is the scrape that started it
    intro n r hr hex
    obtain ⟨hp, hs⟩ := isExecutingAt_iff.mp hex
    obtain ⟨s, hscr, hx⟩ := hl.start_of_run hr
    simp only [hr, Option.map_some, Option.getD_some]
    exact ⟨s, hscr, isHolder_iff.mpr (.started (hp ▸ hx) hr hp hs)⟩
  · -- a scrape starts a unit once
    intro n hn k hk heq
    obtain ⟨r, hr, hex⟩ := mem_places.mp hn
    obtain ⟨r', hr', hex'⟩ := mem_places.mp hk
    simp only [hr, hr', Option.map_some, Option.getD_some] at heq
    obtain ⟨s, hs, hx⟩ := hl.start_of_run hr
    obtain ⟨s', hs', hx'⟩ := hl.start_of_run hr'
    rw [heq] at hs
    cases hs.symm.trans hs'
    rw [(isExecutingAt_iff.mp hex).1] at hx
    rw [(isExecutingAt_iff.mp hex').1] at hx'
    cases hx.symm.trans hx'
    rfl

/-! ### Holders are in progress when nothing is stalled -/

theorem not_returned_of_outcomes_lt {s : Scrape} {units : Nat} (hf : s.Fits units)
    (hx : s.noted ≠ none ∨ s.starts ≠ []) (ho : s.outcomes.length < units) :
    s.isReturned units = false := by
  cases hp : s.phase with
  | fetching => simp [Scrape.isReturned, hp]
  | failed =>
    obtain ⟨hs, hn⟩ := hf.idle (by simp [hp])
    exact absurd hx (by simp [hs, hn])
  | collecting c =>
    simp only [Scrape.isReturned, hp, beq_eq_false_iff_ne]
    omega

/-- While no run of a unit is stalled, a scrape that holds one has not come to wait for the unit
or still waits for it. -/
theorem not_returned_of_holds (hc : Course sc past e) {place i : Nat} {s : Scrape}
    (h0 : e.stalled place = 0) (hs : e.scrapes[i]? = some s) (h : Holds e place s) :
    s.isReturned sc.units.length = false := by
  have hl := linked_of_course hc
  have hf := hl.fits hs
  cases h with
  | noted hn hlen =>
    have hlt := hf.noted_lt (by simp [hn])
    have hle := hf.outcomes_le
    exact not_returned_of_outcomes_lt hf (Or.inl (by simp [hn])) (by omega)
  | @started n r hx hr hp hst =>
    have hlt := (List.getElem?_eq_some_iff.mp hx).1
    have hle := hf.starts_le
    refine not_returned_of_outcomes_lt hf (Or.inr (List.ne_nil_of_length_pos (by omega))) ?_
    by_contra hge
    obtain ⟨r', hr', hi, hk⟩ := hl.run_of_start hs hx
    cases hr.symm.trans hr'
    -- the scrape has waited for the run, so the run has been given up and is counted
    have hnot := hl.settled hr (hi ▸ hs) (by omega)
    have hab : r.status = .abandoned := by
      cases hcase : r.status with
      | running => exact absurd hcase hnot
      | abandoned => rfl
      | finished => exact absurd hcase hst
    have hpos := stalled_pos_of_abandoned hc hr hab
    rw [hp, h0] at hpos
    exact Nat.lt_irrefl 0 hpos

theorem holders_le_inProgress (hc : Course sc past e) {place : Nat} (h0 : e.stalled place = 0) :
    e.holders place ≤ e.inProgress sc := by
  apply countP_le_of_getElem?
  intro i s hs hh
  exact ⟨s, hs, by simp [not_returned_of_holds hc h0 hs (isHolder_iff.mp hh)]⟩

/-! ### Nobody becomes a holder while runs are stalled -/

theorem stalled_of_note {i : Nat} (h : Effect sc e (.note i) e') : e'.stalled = e.stalled := by
  cases h with
  | note hs hp hn hl => rfl
  | job hr hj => cases hj

/-- While runs of a unit are stalled, only a scrape that was a holder already is one. -/
theorem holds_step (h : Effect sc e m e') (hl : Linked sc e) {place i : Nat} {t : Scrape}
    (hpos : e'.stalled place ≠ 0) (ht : e'.scrapes[i]? = some t) (hh : Holds e' place t) :
    ∃ s, e.scrapes[i]? = some s ∧ Holds e place s := by
  rcases scrape_turn h ht with ⟨s, hs, hturn⟩ | ⟨-, hfresh⟩
  · refine ⟨s, hs, ?_⟩
    cases hh with
    | noted hn hlen =>
      cases hturn with
      | note hp hlt =>
        rw [stalled_of_note h, ← hlen] at hpos
        exact absurd (Option.some.inj hn) hpos
      | start hp hn' hlt hx => cases hn
      | _ => exact .noted hn hlen
    | @started n r hx hr hp hst =>
      rcases start_cases hturn hx with hx | ⟨-, hk, stalled, hn, hx⟩
      · obtain ⟨r₀, hr₀, -⟩ := hl.run_of_start hs hx
        obtain ⟨r', hr', hrturn⟩ := run_stays h hr₀
        cases hr.symm.trans hr'
        exact .started hx hr₀ (hrturn.place_eq ▸ hp) fun hfin => hst (hrturn.finished hfin)
      · by_cases h0 : stalled = 0
        · exact .noted (h0 ▸ hn) hk
        · rw [if_neg h0] at hx
          cases hx
  · obtain ⟨hn, hs, -⟩ := hfresh
    cases hh with
    | noted hn' hlen => simp [hn] at hn'
    | started hx hr hp hst => simp [hs] at hx

theorem holders_le_peak (hc : Course sc past e) (place : Nat) :
    e.holders place ≤ peak sc past e := by
  induction hc with
  | start => simp [State.holders, State.initial]
  | @next past e e' m hc h ih =>
    -- either all holders are in progress now, or none is new
    by_cases h0 : e'.stalled place = 0
    · exact Nat.le_trans (holders_le_inProgress (.next hc h) h0) (inProgress_le_peak sc _ e')
    · have hle : e'.holders place ≤ e.holders place := by
        apply countP_le_of_getElem?
        intro i t ht hh
        obtain ⟨s, hs, hold⟩ :=
          holds_step (effect_of_step h) (linked_of_course hc) h0 ht (isHolder_iff.mp hh)
        exact ⟨s, hs, isHolder_iff.mpr hold⟩
      exact Nat.le_trans hle (Nat.le_trans ih (peak_le_peak_cons sc past e e' m))

theorem executing_le_peak (hc : Course sc past e) (place : Nat) :
    e.executing place ≤ peak sc past e :=
  Nat.le_trans (executing_le_holders (linked_of_course hc) place) (holders_le_peak hc place)

/-! ### Scrapes one after another -/

theorem not_returned_of_fresh {s : Scrape} {units : Nat} (h : s.IsFresh) (hu : 0 < units) :
    s.isReturned units = false := by
  obtain ⟨-, -, ho, hf⟩ := h
  cases hp : s.phase with
  | fetching => simp [Scrape.isReturned, hp]
  | failed => exact absurd hp hf
  | collecting c =>
    simp only [Scrape.isReturned, hp, ho, List.length_nil, beq_eq_false_iff_ne]
    omega

/-- When scrapes do not overlap, a scrape has answered when the next one begins. -/
theorem returned_of_lt (hc : Course sc past e) (hu : 0 < sc.units.length)
    (hpeak : peak sc past e ≤ 1) {i j : Nat} {s t : Scrape} (hij : i < j)
    (hs : e.scrapes[i]? = some s) (ht : e.scrapes[j]? = some t) :
    s.isReturned sc.units.length = true := by
  -- a scrape that begins while another is in progress would make two of them
  induction hc generalizing s t with
  | start => simp [State.initial] at hs
  | @next past e e' m hc h ih =>
    have hl := linked_of_course hc
    have heff := effect_of_step h
    have hbefore := Nat.le_trans (peak_le_peak_cons sc past e e' m) hpeak
    rcases scrape_turn heff ht with ⟨t₀, ht₀, -⟩ | ⟨hlen, hfresh⟩
    · have hj := (List.getElem?_eq_some_iff.mp ht₀).1
      have hs₀ : e.scrapes[i]? = some e.scrapes[i] := List.getElem?_eq_getElem (by omega)
      have hr := ih hbefore hs₀ ht₀
      cases hs.symm.trans (returned_step heff hl hs₀ hr)
      exact hr
    · by_contra hnot
      have htwo : 2 ≤ e'.inProgress sc :=
        two_le_countP (Nat.ne_of_lt hij) hs ht (by simpa using hnot)
          (by simpa using not_returned_of_fresh hfresh hu)
      have hle := inProgress_le_peak sc ((e, m) :: past) e'
      omega

/-- When a scrape that has answered has a run that has not ended, the run is stalled. -/
theorem stalled_of_returned (hc : Course sc past e) {n : Nat} {r : Run} {s : Scrape}
    (hr : e.runs[n]? = some r) (hst : r.status ≠ .finished) (hs : e.scrapes[r.scrape]? = some s)
    (hret : s.isReturned sc.units.length = true) : 0 < e.stalled r.place := by
  have hl := linked_of_course hc
  obtain ⟨u, hu, hx⟩ := hl.start_of_run hr
  cases hs.symm.trans hu
  have hlt := (List.getElem?_eq_some_iff.mp hx).1
  have hle := (hl.fits hs).starts_le
  have hall := outcomes_of_returned (hl.fits hs) hret (List.ne_nil_of_length_pos (by omega))
  have hnot := hl.settled hr hs (by omega)
  cases hcase : r.status with
  | running => exact absurd hcase hnot
  | abandoned => exact stalled_pos_of_abandoned hc hr hcase
  | finished => exact absurd hcase hst

theorem stalled_le_executing (hc : Course sc past e) (place : Nat) :
    e.stalled place ≤ e.executing place := by
  rw [stalled_eq_countP hc, State.executing]
  apply List.countP_mono_left
  intro r _ h
  simp only [Run.isStalledAt, Bool.and_eq_true, beq_iff_eq] at h
  exact isExecutingAt_iff.mpr ⟨h.1, by simp [h.2]⟩

theorem units_pos_of_start (hl : Linked sc e) {i k : Nat} {s : Scrape} {x : Start}
    (hs : e.scrapes[i]? = some s) (hx : s.starts[k]? = some x) : 0 < sc.units.length := by
  have hlt := (List.getElem?_eq_some_iff.mp hx).1
  have hle := (hl.fits hs).starts_le
  omega

/-- When scrapes do not overlap, a run that has not ended is the only stalled run of its unit as
soon as another scrape has begun. -/
theorem stalled_eq_one (hc : Course sc past e) (hpeak : peak sc past e ≤ 1) {n j : Nat}
    {r : Run} {t : Scrape} (hr : e.runs[n]? = some r) (hst : r.status ≠ .finished)
    (hj : r.scrape < j) (ht : e.scrapes[j]? = some t) : e.stalled r.place = 1 := by
  have hl := linked_of_course hc
  obtain ⟨s, hs, hx⟩ := hl.start_of_run hr
  have hret := returned_of_lt hc (units_pos_of_start hl hs hx) hpeak hj hs ht
  have hpos := stalled_of_returned hc hr hst hs hret
  have hle := stalled_le_executing hc r.place
  have hpeak' := executing_le_peak hc r.place
  omega

/-- A scrape had started a run already when a later scrape looked at the unit. -/
theorem run_before_note {later before : History} {s₁ : State} {j : Nat} {t₁ : Scrape}
    (hc : Course sc (later ++ (s₁, .note j) :: before) e)
    (hpeak : peak sc (later ++ (s₁, .note j) :: before) e ≤ 1) {n : Nat} {r : Run}
    (hr : e.runs[n]? = some r) (hst : r.status ≠ .finished) (hj : r.scrape < j)
    (ht₁ : s₁.scrapes[j]? = some t₁) :
    ∃ r₁, s₁.runs[n]? = some r₁ ∧ r₁.scrape = r.scrape ∧ r₁.place = r.place ∧
      r₁.status ≠ .finished := by
  have hl := linked_of_course hc
  obtain ⟨s, hs, hx⟩ := hl.start_of_run hr
  have hlen := (List.getElem?_eq_some_iff.mp ht₁).1
  obtain ⟨s₀, hs₀⟩ : ∃ s₀, s₁.scrapes[r.scrape]? = some s₀ :=
    ⟨_, List.getElem?_eq_getElem (by omega)⟩
  -- the scrape of the run had answered, and so it has started nothing since
  have hpeak₁ := Nat.le_trans (peak_le_peak_append sc later before s₁ e _) hpeak
  have hret := returned_of_lt hc.before (units_pos_of_start hl hs hx) hpeak₁ hj hs₀ ht₁
  cases hs.symm.trans (returned_lasts hc hs₀ hret)
  obtain ⟨r₁, hr₁, hi, hk⟩ := (linked_of_course hc.before).run_of_start hs₀ hx
  refine ⟨r₁, hr₁, hi, hk, ?_⟩
  intro hfin
  obtain ⟨r', hr', hfin'⟩ := finished_lasts hc hr₁ hfin
  cases hr.symm.trans hr'
  exact hst hfin'

/-- When scrapes do not overlap, no scrape after the one that started a run that has not ended
starts the unit. -/
theorem skipped_of_executing (hc : Course sc past e) (hpeak : peak sc past e ≤ 1) {n j : Nat}
    {r : Run} {t : Scrape} {x : Start} (hr : e.runs[n]? = some r) (hst : r.status ≠ .finished)
    (hj : r.scrape < j) (ht : e.scrapes[j]? = some t) (hx : t.starts[r.place]? = some x) :
    x = .skipped 1 := by
  obtain ⟨count, ⟨later, before, s₁, t₁, rfl, ht₁, -, hcount⟩, hcases⟩ := saw_started hc ht hx
  obtain ⟨r₁, hr₁, hi, hk, hst₁⟩ := run_before_note hc hpeak hr hst hj ht₁
  have hpeak₁ := Nat.le_trans (peak_le_peak_append sc later before s₁ e _) hpeak
  have hone := stalled_eq_one hc.before hpeak₁ hr₁ hst₁ (by omega) ht₁
  rw [hk, hcount] at hone
  rcases hcases with ⟨h0, -⟩ | ⟨-, hskip⟩
  · omega
  · rw [hskip, hone]

theorem executing_eq_one (hc : Course sc past e) (hpeak : peak sc past e ≤ 1) {n : Nat} {r : Run}
    (hr : e.runs[n]? = some r) (hst : r.status ≠ .finished) : e.executing r.place = 1 := by
  have hle := executing_le_peak hc r.place
  have hpos : 0 < e.executing r.place :=
    List.countP_pos_iff.mpr ⟨r, List.mem_of_getElem? hr, isExecutingAt_iff.mpr ⟨rfl, hst⟩⟩
  omega

/-! ### The bound -/

/-- In every course, the runs of a unit that execute at the same time are no more than the scrapes
that have been in progress at the same time.  When scrapes do not overlap, a run that has not ended
is the only one of its unit, and every later scrape answers that it is stalled without starting the
unit. -/
theorem executing_bounded (sc : Scraper) {past : History} {e : State} (hc : Course sc past e) :
    (∀ place, e.executing place ≤ peak sc past e) ∧
    (peak sc past e ≤ 1 → ∀ (n : Nat) (r : Run), e.runs[n]? = some r → r.status ≠ .finished →
      e.executing r.place = 1 ∧
      ∀ (j : Nat) (t : Scrape), e.scrapes[j]? = some t → r.scrape < j →
        (∀ x, t.starts[r.place]? = some x → x = .skipped 1) ∧
        (∀ r' ∈ e.runs, r'.scrape = j → r'.place ≠ r.place) ∧
        (∀ report, t.answer? sc = some (.ok report) →
          ∃ name collector, sc.units[r.place]? = some (name, collector) ∧
            report.outcomes[r.place]? =
              some ⟨name, false, 0, some (CollectError.stalled 1).message⟩)) := by
  refine ⟨executing_le_peak hc, fun hpeak n r hr hst => ⟨executing_eq_one hc hpeak hr hst, ?_⟩⟩
  intro j t ht hj
  have hl := linked_of_course hc
  have hskip : ∀ x, t.starts[r.place]? = some x → x = .skipped 1 :=
    fun x => skipped_of_executing hc hpeak hr hst hj ht
  refine ⟨hskip, ?_, ?_⟩
  · intro r' hr' hi hp
    obtain ⟨k, hk⟩ := List.mem_iff_getElem?.mp hr'
    obtain ⟨u, hu, hx⟩ := hl.start_of_run hk
    rw [hi] at hu
    cases ht.symm.trans hu
    rw [hp] at hx
    cases hskip _ hx
  · intro report hans
    obtain ⟨hlen, rfl⟩ := of_answer? hans
    obtain ⟨s, hs, hx⟩ := hl.start_of_run hr
    have hlt := (List.getElem?_eq_some_iff.mp hx).1
    have hle := (hl.fits hs).starts_le
    have hlt' := (hl.fits ht).outcomes_le
    obtain ⟨u, hu⟩ : ∃ u, sc.units[r.place]? = some u := ⟨_, List.getElem?_eq_getElem (by omega)⟩
    obtain ⟨o, ho⟩ : ∃ o, t.outcomes[r.place]? = some o := ⟨_, List.getElem?_eq_getElem (by omega)⟩
    obtain ⟨x, hx'⟩ : ∃ x, t.starts[r.place]? = some x := ⟨_, List.getElem?_eq_getElem (by omega)⟩
    have htaken := taken_of_course hc ht hx' ho
    rw [hskip x hx'] at htaken
    cases htaken
    exact ⟨u.1, u.2, hu, Report.outcomes_ofHandovers hu ho⟩

/-- Three scrapes one after another, in the first of which the collector hangs. -/
def hungPlay : History × State :=
  gatedPlay (hangingMoves ++ skippingMoves 1 ++ skippingMoves 2)

theorem executing_bounded_hung :
    peak gatedScraper hungPlay.1 hungPlay.2 ≤ 1 ∧ hungPlay.2.executing 0 = 1 ∧
      ∃ t, hungPlay.2.scrapes[2]? = some t ∧ t.starts[0]? = some (.skipped 1) := by
  have hc : Course gatedScraper hungPlay.1 hungPlay.2 := gated_course _
  obtain ⟨-, hnext⟩ := executing_bounded gatedScraper hc
  have hpeak : peak gatedScraper hungPlay.1 hungPlay.2 ≤ 1 := by decide
  obtain ⟨hone, hlater⟩ := hnext hpeak 0 _ rfl (by decide)
  obtain ⟨hskip, -⟩ := hlater 2 _ rfl (by decide)
  exact ⟨hpeak, hone, _, rfl, congrArg some (hskip _ rfl)⟩

end MetricScraper.Engine
