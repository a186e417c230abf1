import MetricScraper.Proofs.Engine.Tally

/-!
# Stalled runs

The number of stalled runs of a unit is changed by two parties, a scrape that gives up and a run
that ends, in either order.  In every course it is the number of the runs that have been given up
and have not ended, so that it is never lowered below zero and is zero again when they have ended.
-/

namespace MetricScraper.Engine
open Places

/-- Whether a run counts as a stalled run of the unit at a place. -/
def Run.isStalledAt (place : Nat) (r : Run) : Bool :=
  r.place == place && r.status == .abandoned

/-- The unit of a run. -/
def State.place? (e : State) (n : Nat) : Option Nat := (e.runs[n]?).map Run.place

/-- The runs of a unit that have been given up and have not ended. -/
def stalledRuns (sc : Scraper) (past : History) (e : State) (place : Nat) : List Nat :=
  (givenUp sc past).filter fun n => !(ended past).contains n && e.place? n == some place

variable {sc : Scraper} {past : History} {e e' : State} {m : Move}

/-! ### The count and the runs -/

/-- The count of a unit after a change of one run. -/
theorem countP_isStalledAt_set {n : Nat} {r : Run} (r' : Run) (hr : e.runs[n]? = some r)
    (hp : r'.place = r.place) (u : Nat) :
    (e.runs.set n r').countP (Run.isStalledAt u) +
        (if r.place = u ∧ r.status = .abandoned then 1 else 0) =
      e.runs.countP (Run.isStalledAt u) +
        (if r.place = u ∧ r'.status = .abandoned then 1 else 0) := by
  have h := countP_set_add (Run.isStalledAt u) r' hr
  simpa [Run.isStalledAt, hp] using h

theorem stalled_setRun_eq_countP {n u : Nat} {r r' : Run}
    (hst : e.stalled u = e.runs.countP (Run.isStalledAt u)) (hr : e.runs[n]? = some r)
    (hp : r'.place = r.place) (hs : r'.status = .abandoned ↔ r.status = .abandoned) :
    (e.setRun n r').stalled u = (e.setRun n r').runs.countP (Run.isStalledAt u) := by
  have h := countP_isStalledAt_set r' hr hp u
  simp only [hs] at h
  rw [State.stalled_setRun, State.runs_setRun]
  omega

theorem stalled_step (h : Effect sc e m e')
    (hst : ∀ u, e.stalled u = e.runs.countP (Run.isStalledAt u)) (u : Nat) :
    e'.stalled u = e'.runs.countP (Run.isStalledAt u) := by
  cases h with
  | launch hs hp hn hu =>
    rw [List.countP_append, List.countP_singleton]
    simpa [Run.isStalledAt] using hst u
  | job hr hj => exact stalled_setRun_eq_countP (hst u) hr rfl Iff.rfl
  | conclude hr hn hh => exact stalled_setRun_eq_countP (hst u) hr rfl Iff.rfl
  | finish hr hn hs => exact stalled_setRun_eq_countP (hst u) hr rfl (by simp [hs])
  | @retire n r hr hn hs =>
    have hset := countP_isStalledAt_set { r with status := .finished } hr rfl u
    have hcount := hst u
    rw [State.stalled_recount, State.runs_recount, State.runs_setRun, State.stalled_setRun]
    by_cases hu : u = r.place
    · -- the run itself is among the counted ones, so the count is above zero here
      simp [hs, hu] at hset hcount ⊢
      omega
    · have hne : ¬ r.place = u := fun hp => hu hp.symm
      simp [hne, hu] at hset hcount ⊢
      omega
  | deliver hr hs => exact stalled_setRun_eq_countP (hst u) hr rfl Iff.rfl
  | @abandon i n s r hs hn hr hd hp hrun =>
    have hset := countP_isStalledAt_set { r with status := .abandoned } hr rfl u
    have hcount := hst u
    rw [State.stalled_recount, State.runs_recount, State.runs_setRun, State.stalled_setRun]
    simp only [State.runs_setScrape, State.stalled_setScrape]
    by_cases hu : u = r.place
    · simp [hrun, hu] at hset hcount ⊢
      omega
    · have hne : ¬ r.place = u := fun hp => hu hp.symm
      simp [hne, hu] at hset hcount ⊢
      omega
  | _ => exact hst u

theorem stalled_eq_countP (hc : Course sc past e) (u : Nat) :
    e.stalled u = e.runs.countP (Run.isStalledAt u) := by
  induction hc generalizing u with
  | start => rfl
  | next _ h ih => exact stalled_step (effect_of_step h) ih u

theorem stalled_pos_of_abandoned (hc : Course sc past e) {n : Nat} {r : Run}
    (hr : e.runs[n]? = some r) (hs : r.status = .abandoned) : 0 < e.stalled r.place := by
  rw [stalled_eq_countP hc]
  exact List.countP_pos_iff.mpr ⟨r, List.mem_of_getElem? hr, by simp [Run.isStalledAt, hs]⟩

/-! ### The stalled runs are those that have been given up and have not ended -/

theorem mem_stalledRuns (hc : Course sc past e) {u n : Nat} :
    n ∈ stalledRuns sc past e u ↔ n ∈ places (Run.isStalledAt u) e.runs := by
  have hta := tally_of_course hc
  simp only [stalledRuns, List.mem_filter, mem_places, Run.isStalledAt, State.place?,
    Bool.and_eq_true, Bool.not_eq_true', List.contains_eq_mem, decide_eq_false_iff_not,
    beq_iff_eq, Option.map_eq_some_iff]
  constructor
  · intro h
    obtain ⟨hg, he, r, hr, hp⟩ := h
    exact ⟨r, hr, hp, (hta.abandoned_iff hr).mpr ⟨hg, he⟩⟩
  · intro h
    obtain ⟨r, hr, hp, hs⟩ := h
    obtain ⟨hg, he⟩ := (hta.abandoned_iff hr).mp hs
    exact ⟨hg, he, r, hr, hp⟩

theorem stalled_eq_length (hc : Course sc past e) (u : Nat) :
    e.stalled u = (stalledRuns sc past e u).length := by
  have hnodup : (stalledRuns sc past e u).Nodup := (tally_of_course hc).givenUp_nodup.filter _
  -- the history and the state tell the same runs, and neither tells one twice
  have hset : (stalledRuns sc past e u).toFinset = places (Run.isStalledAt u) e.runs := by
    ext n
    rw [List.mem_toFinset]
    exact mem_stalledRuns hc
  rw [stalled_eq_countP hc, ← card_places, ← hset, List.toFinset_card_of_nodup hnodup]

/-- The count of a unit is raised only by a run that is given up before it ends, and lowered only
by the end of a run that has been given up. -/
theorem stalled_moves (hc : Course sc past e) (h : e.step sc m = some e') (u : Nat) :
    e'.stalled u = e.stalled u ∨
      (∃ n, m.givesUp? sc e = some n ∧ e.place? n = some u ∧ n ∉ ended past ∧
        e'.stalled u = e.stalled u + 1) ∨
      (∃ n, m.ends? = some n ∧ e.place? n = some u ∧ n ∈ givenUp sc past ∧
        e'.stalled u + 1 = e.stalled u) := by
  have hta := tally_of_course hc
  cases effect_of_step h with
  | @retire n r hr hn hs =>
    rw [State.stalled_recount, State.stalled_setRun]
    by_cases hu : u = r.place
    · subst hu
      have hpos := stalled_pos_of_abandoned hc hr hs
      refine Or.inr (Or.inr ⟨n, rfl, ?_, ((hta.abandoned_iff hr).mp hs).1, ?_⟩)
      · simp [State.place?, hr]
      · rw [if_pos rfl]
        omega
    · exact Or.inl (if_neg hu)
  | @abandon i n s r hs hn hr hd hp hrun =>
    rw [State.stalled_recount, State.stalled_setRun, State.stalled_setScrape]
    by_cases hu : u = r.place
    · subst hu
      refine Or.inr (Or.inl ⟨n, givesUp?_giveUp hs hn, ?_, ?_, if_pos rfl⟩)
      · simp [State.place?, hr]
      · rw [hta.ended_iff hr, hrun]
        simp
    · exact Or.inl (if_neg hu)
  | _ => exact Or.inl rfl

/-! ### What a scrape has seen of a unit -/

/-- A scrape has looked at a unit when its count was so much. -/
def Saw (past : History) (i place count : Nat) : Prop :=
  ∃ later before s t, past = later ++ (s, .note i) :: before ∧ s.scrapes[i]? = some t ∧
    t.starts.length = place ∧ s.stalled place = count

theorem Saw.cons {i place count : Nat} (h : Saw past i place count) (e : State) (m : Move) :
    Saw ((e, m) :: past) i place count := by
  obtain ⟨later, before, s, t, rfl, hrest⟩ := h
  exact ⟨(e, m) :: later, before, s, t, rfl, hrest⟩

theorem saw_noted (hc : Course sc past e) {i count : Nat} {s : Scrape}
    (hs : e.scrapes[i]? = some s) (hn : s.noted = some count) :
    Saw past i s.starts.length count := by
  induction hc generalizing s with
  | start => simp [State.initial] at hs
  | @next past e₀ e₁ m hc h ih =>
    rcases scrape_turn (effect_of_step h) hs with ⟨s₀, hs₀, hturn⟩ | ⟨-, hfresh⟩
    · cases hturn with
      | note hp hl =>
        cases hn
        exact ⟨[], past, e₀, s₀, rfl, hs₀, rfl, rfl⟩
      | start hp hn' hl hx => cases hn
      | _ => exact (ih hs₀ hn).cons _ _
    · simp [hfresh.1] at hn

/-- A scrape starts a unit if it has seen a count of zero, and skips it otherwise. -/
theorem saw_started (hc : Course sc past e) {i place : Nat} {s : Scrape} {x : Start}
    (hs : e.scrapes[i]? = some s) (hx : s.starts[place]? = some x) :
    ∃ count, Saw past i place count ∧
      ((count = 0 ∧ ∃ n, x = .started n) ∨ (count ≠ 0 ∧ x = .skipped count)) := by
  induction hc generalizing s with
  | start => simp [State.initial] at hs
  | @next past e₀ e₁ m hc h ih =>
    rcases scrape_turn (effect_of_step h) hs with ⟨s₀, hs₀, hturn⟩ | ⟨-, hfresh⟩
    · rcases start_cases hturn hx with hx | ⟨rfl, hk, count, hn, hx⟩
      · obtain ⟨count, hsaw, hcount⟩ := ih hs₀ hx
        exact ⟨count, hsaw.cons _ _, hcount⟩
      · refine ⟨count, hk ▸ (saw_noted hc hs₀ hn).cons _ _, ?_⟩
        by_cases h0 : count = 0
        · rw [if_pos h0] at hx
          exact Or.inl ⟨h0, _, hx⟩
        · rw [if_neg h0] at hx
          exact Or.inr ⟨h0, hx⟩
    · simp [hfresh.2.1] at hx

/-! ### The count is exact -/

/-- In every course, the count of a unit is the number of its runs that have been given up and
have not ended, each of which is given up once and ends once.  It is not zero when it is lowered,
it is zero when all have ended, and a scrape starts the unit exactly if it looks at it then. -/
theorem stall_count_exact (sc : Scraper) {past : History} {e : State} (hc : Course sc past e) :
    (∀ place, e.stalled place = (stalledRuns sc past e place).length) ∧
    (givenUp sc past).Nodup ∧ (ended past).Nodup ∧
    (∀ m e', e.step sc m = some e' → ∀ place,
      e'.stalled place = e.stalled place ∨
        (∃ n, m.givesUp? sc e = some n ∧ e.place? n = some place ∧ n ∉ ended past ∧
          e'.stalled place = e.stalled place + 1) ∨
        (∃ n, m.ends? = some n ∧ e.place? n = some place ∧ n ∈ givenUp sc past ∧
          e'.stalled place + 1 = e.stalled place)) ∧
    (∀ (n : Nat) (r : Run), e.runs[n]? = some r → r.status = .abandoned →
      0 < e.stalled r.place) ∧
    (∀ place, (∀ n ∈ givenUp sc past, e.place? n = some place → n ∈ ended past) →
      e.stalled place = 0) ∧
    (∀ (i place : Nat) (s : Scrape) (x : Start), e.scrapes[i]? = some s →
      s.starts[place]? = some x → ∃ later before e₁ s₁, past = later ++ (e₁, .note i) :: before ∧
        e₁.scrapes[i]? = some s₁ ∧ s₁.starts.length = place ∧
        ((stalledRuns sc before e₁ place = [] ∧ ∃ n, x = .started n) ∨
          (stalledRuns sc before e₁ place ≠ [] ∧
            x = .skipped (stalledRuns sc before e₁ place).length))) := by
  have hta := tally_of_course hc
  refine ⟨stalled_eq_length hc, hta.givenUp_nodup, hta.ended_nodup,
    fun m e' h => stalled_moves hc h, fun n r => stalled_pos_of_abandoned hc, ?_, ?_⟩
  · intro place hall
    rw [stalled_eq_length hc, List.length_eq_zero_iff, stalledRuns, List.filter_eq_nil_iff]
    intro n hn hboth
    simp only [Bool.and_eq_true, Bool.not_eq_true', List.contains_eq_mem,
      decide_eq_false_iff_not, beq_iff_eq] at hboth
    exact hboth.1 (hall n hn hboth.2)
  · intro i place s x hs hx
    obtain ⟨count, ⟨later, before, e₁, s₁, rfl, hs₁, hlen, hcount⟩, hcases⟩ := saw_started hc hs hx
    rw [stalled_eq_length hc.before] at hcount
    refine ⟨later, before, e₁, s₁, rfl, hs₁, hlen, ?_⟩
    rcases hcases with ⟨h0, hx⟩ | ⟨h0, hx⟩
    · exact Or.inl ⟨List.length_eq_zero_iff.mp (hcount.trans h0), hx⟩
    · refine Or.inr ⟨?_, hcount ▸ hx⟩
      intro hnil
      rw [hnil] at hcount
      exact h0 hcount.symm

/-- A run that is given up and ends later is counted as long as it goes on. -/
theorem stall_count_exact_gated :
    (gatedPlay hangingMoves).2.stalled 0 = 1 ∧
      (stalledRuns gatedScraper (gatedPlay hangingMoves).1 (gatedPlay hangingMoves).2 0).length =
        1 ∧
      givenUp gatedScraper (gatedPlay (hangingMoves ++ endingMoves)).1 = [0] ∧
      (gatedPlay (hangingMoves ++ endingMoves)).2.stalled 0 = 0 := by
  obtain ⟨hcount, -⟩ := stall_count_exact gatedScraper (gated_course hangingMoves)
  obtain ⟨-, -, -, -, -, hzero, -⟩ :=
    stall_count_exact gatedScraper (gated_course (hangingMoves ++ endingMoves))
  have hone : (gatedPlay hangingMoves).2.stalled 0 = 1 := by decide
  have hg : givenUp gatedScraper (gatedPlay (hangingMoves ++ endingMoves)).1 = [0] := by decide
  have he : ended (gatedPlay (hangingMoves ++ endingMoves)).1 = [0] := by decide
  refine ⟨hone, (hcount 0).symm.trans hone, hg, hzero 0 ?_⟩
  rw [hg, he]
  exact fun n hn _ => hn

end MetricScraper.Engine
