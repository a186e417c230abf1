import MetricScraper.Proofs.Engine.Turn

/-!
# Links between scrapes and runs

In every course each started unit of a scrape has its own run, each run was started by one scrape,
and a run that its scrape has waited for is no longer counted as running.
-/

namespace MetricScraper.Engine
open Places

/-- A scrape has waited for no more than it has started, and starts units only with a snapshot. -/
structure Scrape.Fits (units : Nat) (s : Scrape) : Prop where
  outcomes_le : s.outcomes.length ≤ s.starts.length
  starts_le : s.starts.length ≤ units
  noted_lt : s.noted ≠ none → s.starts.length < units
  idle : (∀ c, s.phase ≠ .collecting c) → s.starts = [] ∧ s.noted = none

/-- How scrapes and runs hang together. -/
structure Linked (sc : Scraper) (e : State) : Prop where
  fits : ∀ {i : Nat} {s : Scrape}, e.scrapes[i]? = some s → s.Fits sc.units.length
  run_of_start : ∀ {i k n : Nat} {s : Scrape}, e.scrapes[i]? = some s →
    s.starts[k]? = some (.started n) → ∃ r, e.runs[n]? = some r ∧ r.scrape = i ∧ r.place = k
  start_of_run : ∀ {n : Nat} {r : Run}, e.runs[n]? = some r →
    ∃ s, e.scrapes[r.scrape]? = some s ∧ s.starts[r.place]? = some (.started n)
  ending : ∀ {n : Nat} {r : Run}, e.runs[n]? = some r → r.status = .finished → r.ending ≠ none
  delivered : ∀ {n : Nat} {r : Run}, e.runs[n]? = some r → r.delivered = true →
    r.status = .finished
  settled : ∀ {n : Nat} {r : Run} {s : Scrape}, e.runs[n]? = some r →
    e.scrapes[r.scrape]? = some s → r.place < s.outcomes.length → r.status ≠ .running

variable {sc : Scraper} {e e' : State} {m : Move}

/-! ### Scrapes -/

theorem fits_turn {i : Nat} {s t : Scrape} (h : s.Turn sc e i m t)
    (hf : s.Fits sc.units.length) : t.Fits sc.units.length := by
  obtain ⟨ho, hl, hnl, hidle⟩ := hf
  cases h with
  | idle => exact ⟨ho, hl, hnl, hidle⟩
  | fetch phase hp =>
    have hnot : ∀ c, s.phase ≠ .collecting c := by simp [hp]
    exact ⟨ho, hl, hnl, fun _ => hidle hnot⟩
  | note hp hlt => exact ⟨ho, hl, fun _ => hlt, fun hnot => absurd hp (hnot _)⟩
  | start hp hn hlt hx =>
    refine ⟨?_, ?_, fun hsome => absurd rfl hsome, fun hnot => absurd hp (hnot _)⟩
    · rw [List.length_append]
      exact Nat.le_add_right_of_le ho
    · rw [List.length_append, List.length_singleton]
      exact hlt
  | outcome o hm hx =>
    refine ⟨?_, hl, hnl, hidle⟩
    have hlt := (List.getElem?_eq_some_iff.mp (nextStart?_eq_some.mp hx).2).1
    rw [List.length_append, List.length_singleton]
    exact hlt

theorem fits_fresh {s : Scrape} (h : s.IsFresh) (units : Nat) : s.Fits units := by
  obtain ⟨hn, hs, ho, -⟩ := h
  exact ⟨by simp [hs, ho], by simp [hs], fun hsome => absurd hn hsome, fun _ => ⟨hs, hn⟩⟩

theorem fits_step (h : Effect sc e m e') (hl : Linked sc e) {i : Nat} {t : Scrape}
    (ht : e'.scrapes[i]? = some t) : t.Fits sc.units.length := by
  rcases scrape_turn h ht with ⟨s, hs, hturn⟩ | ⟨-, hfresh⟩
  · exact fits_turn hturn (hl.fits hs)
  · exact fits_fresh hfresh _

/-! ### Starts and their runs -/

/-- What a scrape has started after a move, it had started before or starts by it. -/
theorem start_cases {i k : Nat} {s t : Scrape} {x : Start} (h : s.Turn sc e i m t)
    (hx : t.starts[k]? = some x) :
    s.starts[k]? = some x ∨
      (m = .launch i ∧ s.starts.length = k ∧ ∃ stalled, s.noted = some stalled ∧
        x = if stalled = 0 then .started e.runs.length else .skipped stalled) := by
  cases h with
  | start hp hn hlt hx' =>
    rcases getElem?_concat_some hx with hx | ⟨hk, rfl⟩
    · exact Or.inl hx
    · exact Or.inr ⟨rfl, hk, _, hn, hx'⟩
  | _ => exact Or.inl hx

theorem runs_of_launch {i : Nat} {s : Scrape} (h : Effect sc e (.launch i) e')
    (hs : e.scrapes[i]? = some s) (hn : s.noted = some 0) :
    ∃ r, e'.runs = e.runs ++ [r] ∧ r.scrape = i ∧ r.place = s.starts.length := by
  cases h with
  | skip hs' hp hn' hl hpos =>
    cases hs.symm.trans hs'
    cases hn.symm.trans hn'
    omega
  | launch hs' hp hn' hu =>
    cases hs.symm.trans hs'
    exact ⟨_, rfl, rfl, rfl⟩
  | job hr hj => cases hj

theorem run_of_start_step (h : Effect sc e m e') (hl : Linked sc e) {i k n : Nat} {t : Scrape}
    (ht : e'.scrapes[i]? = some t) (hx : t.starts[k]? = some (.started n)) :
    ∃ r, e'.runs[n]? = some r ∧ r.scrape = i ∧ r.place = k := by
  rcases scrape_turn h ht with ⟨s, hs, hturn⟩ | ⟨-, hfresh⟩
  · rcases start_cases hturn hx with hx | ⟨rfl, hk, stalled, hn, hx⟩
    · obtain ⟨r, hr, hi, hk⟩ := hl.run_of_start hs hx
      obtain ⟨r', hr', hturn⟩ := run_stays h hr
      exact ⟨r', hr', hturn.scrape_eq.trans hi, hturn.place_eq.trans hk⟩
    · by_cases h0 : stalled = 0
      · rw [if_pos h0] at hx
        cases hx
        rw [h0] at hn
        obtain ⟨r, hr, hi, hp⟩ := runs_of_launch h hs hn
        exact ⟨r, by rw [hr, List.getElem?_concat_length], hi, hp.trans hk⟩
      · rw [if_neg h0] at hx
        cases hx
  · simp [hfresh.2.1] at hx

theorem start_of_run_step (h : Effect sc e m e') (hl : Linked sc e) {n : Nat} {r : Run}
    (hr : e'.runs[n]? = some r) :
    ∃ s, e'.scrapes[r.scrape]? = some s ∧ s.starts[r.place]? = some (.started n) := by
  rcases run_turn h hr with ⟨r₀, hr₀, hturn⟩ | ⟨rfl, hfresh⟩
  · obtain ⟨s, hs, hx⟩ := hl.start_of_run hr₀
    obtain ⟨t, ht, hsturn⟩ := scrape_stays h hs
    rw [hturn.scrape_eq, hturn.place_eq]
    exact ⟨t, ht, hsturn.starts hx⟩
  · -- a new run is the one that its scrape has just put at the end of its starts
    obtain ⟨s, rfl, hs, hn, hp⟩ := hfresh.launch
    cases h with
    | skip hs' hph hn' hlt hpos =>
      cases hs.symm.trans hs'
      cases hn.symm.trans hn'
      omega
    | launch hs' hph hn' hu =>
      cases hs.symm.trans hs'
      rw [hp]
      exact ⟨_, getElem?_set_self _ hs, List.getElem?_concat_length⟩
    | job hr' hj => cases hj

/-! ### How far runs have got -/

theorem ending_step (h : Effect sc e m e') (hl : Linked sc e) {n : Nat} {r : Run}
    (hr : e'.runs[n]? = some r) (hs : r.status = .finished) : r.ending ≠ none := by
  rcases run_turn h hr with ⟨r₀, hr₀, hturn⟩ | ⟨-, hfresh⟩
  · have old := hl.ending hr₀
    cases hturn with
    | conclude hn hh => simp
    | finish hn => exact hn
    | abandon i ha => cases hs
    | _ => exact old hs
  · simp [hfresh.status] at hs

theorem delivered_step (h : Effect sc e m e') (hl : Linked sc e) {n : Nat} {r : Run}
    (hr : e'.runs[n]? = some r) (hd : r.delivered = true) : r.status = .finished := by
  rcases run_turn h hr with ⟨r₀, hr₀, hturn⟩ | ⟨-, hfresh⟩
  · have old := hl.delivered hr₀
    cases hturn with
    | finish hn => rfl
    | abandon i ha =>
      have hfin := old hd
      simp [ha] at hfin
    | deliver hs => exact hs
    | _ => exact old hd
  · simp [hfresh.delivered] at hd

/-- What a scrape has waited for after a move, it had waited for before or waits for no longer by
it. -/
theorem outcome_cases {i k : Nat} {s t : Scrape} (h : s.Turn sc e i m t)
    (hk : k < t.outcomes.length) :
    k < s.outcomes.length ∨
      (s.outcomes.length = k ∧ (m = .collect i ∨ m = .giveUp i) ∧
        ∃ x, State.nextStart? sc s = some x) := by
  cases h with
  | outcome o hm hx =>
    rw [List.length_append, List.length_singleton] at hk
    by_cases hlt : k < s.outcomes.length
    · exact Or.inl hlt
    · exact Or.inr ⟨by omega, hm, _, hx⟩
  | _ => exact Or.inl hk

theorem not_running_of_outcome (h : Effect sc e m e') (hl : Linked sc e) {i n : Nat} {s : Scrape}
    {r : Run} (hm : m = .collect i ∨ m = .giveUp i) (hs : e.scrapes[i]? = some s)
    (hx : State.nextStart? sc s = some (.started n)) (hr : e'.runs[n]? = some r) :
    r.status ≠ .running := by
  rcases hm with rfl | rfl
  · cases h with
    | job hr' hj => cases hj
    | collectSkipped hs' hn =>
      cases hs.symm.trans hs'
      cases hx.symm.trans hn
    | collect hs' hn hr' hd hh =>
      cases hs.symm.trans hs'
      cases hx.symm.trans hn
      cases hr.symm.trans hr'
      simp [hl.delivered hr hd]
  · cases h with
    | job hr' hj => cases hj
    | abandon hs' hn hr' hd hp hst =>
      cases hs.symm.trans hs'
      cases hx.symm.trans hn
      cases hr.symm.trans (getElem?_set_self _ hr')
      simp
    | miss hs' hn hr' hd hp hst =>
      cases hs.symm.trans hs'
      cases hx.symm.trans hn
      cases hr.symm.trans hr'
      exact hst

theorem settled_step (h : Effect sc e m e') (hl : Linked sc e) {n : Nat} {r : Run} {t : Scrape}
    (hr : e'.runs[n]? = some r) (ht : e'.scrapes[r.scrape]? = some t)
    (hk : r.place < t.outcomes.length) : r.status ≠ .running := by
  rcases scrape_turn h ht with ⟨s, hs, hturn⟩ | ⟨-, hfresh⟩
  · rcases run_turn h hr with ⟨r₀, hr₀, hrturn⟩ | ⟨-, hrfresh⟩
    · obtain ⟨u, hu, hx⟩ := hl.start_of_run hr₀
      rw [← hrturn.scrape_eq] at hu
      cases hs.symm.trans hu
      rcases outcome_cases hturn hk with hk | ⟨hk, hm, x, hn⟩
      · exact hrturn.not_running
          (hl.settled hr₀ (hrturn.scrape_eq ▸ hs) (hrturn.place_eq ▸ hk))
      · have hxn := (nextStart?_eq_some.mp hn).2
        rw [hk, hrturn.place_eq, hx] at hxn
        cases hxn
        exact not_running_of_outcome h hl hm hs hn hr
    · -- a run that starts now stands behind everything that its scrape has waited for
      obtain ⟨s', rfl, hs', -, hp⟩ := hrfresh.launch
      cases hs.symm.trans hs'
      rcases outcome_cases hturn hk with hk | ⟨-, hm, -⟩
      · have hle := (hl.fits hs).outcomes_le
        omega
      · simp at hm
  · simp [hfresh.2.2.1] at hk

theorem linked_step (h : Effect sc e m e') (hl : Linked sc e) : Linked sc e' where
  fits := fits_step h hl
  run_of_start := run_of_start_step h hl
  start_of_run := start_of_run_step h hl
  ending := ending_step h hl
  delivered := delivered_step h hl
  settled := settled_step h hl

theorem linked_initial (sc : Scraper) : Linked sc State.initial := by
  constructor <;> intros <;> simp_all [State.initial]

theorem linked_of_course {past : History} (hc : Course sc past e) : Linked sc e := by
  induction hc with
  | start => exact linked_initial sc
  | next _ h ih => exact linked_step (effect_of_step h) ih

end MetricScraper.Engine
