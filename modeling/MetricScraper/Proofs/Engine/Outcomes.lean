import MetricScraper.Proofs.Engine.Tally

/-!
# Outcomes of units

What a scrape takes for a unit is what its run handed over, unless the scrape gave up on the run or
did not start it.  Whatever happens afterwards changes nothing of this.
-/

namespace MetricScraper.Engine
open Places

/-- What a scrape takes for a unit that it has started or skipped. -/
inductive Taken (sc : Scraper) (past : History) (e : State) : Start → Handover → Prop where
  | skipped (stalled : Nat) :
      Taken sc past e (.skipped stalled) (.failed (.stalled stalled) 0)
  | late {n : Nat} (hg : n ∈ givenUp sc past) (waited : Duration) :
      Taken sc past e (.started n) (.failed (.timeout waited) waited)
  | returned {n : Nat} {r : Run} {h : Handover} (hg : n ∉ givenUp sc past)
      (hr : e.runs[n]? = some r) (hd : r.delivered = true) (hh : r.ending = some h) :
      Taken sc past e (.started n) h

variable {sc : Scraper} {past : History} {e e' : State} {m : Move}

theorem delivered_turn {n : Nat} {r r' : Run} (h : r.Turn e n m r') (hd : r.delivered = true) :
    r'.delivered = true := by
  cases h with
  | deliver hs => rfl
  | _ => exact hd

/-- A run that its scrape has waited for is not given up any more. -/
theorem not_givenUp_cons (hl : Linked sc e) {i n : Nat} {s : Scrape} {k : Nat}
    (hs : e.scrapes[i]? = some s) (hx : s.starts[k]? = some (.started n))
    (hk : k < s.outcomes.length) (hg : n ∉ givenUp sc past) :
    n ∉ givenUp sc ((e, m) :: past) := by
  intro hn
  rcases mem_givenUp_cons.mp hn with hm | hn
  · obtain ⟨j, t, -, ht, hnext⟩ := givesUp?_eq_some hm
    obtain ⟨r, hr, hi, hp⟩ := hl.run_of_start hs hx
    obtain ⟨r', hr', hj, hq⟩ := hl.run_of_start ht (nextStart?_eq_some.mp hnext).2
    cases hr.symm.trans hr'
    cases hi.symm.trans hj
    cases hs.symm.trans ht
    omega
  · exact hg hn

theorem taken_stays (h : Effect sc e m e') (hl : Linked sc e) {i k : Nat} {s : Scrape} {x : Start}
    {o : Handover} (hs : e.scrapes[i]? = some s) (hx : s.starts[k]? = some x)
    (hk : k < s.outcomes.length) (ho : Taken sc past e x o) :
    Taken sc ((e, m) :: past) e' x o := by
  cases ho with
  | skipped stalled => exact .skipped stalled
  | late hg waited => exact .late (mem_givenUp_cons.mpr (Or.inr hg)) waited
  | returned hg hr hd hh =>
    obtain ⟨r', hr', hturn⟩ := run_stays h hr
    exact .returned (not_givenUp_cons hl hs hx hk hg) hr' (delivered_turn hturn hd)
      (hturn.ending hh)

theorem outcome_of_set {i : Nat} {s t : Scrape} {o o' : Handover} (hs : e.scrapes[i]? = some s)
    (ht : (e.scrapes.set i { s with outcomes := s.outcomes ++ [o'] })[i]? = some t)
    (ho : t.outcomes[s.outcomes.length]? = some o) : o = o' := by
  cases (getElem?_set_self _ hs).symm.trans ht
  rw [List.getElem?_concat_length] at ho
  exact (Option.some.inj ho).symm

theorem taken_by_move (h : Effect sc e m e') (hl : Linked sc e) (hta : Tally sc past e) {i : Nat}
    {s t : Scrape} {x : Start} {o : Handover} (hm : m = .collect i ∨ m = .giveUp i)
    (hs : e.scrapes[i]? = some s) (ht : e'.scrapes[i]? = some t)
    (hx : State.nextStart? sc s = some x) (ho : t.outcomes[s.outcomes.length]? = some o) :
    Taken sc ((e, m) :: past) e' x o := by
  rcases hm with rfl | rfl
  · cases h with
    | job hr hj => cases hj
    | collectSkipped hs' hn =>
      cases hs.symm.trans hs'
      cases hx.symm.trans hn
      rw [outcome_of_set hs ht ho]
      exact .skipped _
    | @collect i n s' r o' hs' hn hr hd hh =>
      cases hs.symm.trans hs'
      cases hx.symm.trans hn
      rw [outcome_of_set hs ht ho]
      refine .returned ?_ hr hd hh
      -- what has been given up, its scrape has waited for already
      intro hg
      obtain ⟨r', u, hr', hu, hlt⟩ :=
        hta.givenUp_waited ((mem_givenUp_cons.mp hg).resolve_left (by simp [Move.givesUp?]))
      obtain ⟨r'', hr'', hi, hk⟩ := hl.run_of_start hs (nextStart?_eq_some.mp hx).2
      cases hr''.symm.trans hr'
      rw [hi] at hu
      cases hs.symm.trans hu
      omega
  · cases h with
    | job hr hj => cases hj
    | abandon hs' hn hr hd hp hrun =>
      cases hs.symm.trans hs'
      cases hx.symm.trans hn
      rw [outcome_of_set hs ht ho]
      exact .late (mem_givenUp_cons.mpr (Or.inl (givesUp?_giveUp hs hn))) _
    | miss hs' hn hr hd hp hrun =>
      cases hs.symm.trans hs'
      cases hx.symm.trans hn
      rw [outcome_of_set hs ht ho]
      exact .late (mem_givenUp_cons.mpr (Or.inl (givesUp?_giveUp hs hn))) _

/-- What a scrape has waited for, it has started, in the same order. -/
theorem start_of_outcome {i k : Nat} {s t : Scrape} {x : Start} (h : s.Turn sc e i m t)
    (hf : s.Fits sc.units.length) (hk : k < s.outcomes.length) (hx : t.starts[k]? = some x) :
    s.starts[k]? = some x := by
  rcases start_cases h hx with hx | ⟨-, hlen, -⟩
  · exact hx
  · have hle := hf.outcomes_le
    omega

theorem taken_of_course (hc : Course sc past e) {i k : Nat} {s : Scrape} {x : Start}
    {o : Handover} (hs : e.scrapes[i]? = some s) (hx : s.starts[k]? = some x)
    (ho : s.outcomes[k]? = some o) : Taken sc past e x o := by
  induction hc generalizing s with
  | start => simp [State.initial] at hs
  | next hc h ih =>
    have hl := linked_of_course hc
    have heff := effect_of_step h
    have hk := (List.getElem?_eq_some_iff.mp ho).1
    rcases scrape_turn heff hs with ⟨s₀, hs₀, hturn⟩ | ⟨-, hfresh⟩
    · rcases outcome_cases hturn hk with hk₀ | ⟨rfl, hm, y, hy⟩
      · have hx₀ := start_of_outcome hturn (hl.fits hs₀) hk₀ hx
        obtain ⟨o₀, ho₀⟩ : ∃ o₀, s₀.outcomes[k]? = some o₀ := ⟨_, List.getElem?_eq_getElem hk₀⟩
        cases (hturn.outcomes ho₀).symm.trans ho
        exact taken_stays heff hl hs₀ hx₀ hk₀ (ih hs₀ hx₀ ho₀)
      · cases (hturn.starts (nextStart?_eq_some.mp hy).2).symm.trans hx
        exact taken_by_move heff hl (tally_of_course hc) hm hs₀ hs hy ho
    · simp [hfresh.2.2.1] at hk

end MetricScraper.Engine
