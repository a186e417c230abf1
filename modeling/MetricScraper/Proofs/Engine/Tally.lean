import MetricScraper.Proofs.Engine.Links

/-!
# What has happened to runs

The status of a run says whether it has been given up and whether it has ended.  In every course
this agrees with the moves that have been made, and no run is given up or ended twice.
-/

namespace MetricScraper.Engine
open Places

variable {sc : Scraper} {past : History} {e e' : State} {m : Move}

/-! ### The status of a run -/

/-- What a move does to the status of the run of a number. -/
inductive StatusTurn (sc : Scraper) (e : State) (m : Move) (n : Nat) :
    RunStatus → RunStatus → Prop where
  | stay {status : RunStatus} (he : m.ends? ≠ some n) (hg : m.givesUp? sc e ≠ some n) :
      StatusTurn sc e m n status status
  | finish {status : RunStatus} (he : m.ends? = some n) (hg : m.givesUp? sc e = none)
      (hs : status ≠ .finished) : StatusTurn sc e m n status .finished
  | abandon (he : m.ends? = none) (hg : m.givesUp? sc e = some n) :
      StatusTurn sc e m n .running .abandoned
  | miss {status : RunStatus} (he : m.ends? = none) (hg : m.givesUp? sc e = some n)
      (hs : status ≠ .running) : StatusTurn sc e m n status status

/-- A move that gives up and ends nothing leaves the status of every run alone. -/
theorem status_turn_of_quiet {n k : Nat} {r r' t : Run} (he : m.ends? = none)
    (hg : m.givesUp? sc e = none) (hr : e.runs[n]? = some r)
    (ht : (e.runs.set n r')[k]? = some t) (hst : r'.status = r.status) :
    ∃ u, e.runs[k]? = some u ∧ StatusTurn sc e m k u.status t.status := by
  have hstay : ∀ status, StatusTurn sc e m k status status :=
    fun status => .stay (by simp [he]) (by simp [hg])
  rcases getElem?_set_some ht with ⟨rfl, rfl⟩ | ⟨-, ht⟩
  · rw [hst]
    exact ⟨r, hr, hstay _⟩
  · exact ⟨t, ht, hstay _⟩

theorem status_turn_of_release {n k : Nat} {r t : Run} (hr : e.runs[n]? = some r)
    (hs : r.status ≠ .finished)
    (ht : (e.runs.set n { r with status := .finished })[k]? = some t) :
    ∃ u, e.runs[k]? = some u ∧ StatusTurn sc e (.release n) k u.status t.status := by
  rcases getElem?_set_some ht with ⟨rfl, rfl⟩ | ⟨hk, ht⟩
  · exact ⟨r, hr, .finish rfl rfl hs⟩
  · exact ⟨t, ht, .stay (by simpa [Move.ends?] using hk) (by simp [Move.givesUp?])⟩

theorem status_turn (h : Effect sc e m e') {n : Nat} {t : Run} (ht : e'.runs[n]? = some t) :
    (∃ r, e.runs[n]? = some r ∧ StatusTurn sc e m n r.status t.status) ∨
      (e.runs.length = n ∧ t.status = .running ∧ m.ends? = none ∧ m.givesUp? sc e = none) := by
  have same : m.ends? = none → m.givesUp? sc e = none → e.runs[n]? = some t →
      ∃ r, e.runs[n]? = some r ∧ StatusTurn sc e m n r.status t.status :=
    fun he hg ht => ⟨t, ht, .stay (by simp [he]) (by simp [hg])⟩
  cases h with
  | launch hs hp hn hu =>
    rcases getElem?_concat_some ht with ht | ⟨hk, rfl⟩
    · exact Or.inl (same rfl rfl ht)
    · exact Or.inr ⟨hk, rfl, rfl, rfl⟩
  | job hr hj => exact Or.inl (status_turn_of_quiet hj.ends?_eq hj.givesUp?_eq hr ht rfl)
  | conclude hr hn hh => exact Or.inl (status_turn_of_quiet rfl rfl hr ht rfl)
  | finish hr hn hs => exact Or.inl (status_turn_of_release hr (by simp [hs]) ht)
  | retire hr hn hs => exact Or.inl (status_turn_of_release hr (by simp [hs]) ht)
  | deliver hr hs => exact Or.inl (status_turn_of_quiet rfl rfl hr ht rfl)
  | @abandon i k s r hs hn hr hd hp hrun =>
    have hg : Move.givesUp? sc e (.giveUp i) = some k := givesUp?_giveUp hs hn
    rcases getElem?_set_some ht with ⟨rfl, rfl⟩ | ⟨hk, ht⟩
    · refine Or.inl ⟨r, hr, ?_⟩
      rw [hrun]
      exact .abandon rfl hg
    · exact Or.inl ⟨t, ht, .stay (by simp [Move.ends?]) (by simpa [hg] using hk)⟩
  | @miss i k s r hs hn hr hd hp hrun =>
    have hg : Move.givesUp? sc e (.giveUp i) = some k := givesUp?_giveUp hs hn
    refine Or.inl ⟨t, ht, ?_⟩
    by_cases hk : k = n
    · subst hk
      cases hr.symm.trans ht
      exact .miss rfl hg hrun
    · exact .stay (by simp [Move.ends?]) (by simpa [hg] using hk)
  | _ => exact Or.inl (same rfl rfl ht)

/-! ### Given up and ended -/

/-- What is known of the runs that have been given up and of those that have ended. -/
structure Tally (sc : Scraper) (past : History) (e : State) : Prop where
  ended_iff : ∀ {n : Nat} {r : Run}, e.runs[n]? = some r →
    (n ∈ ended past ↔ r.status = .finished)
  abandoned_iff : ∀ {n : Nat} {r : Run}, e.runs[n]? = some r →
    (r.status = .abandoned ↔ n ∈ givenUp sc past ∧ n ∉ ended past)
  ended_run : ∀ {n : Nat}, n ∈ ended past → ∃ r, e.runs[n]? = some r
  givenUp_waited : ∀ {n : Nat}, n ∈ givenUp sc past → ∃ r s, e.runs[n]? = some r ∧
    e.scrapes[r.scrape]? = some s ∧ r.place < s.outcomes.length
  ended_nodup : (ended past).Nodup
  givenUp_nodup : (givenUp sc past).Nodup

theorem mem_ended_cons {n : Nat} :
    n ∈ ended ((e, m) :: past) ↔ m.ends? = some n ∨ n ∈ ended past := by
  rw [ended_cons, List.mem_append, Option.mem_toList]

theorem mem_givenUp_cons {n : Nat} :
    n ∈ givenUp sc ((e, m) :: past) ↔ m.givesUp? sc e = some n ∨ n ∈ givenUp sc past := by
  rw [givenUp_cons, List.mem_append, Option.mem_toList]

/-- A run that is not in the state has neither been given up nor ended. -/
theorem Tally.not_mem (hta : Tally sc past e) {n : Nat} (hn : e.runs[n]? = none) :
    n ∉ givenUp sc past ∧ n ∉ ended past := by
  constructor
  · intro hg
    obtain ⟨r, s, hr, -⟩ := hta.givenUp_waited hg
    simp [hr] at hn
  · intro he
    obtain ⟨r, hr⟩ := hta.ended_run he
    simp [hr] at hn

theorem ended_iff_step (h : Effect sc e m e') (hta : Tally sc past e) {n : Nat} {r : Run}
    (hr : e'.runs[n]? = some r) : n ∈ ended ((e, m) :: past) ↔ r.status = .finished := by
  rw [mem_ended_cons]
  rcases status_turn h hr with ⟨r₀, hr₀, hturn⟩ | ⟨hlen, hrun, he, hg⟩
  · have old := hta.ended_iff hr₀
    generalize r₀.status = before, r.status = after at old hturn
    cases hturn with
    | stay he hg => simp [he, old]
    | finish he hg hs => simp [he]
    | abandon he hg => simp [he, old]
    | miss he hg hs => simp [he, old]
  · have hnot := (hta.not_mem (List.getElem?_eq_none (Nat.le_of_eq hlen))).2
    simp [he, hnot, hrun]

theorem abandoned_iff_step (h : Effect sc e m e') (hta : Tally sc past e) {n : Nat} {r : Run}
    (hr : e'.runs[n]? = some r) :
    r.status = .abandoned ↔
      n ∈ givenUp sc ((e, m) :: past) ∧ n ∉ ended ((e, m) :: past) := by
  rw [mem_ended_cons, mem_givenUp_cons]
  rcases status_turn h hr with ⟨r₀, hr₀, hturn⟩ | ⟨hlen, hrun, he, hg⟩
  · have old := hta.abandoned_iff hr₀
    have oldEnd := hta.ended_iff hr₀
    generalize r₀.status = before, r.status = after at old oldEnd hturn
    cases hturn with
    | stay he hg => simp [he, hg, old]
    | finish he hg hs => simp [he]
    | abandon he hg => simp [he, hg, oldEnd]
    | miss he hg hs =>
      -- a run that is not running any more has ended or has been given up before
      cases before with
      | running => exact absurd rfl hs
      | abandoned => simp [he, hg, (old.mp rfl).2]
      | finished => simp [he, hg, oldEnd]
  · have hnot := hta.not_mem (List.getElem?_eq_none (Nat.le_of_eq hlen))
    simp [he, hg, hnot.1, hrun]

theorem givesUp?_eq_some {n : Nat} (h : m.givesUp? sc e = some n) :
    ∃ i s, m = .giveUp i ∧ e.scrapes[i]? = some s ∧
      State.nextStart? sc s = some (.started n) := by
  cases m with
  | giveUp i =>
    simp only [Move.givesUp?, State.awaitedRun?] at h
    split at h
    · rename_i k hk
      cases h
      obtain ⟨s, hs, hn⟩ := Option.bind_eq_some_iff.mp hk
      exact ⟨i, s, rfl, hs, hn⟩
    · cases h
  | _ => cases h

theorem outcomes_of_giveUp {i : Nat} {s : Scrape} (h : Effect sc e (.giveUp i) e')
    (hs : e.scrapes[i]? = some s) :
    ∃ t, e'.scrapes[i]? = some t ∧ t.outcomes.length = s.outcomes.length + 1 := by
  cases h with
  | job hr hj => cases hj
  | abandon hs' hn hr hd hp hrun =>
    cases hs.symm.trans hs'
    exact ⟨_, getElem?_set_self _ hs, List.length_append⟩
  | miss hs' hn hr hd hp hrun =>
    cases hs.symm.trans hs'
    exact ⟨_, getElem?_set_self _ hs, List.length_append⟩

theorem outcomes_length_le {i : Nat} {s t : Scrape} (h : s.Turn sc e i m t) :
    s.outcomes.length ≤ t.outcomes.length := by
  cases h with
  | outcome o hm hx => simp
  | _ => exact Nat.le_refl _

theorem givenUp_waited_step (h : Effect sc e m e') (hl : Linked sc e) (hta : Tally sc past e)
    {n : Nat} (hn : n ∈ givenUp sc ((e, m) :: past)) :
    ∃ r s, e'.runs[n]? = some r ∧ e'.scrapes[r.scrape]? = some s ∧
      r.place < s.outcomes.length := by
  rcases mem_givenUp_cons.mp hn with hg | hg
  · obtain ⟨i, s, rfl, hs, hx⟩ := givesUp?_eq_some hg
    obtain ⟨r, hr, hi, hk⟩ := hl.run_of_start hs (nextStart?_eq_some.mp hx).2
    obtain ⟨r', hr', hturn⟩ := run_stays h hr
    obtain ⟨t, ht, hlen⟩ := outcomes_of_giveUp h hs
    refine ⟨r', t, hr', ?_, ?_⟩
    · rw [hturn.scrape_eq, hi]
      exact ht
    · rw [hturn.place_eq, hk]
      omega
  · obtain ⟨r, s, hr, hs, hlt⟩ := hta.givenUp_waited hg
    obtain ⟨r', hr', hturn⟩ := run_stays h hr
    obtain ⟨t, ht, hsturn⟩ := scrape_stays h hs
    refine ⟨r', t, hr', ?_, ?_⟩
    · rw [hturn.scrape_eq]
      exact ht
    · have hle := outcomes_length_le hsturn
      rw [hturn.place_eq]
      omega

theorem ended_run_step (h : Effect sc e m e') (hta : Tally sc past e) {n : Nat}
    (hn : n ∈ ended ((e, m) :: past)) : ∃ r, e'.runs[n]? = some r := by
  have stays : ∀ {r : Run}, e.runs[n]? = some r → ∃ r', e'.runs[n]? = some r' := by
    intro r hr
    obtain ⟨r', hr', -⟩ := run_stays h hr
    exact ⟨r', hr'⟩
  rcases mem_ended_cons.mp hn with he | he
  · cases h with
    | finish hr hn' hs =>
      cases he
      exact stays hr
    | retire hr hn' hs =>
      cases he
      exact stays hr
    | job hr hj => simp [hj.ends?_eq] at he
    | _ => cases he
  · obtain ⟨r, hr⟩ := hta.ended_run he
    exact stays hr

theorem ended_nodup_step (h : Effect sc e m e') (hta : Tally sc past e) :
    (ended ((e, m) :: past)).Nodup := by
  have fresh : ∀ {n : Nat} {r : Run}, e.runs[n]? = some r → r.status ≠ .finished →
      (n :: ended past).Nodup :=
    fun hr hs => List.nodup_cons.mpr ⟨fun he => hs ((hta.ended_iff hr).mp he), hta.ended_nodup⟩
  rw [ended_cons]
  cases h with
  | finish hr hn hs => exact fresh hr (by simp [hs])
  | retire hr hn hs => exact fresh hr (by simp [hs])
  | job hr hj =>
    rw [hj.ends?_eq]
    exact hta.ended_nodup
  | _ => exact hta.ended_nodup

theorem givenUp_nodup_step (hl : Linked sc e) (hta : Tally sc past e) :
    (givenUp sc ((e, m) :: past)).Nodup := by
  rw [givenUp_cons]
  cases hg : m.givesUp? sc e with
  | none => exact hta.givenUp_nodup
  | some n =>
    refine List.nodup_cons.mpr ⟨?_, hta.givenUp_nodup⟩
    intro hn
    obtain ⟨i, s, rfl, hs, hx⟩ := givesUp?_eq_some hg
    obtain ⟨r, hr, hi, hk⟩ := hl.run_of_start hs (nextStart?_eq_some.mp hx).2
    obtain ⟨r', s', hr', hs', hlt⟩ := hta.givenUp_waited hn
    cases hr.symm.trans hr'
    rw [hi] at hs'
    cases hs.symm.trans hs'
    -- it was waited for already, and is the next one that is waited for
    omega

theorem tally_step (h : Effect sc e m e') (hl : Linked sc e) (hta : Tally sc past e) :
    Tally sc ((e, m) :: past) e' where
  ended_iff := ended_iff_step h hta
  abandoned_iff := abandoned_iff_step h hta
  ended_run := ended_run_step h hta
  givenUp_waited := givenUp_waited_step h hl hta
  ended_nodup := ended_nodup_step h hta
  givenUp_nodup := givenUp_nodup_step hl hta

theorem tally_initial (sc : Scraper) : Tally sc [] State.initial := by
  constructor <;> simp [State.initial]

theorem tally_of_course (hc : Course sc past e) : Tally sc past e := by
  induction hc with
  | start => exact tally_initial sc
  | next hc h ih => exact tally_step (effect_of_step h) (linked_of_course hc) ih

end MetricScraper.Engine
