import MetricScraper.Proofs.Engine.Course
import MetricScraper.Proofs.Places

/-!
# Turns of scrapes and runs

What one move can change in one scrape, and what it can change in one run.  Scrapes and runs are
never taken away, and what a scrape has started and waited for stays as it is.
-/

namespace MetricScraper.Engine
open Places

/-- What a move can change in the scrape of a number. -/
inductive Scrape.Turn (sc : Scraper) (e : State) (i : Nat) (s : Scrape) :
    Move → Scrape → Prop where
  | idle (m : Move) : Turn sc e i s m s
  | fetch {m : Move} (phase : Phase) (hp : s.phase = .fetching) :
      Turn sc e i s m { s with phase := phase }
  | note {c : Context} (hp : s.phase = .collecting c) (hl : s.starts.length < sc.units.length) :
      Turn sc e i s (.note i) { s with noted := some (e.stalled s.starts.length) }
  | start {c : Context} {stalled : Nat} {x : Start} (hp : s.phase = .collecting c)
      (hn : s.noted = some stalled) (hl : s.starts.length < sc.units.length)
      (hx : x = if stalled = 0 then .started e.runs.length else .skipped stalled) :
      Turn sc e i s (.launch i) { s with noted := none, starts := s.starts ++ [x] }
  | outcome {m : Move} {x : Start} (h : Handover) (hm : m = .collect i ∨ m = .giveUp i)
      (hx : State.nextStart? sc s = some x) :
      Turn sc e i s m { s with outcomes := s.outcomes ++ [h] }

/-- What a move can change in the run of a number. -/
inductive Run.Turn (e : State) (n : Nat) (r : Run) : Move → Run → Prop where
  | idle (m : Move) : Turn e n r m r
  | job {m : Move} {job : Job} (hj : JobChange e n r m job) : Turn e n r m { r with job := job }
  | conclude {h : Handover} (hn : r.ending = none)
      (hh : r.job.conclude? (e.isPast r.context.deadline) (e.elapsed r) = some h) :
      Turn e n r (.conclude n) { r with ending := some h }
  | finish (hn : r.ending ≠ none) : Turn e n r (.release n) { r with status := .finished }
  | abandon (i : Nat) (hs : r.status = .running) :
      Turn e n r (.giveUp i) { r with status := .abandoned }
  | deliver (hs : r.status = .finished) : Turn e n r (.deliver n) { r with delivered := true }

/-- A scrape that has just begun. -/
def Scrape.IsFresh (s : Scrape) : Prop :=
  s.noted = none ∧ s.starts = [] ∧ s.outcomes = [] ∧ s.phase ≠ .failed

/-- A run that a scrape has just started. -/
structure Run.IsFresh (sc : Scraper) (e : State) (m : Move) (r : Run) : Prop where
  launch : ∃ s, m = .launch r.scrape ∧ e.scrapes[r.scrape]? = some s ∧ s.noted = some 0 ∧
    r.place = s.starts.length
  job : ∃ u, sc.units[r.place]? = some u ∧ r.job = .start u.2
  ending : r.ending = none
  status : r.status = .running
  delivered : r.delivered = false

theorem nextStart?_eq_some {sc : Scraper} {s : Scrape} {x : Start} :
    State.nextStart? sc s = some x ↔
      s.starts.length = sc.units.length ∧ s.starts[s.outcomes.length]? = some x := by
  simp only [State.nextStart?]
  split <;> simp_all

variable {sc : Scraper} {e e' : State} {m : Move}

/-! ### What a move does to the scrapes -/

/-- A scrape in a list with one entry replaced is either that entry or has not changed. -/
theorem turn_of_set {i j : Nat} {s s' t : Scrape} (hs : e.scrapes[i]? = some s)
    (ht : (e.scrapes.set i s')[j]? = some t) (h : s.Turn sc e i m s') :
    ∃ u, e.scrapes[j]? = some u ∧ u.Turn sc e j m t := by
  rcases getElem?_set_some ht with ⟨rfl, rfl⟩ | ⟨-, ht⟩
  · exact ⟨s, hs, h⟩
  · exact ⟨t, ht, .idle m⟩

theorem scrape_turn (h : Effect sc e m e') {i : Nat} {t : Scrape}
    (ht : e'.scrapes[i]? = some t) :
    (∃ s, e.scrapes[i]? = some s ∧ s.Turn sc e i m t) ∨ (e.scrapes.length = i ∧ t.IsFresh) := by
  have same : e.scrapes[i]? = some t → ∃ s, e.scrapes[i]? = some s ∧ s.Turn sc e i m t :=
    fun ht => ⟨t, ht, .idle m⟩
  cases h with
  | pass time => exact Or.inl (same ht)
  | openGate gate => exact Or.inl (same ht)
  | begin timeout =>
    rcases getElem?_concat_some ht with ht | ⟨hi, rfl⟩
    · exact Or.inl (same ht)
    · refine Or.inr ⟨hi, rfl, rfl, rfl, ?_⟩
      by_cases hd : sc.dependencies.isEmpty = true <;> simp [hd, phaseAfter]
  | fetched answer hs hp => exact Or.inl (turn_of_set hs ht (.fetch _ hp))
  | fetchLate hs hp hd => exact Or.inl (turn_of_set hs ht (.fetch _ hp))
  | note hs hp hn hl => exact Or.inl (turn_of_set hs ht (.note hp hl))
  | skip hs hp hn hl h =>
    exact Or.inl (turn_of_set hs ht (.start hp hn hl (if_neg (Nat.pos_iff_ne_zero.mp h)).symm))
  | launch hs hp hn hu =>
    have hl := (List.getElem?_eq_some_iff.mp hu).1
    exact Or.inl (turn_of_set hs ht (.start hp hn hl rfl))
  | job hr hj => exact Or.inl (same ht)
  | conclude hr hn hh => exact Or.inl (same ht)
  | finish hr hn hs => exact Or.inl (same ht)
  | retire hr hn hs => exact Or.inl (same ht)
  | deliver hr hs => exact Or.inl (same ht)
  | collectSkipped hs hn => exact Or.inl (turn_of_set hs ht (.outcome _ (Or.inl rfl) hn))
  | collect hs hn hr hd hh => exact Or.inl (turn_of_set hs ht (.outcome _ (Or.inl rfl) hn))
  | abandon hs hn hr hd hp hst => exact Or.inl (turn_of_set hs ht (.outcome _ (Or.inr rfl) hn))
  | miss hs hn hr hd hp hst => exact Or.inl (turn_of_set hs ht (.outcome _ (Or.inr rfl) hn))

theorem scrapes_length_le (h : Effect sc e m e') : e.scrapes.length ≤ e'.scrapes.length := by
  cases h with
  | begin timeout =>
    rw [State.begin, List.length_append]
    exact Nat.le_add_right _ _
  | _ => simp

theorem scrape_stays (h : Effect sc e m e') {i : Nat} {s : Scrape}
    (hs : e.scrapes[i]? = some s) : ∃ t, e'.scrapes[i]? = some t ∧ s.Turn sc e i m t := by
  have hi := (List.getElem?_eq_some_iff.mp hs).1
  have hl := scrapes_length_le h
  have ht : e'.scrapes[i]? = some e'.scrapes[i] := List.getElem?_eq_getElem (by omega)
  rcases scrape_turn h ht with ⟨u, hu, hturn⟩ | ⟨hlen, -⟩
  · cases hs.symm.trans hu
    exact ⟨_, ht, hturn⟩
  · omega

/-! ### What a move does to the runs -/

theorem run_turn_of_set {n k : Nat} {r r' t : Run} (hr : e.runs[n]? = some r)
    (ht : (e.runs.set n r')[k]? = some t) (h : r.Turn e n m r') :
    ∃ u, e.runs[k]? = some u ∧ u.Turn e k m t := by
  rcases getElem?_set_some ht with ⟨rfl, rfl⟩ | ⟨-, ht⟩
  · exact ⟨r, hr, h⟩
  · exact ⟨t, ht, .idle m⟩

theorem run_turn (h : Effect sc e m e') {n : Nat} {t : Run} (ht : e'.runs[n]? = some t) :
    (∃ r, e.runs[n]? = some r ∧ r.Turn e n m t) ∨ (e.runs.length = n ∧ t.IsFresh sc e m) := by
  have same : e.runs[n]? = some t → ∃ r, e.runs[n]? = some r ∧ r.Turn e n m t :=
    fun ht => ⟨t, ht, .idle m⟩
  cases h with
  | launch hs hp hn hu =>
    rcases getElem?_concat_some ht with ht | ⟨hn', rfl⟩
    · exact Or.inl (same ht)
    · exact Or.inr ⟨hn', ⟨_, rfl, hs, hn, rfl⟩, ⟨_, hu, rfl⟩, rfl, rfl, rfl⟩
  | job hr hj => exact Or.inl (run_turn_of_set hr ht (.job hj))
  | conclude hr hn hh => exact Or.inl (run_turn_of_set hr ht (.conclude hn hh))
  | finish hr hn hs => exact Or.inl (run_turn_of_set hr ht (.finish hn))
  | retire hr hn hs => exact Or.inl (run_turn_of_set hr ht (.finish hn))
  | deliver hr hs => exact Or.inl (run_turn_of_set hr ht (.deliver hs))
  | abandon hs hn hr hd hp hst => exact Or.inl (run_turn_of_set hr ht (.abandon _ hst))
  | _ => exact Or.inl (same ht)

theorem runs_length_le (h : Effect sc e m e') : e.runs.length ≤ e'.runs.length := by
  cases h with
  | launch hs hp hn hu =>
    rw [List.length_append]
    exact Nat.le_add_right _ _
  | begin timeout => exact Nat.le_refl _
  | _ => simp

theorem run_stays (h : Effect sc e m e') {n : Nat} {r : Run} (hr : e.runs[n]? = some r) :
    ∃ t, e'.runs[n]? = some t ∧ r.Turn e n m t := by
  have hi := (List.getElem?_eq_some_iff.mp hr).1
  have hl := runs_length_le h
  have ht : e'.runs[n]? = some e'.runs[n] := List.getElem?_eq_getElem (by omega)
  rcases run_turn h ht with ⟨u, hu, hturn⟩ | ⟨hlen, -⟩
  · cases hr.symm.trans hu
    exact ⟨_, ht, hturn⟩
  · omega

/-! ### What turns leave alone -/

variable {i n : Nat} {s t : Scrape} {r r' : Run}

theorem Scrape.Turn.starts (h : s.Turn sc e i m t) {k : Nat} {x : Start}
    (hx : s.starts[k]? = some x) : t.starts[k]? = some x := by
  cases h with
  | start hp hn hl hx' => exact getElem?_concat_of_some _ hx
  | _ => exact hx

theorem Scrape.Turn.outcomes (h : s.Turn sc e i m t) {k : Nat} {o : Handover}
    (ho : s.outcomes[k]? = some o) : t.outcomes[k]? = some o := by
  cases h with
  | outcome h hm hx => exact getElem?_concat_of_some _ ho
  | _ => exact ho

theorem Run.Turn.scrape_eq (h : r.Turn e n m r') : r'.scrape = r.scrape := by
  cases h <;> rfl

theorem Run.Turn.place_eq (h : r.Turn e n m r') : r'.place = r.place := by
  cases h <;> rfl

theorem Run.Turn.ending (h : r.Turn e n m r') {o : Handover} (ho : r.ending = some o) :
    r'.ending = some o := by
  cases h with
  | conclude hn hh => simp [hn] at ho
  | _ => exact ho

theorem Run.Turn.finished (h : r.Turn e n m r') (hs : r.status = .finished) :
    r'.status = .finished := by
  cases h with
  | finish hn => rfl
  | abandon i hr => simp [hr] at hs
  | _ => exact hs

theorem Run.Turn.not_running (h : r.Turn e n m r') (hs : r.status ≠ .running) :
    r'.status ≠ .running := by
  cases h with
  | finish hn => simp
  | abandon i hr => exact absurd hr hs
  | _ => exact hs

end MetricScraper.Engine
