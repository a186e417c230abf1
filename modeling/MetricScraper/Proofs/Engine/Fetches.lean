import MetricScraper.Proofs.Engine.Jobs
import MetricScraper.Proofs.Engine.Links

/-!
# Fetches of scrapes

A scrape that reads counters calls for them once, when it begins, and the call comes to an end
once: it is answered, or panics, or the scrape gives up on it at the deadline.  What the collectors
are given is told by this end.
-/

namespace MetricScraper

/-- The objects of the fetches that a scrape calls for. -/
def Scraper.request (sc : Scraper) : List (List String) :=
  if sc.dependencies.isEmpty then [] else [sc.dependencies]

namespace Engine
open Places

/-! ### Ends of fetches -/

/-- How the fetch of a scrape came to an end. -/
inductive FetchEnd where
  /-- The source answered or panicked before the scrape gave up on it. -/
  | came (answer : FetchAnswer)
  /-- The scrape gave up on it. -/
  | late

def FetchEnd.snapshot? (dependencies : List String) : FetchEnd → Option Snapshot
  | .came answer => answer.snapshot? dependencies
  | .late => some (.failed dependencies .timedOut)

/-- The end that a move makes of the fetch of a scrape. -/
def Move.fetchEnd? (i : Nat) : Move → Option FetchEnd
  | .fetched j answer => if j = i then some (.came answer) else none
  | .fetchLate j => if j = i then some .late else none
  | _ => none

/-- The ends of the fetch of a scrape, the last one first. -/
def fetchEnds (past : History) (i : Nat) : List FetchEnd :=
  past.filterMap fun p => p.2.fetchEnd? i

/-! ### Calls -/

/-- Whether a move is made by the scrape of a number. -/
def Move.isOf (e : State) (i : Nat) : Move → Bool
  | .begin _ => e.scrapes.length == i
  | .fetched j _ => j == i
  | .fetchLate j => j == i
  | .note j => j == i
  | .launch j => j == i
  | .collect j => j == i
  | .giveUp j => j == i
  | _ => false

/-- The objects of the fetches that are called for by a move. -/
def Move.calls (sc : Scraper) (e : State) (m : Move) : List (List String) :=
  ((e.step sc m).map fun e' => e'.fetches.drop e.fetches.length).getD []

/-- The objects of the fetches that a scrape has called for. -/
def calls (sc : Scraper) (past : History) (i : Nat) : List (List String) :=
  past.flatMap fun p => if p.2.isOf p.1 i then p.2.calls sc p.1 else []

variable {sc : Scraper} {past : History} {e e' : State} {m : Move} {i : Nat} {s t : Scrape}

theorem fetchEnds_cons (past : History) (e : State) (m : Move) (i : Nat) :
    fetchEnds ((e, m) :: past) i = (m.fetchEnd? i).toList ++ fetchEnds past i := by
  simp only [fetchEnds, List.filterMap_cons]
  cases m.fetchEnd? i <;> rfl

theorem mem_fetchEnds {x : FetchEnd} (h : (e, m) ∈ past) (hm : m.fetchEnd? i = some x) :
    x ∈ fetchEnds past i :=
  List.mem_filterMap.mpr ⟨_, h, hm⟩

theorem calls_cons (sc : Scraper) (past : History) (e : State) (m : Move) (i : Nat) :
    calls sc ((e, m) :: past) i =
      (if m.isOf e i then m.calls sc e else []) ++ calls sc past i := by
  rw [calls, List.flatMap_cons, ← calls]

/-- Scrapes and fetches are added by the beginning of a scrape only. -/
theorem begin_cases (h : Effect sc e m e') :
    (∃ timeout, m = .begin timeout ∧ e' = e.begin sc timeout) ∨
      e'.fetches = e.fetches ∧ e'.scrapes.length = e.scrapes.length := by
  cases h with
  | begin timeout => exact Or.inl ⟨timeout, rfl, rfl⟩
  | _ => exact Or.inr ⟨rfl, by simp⟩

theorem fetches_begin (timeout : Option Duration) :
    (e.begin sc timeout).fetches = e.fetches ++ sc.request := by
  by_cases h : sc.dependencies.isEmpty = true <;> simp [State.begin, Scraper.request, h]

theorem length_scrapes_begin (timeout : Option Duration) :
    (e.begin sc timeout).scrapes.length = e.scrapes.length + 1 := by
  simp [State.begin]

theorem calls_of_step (h : e.step sc m = some e') :
    e'.fetches = e.fetches ++ m.calls sc e := by
  rcases begin_cases (effect_of_step h) with ⟨timeout, rfl, rfl⟩ | ⟨hf, -⟩
  · simp [Move.calls, h, fetches_begin]
  · simp [Move.calls, h, hf]

/-- A scrape has called for its fetch exactly if it has begun. -/
theorem calls_of_course (hc : Course sc past e) (i : Nat) :
    calls sc past i = if i < e.scrapes.length then sc.request else [] := by
  induction hc with
  | start => rfl
  | @next past e e' m hc h ih =>
    have hcalls := calls_of_step h
    rw [calls_cons, ih]
    rcases begin_cases (effect_of_step h) with ⟨timeout, rfl, rfl⟩ | ⟨hf, hlen⟩
    · -- the scrape that begins gets the next free number
      rw [fetches_begin, List.append_cancel_left_eq] at hcalls
      rw [← hcalls, length_scrapes_begin]
      by_cases hi : e.scrapes.length = i
      · simp [Move.isOf, hi]
      · have hiff : i < e.scrapes.length + 1 ↔ i < e.scrapes.length := by omega
        simp [Move.isOf, hi, hiff]
    · rw [hf, List.self_eq_append_right] at hcalls
      rw [hcalls, hlen, ite_self, List.nil_append]

/-- Nothing is fetched but what the scrapes call for. -/
theorem fetches_of_course (hc : Course sc past e) :
    e.fetches = (List.range e.scrapes.length).flatMap (calls sc past) := by
  have hall : (List.range e.scrapes.length).flatMap (calls sc past) =
      (List.range e.scrapes.length).flatMap fun _ => sc.request := by
    refine List.flatMap_congr fun i hi => ?_
    rw [calls_of_course hc, if_pos (List.mem_range.mp hi)]
  rw [hall]
  clear hall
  induction hc with
  | start => rfl
  | @next past e e' m hc h ih =>
    rcases begin_cases (effect_of_step h) with ⟨timeout, -, rfl⟩ | ⟨hf, hlen⟩
    · rw [fetches_begin, length_scrapes_begin, ih, List.range_succ, List.flatMap_append]
      simp
    · rw [hf, hlen, ih]

/-! ### Moves of scrapes -/

theorem lt_of_isOf (h : Effect sc e m e') (hm : m.isOf e i = true) : i < e'.scrapes.length := by
  have hset : ∀ {j : Nat} {u u' : Scrape}, e.scrapes[j]? = some u → (j == i) = true →
      i < (e.scrapes.set j u').length := by
    intro j u u' hu hj
    rw [List.length_set, ← beq_iff_eq.mp hj]
    exact (List.getElem?_eq_some_iff.mp hu).1
  cases h with
  | begin timeout =>
    rw [length_scrapes_begin, ← beq_iff_eq.mp hm]
    exact Nat.lt_succ_self _
  | fetched answer hs hp => exact hset hs hm
  | fetchLate hs hp hd => exact hset hs hm
  | note hs hp hn hl => exact hset hs hm
  | skip hs hp hn hl h => exact hset hs hm
  | launch hs hp hn hu => exact hset hs hm
  | collectSkipped hs hn => exact hset hs hm
  | collect hs hn hr hd hh => exact hset hs hm
  | abandon hs hn hr hd hp hst => exact hset hs hm
  | miss hs hn hr hd hp hst => exact hset hs hm
  | job hr hj => cases hj <;> cases hm
  | _ => cases hm

theorem isOf_eq_false (hc : Course sc past e) (hi : e.scrapes.length ≤ i) :
    ∀ p ∈ past, p.2.isOf p.1 i = false := by
  induction hc with
  | start => simp
  | next hc h ih =>
    have heff := effect_of_step h
    have hle := scrapes_length_le heff
    intro p hp
    rcases List.mem_cons.mp hp with rfl | hp
    · by_contra hm
      have hlt := lt_of_isOf heff (Bool.not_eq_false _ ▸ hm)
      omega
    · exact ih (by omega) p hp

theorem fetchEnd?_of_isOf (h : m.isOf e i = false) : m.fetchEnd? i = none := by
  cases m <;> simp_all [Move.isOf, Move.fetchEnd?]

theorem fetchEnds_eq_nil (hc : Course sc past e) (hi : e.scrapes.length ≤ i) :
    fetchEnds past i = [] :=
  List.filterMap_eq_nil_iff.mpr fun p hp => fetchEnd?_of_isOf (isOf_eq_false hc hi p hp)

/-! ### What a move does to a fetch -/

/-- What a move does to the fetch of a scrape. -/
inductive Scrape.FetchTurn (sc : Scraper) (e : State) (i : Nat) (m : Move) (s t : Scrape) :
    Prop where
  | stays (hm : m.fetchEnd? i = none) (hp : t.phase = s.phase) (hd : t.deadline = s.deadline)
  | ends (x : FetchEnd) (hm : m.fetchEnd? i = some x) (hp : s.phase = .fetching)
      (hq : t.phase = phaseAfter e.now s.deadline (x.snapshot? sc.dependencies))
      (hd : t.deadline = s.deadline)

theorem JobChange.fetchEnd?_eq {n : Nat} {r : Run} {job : Job} (h : JobChange e n r m job) :
    m.fetchEnd? i = none := by
  cases h <;> rfl

theorem fetch_turn_of_set {j : Nat} {s' : Scrape} (hs : e.scrapes[j]? = some s)
    (ht : (e.scrapes.set j s')[i]? = some t) (hother : j ≠ i → m.fetchEnd? i = none)
    (hself : j = i → s.FetchTurn sc e i m s') :
    ∃ u, e.scrapes[i]? = some u ∧ u.FetchTurn sc e i m t := by
  rcases getElem?_set_some ht with ⟨rfl, rfl⟩ | ⟨hij, ht⟩
  · exact ⟨s, hs, hself rfl⟩
  · exact ⟨t, ht, .stays (hother hij) rfl rfl⟩

theorem fetch_turn (h : Effect sc e m e') (ht : e'.scrapes[i]? = some t) :
    (∃ s, e.scrapes[i]? = some s ∧ s.FetchTurn sc e i m t) ∨
      (e.scrapes.length = i ∧ m.fetchEnd? i = none ∧ ∃ timeout, e' = e.begin sc timeout) := by
  have same : m.fetchEnd? i = none → e.scrapes[i]? = some t →
      ∃ s, e.scrapes[i]? = some s ∧ s.FetchTurn sc e i m t :=
    fun hm ht => ⟨t, ht, .stays hm rfl rfl⟩
  cases h with
  | begin timeout =>
    rcases getElem?_concat_some ht with ht | ⟨hi, -⟩
    · exact Or.inl (same rfl ht)
    · exact Or.inr ⟨hi, rfl, timeout, rfl⟩
  | fetched answer hs hp =>
    refine Or.inl (fetch_turn_of_set hs ht (fun hij => if_neg hij) ?_)
    rintro rfl
    exact .ends (.came answer) (if_pos rfl) hp rfl rfl
  | fetchLate hs hp hd =>
    refine Or.inl (fetch_turn_of_set hs ht (fun hij => if_neg hij) ?_)
    rintro rfl
    exact .ends .late (if_pos rfl) hp rfl rfl
  | note hs hp hn hl =>
    exact Or.inl (fetch_turn_of_set hs ht (fun _ => rfl) fun _ => .stays rfl rfl rfl)
  | skip hs hp hn hl h =>
    exact Or.inl (fetch_turn_of_set hs ht (fun _ => rfl) fun _ => .stays rfl rfl rfl)
  | launch hs hp hn hu =>
    exact Or.inl (fetch_turn_of_set hs ht (fun _ => rfl) fun _ => .stays rfl rfl rfl)
  | collectSkipped hs hn =>
    exact Or.inl (fetch_turn_of_set hs ht (fun _ => rfl) fun _ => .stays rfl rfl rfl)
  | collect hs hn hr hd hh =>
    exact Or.inl (fetch_turn_of_set hs ht (fun _ => rfl) fun _ => .stays rfl rfl rfl)
  | abandon hs hn hr hd hp hst =>
    exact Or.inl (fetch_turn_of_set hs ht (fun _ => rfl) fun _ => .stays rfl rfl rfl)
  | miss hs hn hr hd hp hst =>
    exact Or.inl (fetch_turn_of_set hs ht (fun _ => rfl) fun _ => .stays rfl rfl rfl)
  | job hr hj => exact Or.inl (same hj.fetchEnd?_eq ht)
  | _ => exact Or.inl (same rfl ht)

theorem fetch_stays (h : Effect sc e m e') (hs : e.scrapes[i]? = some s) :
    ∃ t, e'.scrapes[i]? = some t ∧ s.FetchTurn sc e i m t := by
  obtain ⟨t, ht, -⟩ := scrape_stays h hs
  rcases fetch_turn h ht with ⟨u, hu, hturn⟩ | ⟨hlen, -⟩
  · cases hs.symm.trans hu
    exact ⟨t, ht, hturn⟩
  · have hlt := (List.getElem?_eq_some_iff.mp hs).1
    omega

/-! ### What came of a fetch -/

/-- Where a scrape stands with its fetch, by the ends of the fetch so far. -/
inductive Scrape.Fetched (sc : Scraper) (s : Scrape) : List FetchEnd → Prop where
  | unasked {now : Duration} (hd : sc.dependencies.isEmpty = true)
      (hp : s.phase = phaseAfter now s.deadline (some .empty)) : Fetched sc s []
  | waits (hd : sc.dependencies.isEmpty = false) (hp : s.phase = .fetching) : Fetched sc s []
  | ended {now : Duration} (x : FetchEnd) (hd : sc.dependencies.isEmpty = false)
      (hp : s.phase = phaseAfter now s.deadline (x.snapshot? sc.dependencies)) : Fetched sc s [x]

theorem phaseAfter_ne_fetching (now : Duration) (deadline : Option Duration)
    (snapshot : Option Snapshot) : phaseAfter now deadline snapshot ≠ .fetching := by
  cases snapshot <;> simp [phaseAfter]

theorem Scrape.FetchTurn.fetched {ends : List FetchEnd} (h : s.FetchTurn sc e i m t)
    (hf : s.Fetched sc ends) : t.Fetched sc ((m.fetchEnd? i).toList ++ ends) := by
  cases h with
  | stays hm hp hd =>
    rw [hm, Option.toList_none, List.nil_append]
    cases hf with
    | unasked hdeps hphase => exact .unasked hdeps (by rw [hp, hphase, hd])
    | waits hdeps hphase => exact .waits hdeps (hp.trans hphase)
    | ended x hdeps hphase => exact .ended x hdeps (by rw [hp, hphase, hd])
  | ends x hm hp hq hd =>
    rw [hm]
    cases hf with
    | unasked hdeps hphase => exact absurd (hphase.symm.trans hp) (phaseAfter_ne_fetching _ _ _)
    | waits hdeps hphase => exact .ended x hdeps (by rw [hq, hd])
    | ended y hdeps hphase => exact absurd (hphase.symm.trans hp) (phaseAfter_ne_fetching _ _ _)

theorem fetched_begin (timeout : Option Duration)
    (ht : (e.begin sc timeout).scrapes[e.scrapes.length]? = some t) : t.Fetched sc [] := by
  have hlast : ∀ {s : Scrape}, (e.scrapes ++ [s])[e.scrapes.length]? = some t → t = s :=
    fun h => (Option.some.inj (List.getElem?_concat_length.symm.trans h)).symm
  rw [hlast ht]
  cases hd : sc.dependencies.isEmpty with
  | true => exact .unasked hd rfl
  | false => exact .waits hd (by simp)

theorem fetched_of_course (hc : Course sc past e) (hs : e.scrapes[i]? = some s) :
    s.Fetched sc (fetchEnds past i) := by
  induction hc generalizing s with
  | start => simp [State.initial] at hs
  | @next past e e' m hc h ih =>
    rw [fetchEnds_cons]
    rcases fetch_turn (effect_of_step h) hs with ⟨s₀, hs₀, hturn⟩ | ⟨rfl, hm, timeout, rfl⟩
    · exact hturn.fetched (ih hs₀)
    · rw [hm, fetchEnds_eq_nil hc (Nat.le_refl _)]
      exact fetched_begin timeout hs

/-- A scrape gives up on its fetch only when its deadline has passed. -/
theorem late_of_course (hc : Course sc past e) (hs : e.scrapes[i]? = some s) {e₀ : State}
    (hm : (e₀, .fetchLate i) ∈ past) : e₀.isPast s.deadline = true := by
  induction hc generalizing s with
  | start => cases hm
  | @next past e e' m hc h ih =>
    have heff := effect_of_step h
    rcases fetch_turn heff hs with ⟨s₀, hs₀, hturn⟩ | ⟨hlen, hnone, -⟩
    · have hd : s.deadline = s₀.deadline := by
        cases hturn <;> assumption
      rw [hd]
      rcases List.mem_cons.mp hm with hm | hm
      · cases hm
        cases heff with
        | fetchLate hs' hp hlate =>
          cases hs₀.symm.trans hs'
          exact hlate
        | job hr hj => cases hj
      · exact ih hs₀ hm
    · -- nobody gives up on the fetch of a scrape that begins only now
      rcases List.mem_cons.mp hm with hm | hm
      · cases hm
        simp [Move.fetchEnd?] at hnone
      · have hmem : FetchEnd.late ∈ fetchEnds past i := mem_fetchEnds hm (if_pos rfl)
        rw [fetchEnds_eq_nil hc (Nat.le_of_eq hlen)] at hmem
        cases hmem

/-! ### What the collectors are given -/

theorem Scrape.FetchTurn.collecting {c : Context} (h : s.FetchTurn sc e i m t)
    (hp : s.phase = .collecting c) : t.phase = .collecting c := by
  cases h with
  | stays hm hq hd => exact hq.trans hp
  | ends x hm hf hq hd =>
    rw [hp] at hf
    cases hf

theorem launched (h : Effect sc e (.launch i) e') (hs : e.scrapes[i]? = some s)
    (hn : s.noted = some 0) :
    ∃ u c, sc.units[s.starts.length]? = some u ∧ s.phase = .collecting c ∧
      e'.runs = e.runs ++ [⟨i, s.starts.length, c, e.now, .start u.2, none, .running, false⟩] := by
  cases h with
  | skip hs' hp hn' hl hpos =>
    cases hs.symm.trans hs'
    cases hn.symm.trans hn'
    omega
  | launch hs' hp hn' hu =>
    cases hs.symm.trans hs'
    exact ⟨_, _, hu, hp, rfl⟩
  | job hr hj => cases hj

/-- Every run has been given what its scrape has got. -/
theorem context_of_course (hc : Course sc past e) {n : Nat} {r : Run} (hr : e.runs[n]? = some r) :
    ∃ s, e.scrapes[r.scrape]? = some s ∧ s.phase = .collecting r.context := by
  induction hc generalizing r with
  | start => simp [State.initial] at hr
  | @next past e e' m hc h ih =>
    have heff := effect_of_step h
    rcases run_turn heff hr with ⟨r₀, hr₀, hturn⟩ | ⟨rfl, hfresh⟩
    · obtain ⟨s, hs, hp⟩ := ih hr₀
      obtain ⟨t, ht, hfetch⟩ := fetch_stays heff hs
      rw [hturn.scrape_eq, hturn.context_eq]
      exact ⟨t, ht, hfetch.collecting hp⟩
    · -- a phase of collecting is never left, so only the launch itself is to be looked at
      obtain ⟨s, rfl, hs, hn, -⟩ := hfresh.launch
      obtain ⟨u, c, -, hp, hruns⟩ := launched heff hs hn
      obtain ⟨t, ht, hfetch⟩ := fetch_stays heff hs
      have hctx : r.context = c := by
        rw [hruns, List.getElem?_concat_length] at hr
        rw [← Option.some.inj hr]
      rw [hctx]
      exact ⟨t, ht, hfetch.collecting hp⟩

/-- What collectors are given, by the ends of the fetch: what it was answered with, or an error in
the place of every object that was called for. -/
inductive Given (sc : Scraper) : List FetchEnd → Snapshot → Prop where
  | nothing (hd : sc.dependencies.isEmpty = true) : Given sc [] .empty
  | snapshot (snapshot : Snapshot) : Given sc [.came (.answered (.ok snapshot))] snapshot
  | error {e : FetchError} {snapshot : Snapshot}
      (h : ∀ object, snapshot.get? object =
        if object ∈ sc.dependencies then some (.error e) else none) :
      Given sc [.came (.answered (.error e))] snapshot
  | late {snapshot : Snapshot}
      (h : ∀ object, snapshot.get? object =
        if object ∈ sc.dependencies then some (.error .timedOut) else none) :
      Given sc [.late] snapshot

theorem Scrape.Fetched.given {ends : List FetchEnd} {c : Context} (h : s.Fetched sc ends)
    (hc : s.phase = .collecting c) : Given sc ends c.snapshot ∧ c.deadline = s.deadline := by
  cases h with
  | unasked hd hp =>
    cases hp.symm.trans hc
    exact ⟨.nothing hd, rfl⟩
  | waits hd hp => cases hp.symm.trans hc
  | ended x hd hp =>
    cases x with
    | late =>
      cases hp.symm.trans hc
      exact ⟨.late (Snapshot.get?_failed _ _), rfl⟩
    | came answer =>
      cases answer with
      | panicked => cases hp.symm.trans hc
      | answered result =>
        cases result with
        | error e =>
          cases hp.symm.trans hc
          exact ⟨.error (Snapshot.get?_failed _ _), rfl⟩
        | ok snapshot =>
          cases hp.symm.trans hc
          exact ⟨.snapshot snapshot, rfl⟩

/-- A scrape fails exactly if its fetch panicked. -/
theorem Scrape.Fetched.failed_iff {ends : List FetchEnd} (h : s.Fetched sc ends) :
    s.phase = .failed ↔ ends = [.came .panicked] := by
  cases h with
  | unasked hd hp => simp [hp, phaseAfter]
  | waits hd hp => simp [hp]
  | ended x hd hp =>
    rw [hp]
    cases x with
    | late => simp [FetchEnd.snapshot?, phaseAfter]
    | came answer =>
      cases answer with
      | panicked => simp [FetchEnd.snapshot?, FetchAnswer.snapshot?, phaseAfter]
      | answered result =>
        cases result <;> simp [FetchEnd.snapshot?, FetchAnswer.snapshot?, phaseAfter]

end Engine

end MetricScraper
