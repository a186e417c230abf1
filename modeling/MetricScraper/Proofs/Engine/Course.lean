import MetricScraper.Proofs.Engine.Effect

/-!
# Courses of moves

A course is any order of moves that can be made from the beginning, with every state on the way.
What has happened is read off the moves: which runs have been given up, which have ended, and how
many scrapes have been in progress at once.
-/

namespace MetricScraper.Engine

/-- The moves that have been made, each with the state that it was made in, the last one first. -/
abbrev History := List (State × Move)

/-- The courses of moves, with the states that they lead to. -/
inductive Course (sc : Scraper) : History → State → Prop where
  | start : Course sc [] State.initial
  | next {past : History} {e e' : State} {m : Move} (hc : Course sc past e)
      (h : e.step sc m = some e') : Course sc ((e, m) :: past) e'

variable {sc : Scraper} {past : History} {e : State}

theorem Course.reachable (hc : Course sc past e) : Reachable sc e := by
  induction hc with
  | start => exact .initial
  | next _ h ih => exact .step _ ih h

theorem reachable_iff_course : Reachable sc e ↔ ∃ past, Course sc past e := by
  constructor
  · intro h
    induction h with
    | initial => exact ⟨[], .start⟩
    | step m _ hs ih =>
      obtain ⟨past, hc⟩ := ih
      exact ⟨_, .next hc hs⟩
  · intro h
    obtain ⟨past, hc⟩ := h
    exact hc.reachable

/-- A move of a course was made in a state that the moves before it lead to. -/
theorem Course.before {later : History} {s : State} {m : Move}
    (hc : Course sc (later ++ (s, m) :: past) e) : Course sc past s := by
  generalize hq : later ++ (s, m) :: past = all at hc
  induction hc generalizing later with
  | start => simp at hq
  | next hc h ih =>
    cases later with
    | nil =>
      cases hq
      exact hc
    | cons x later =>
      simp only [List.cons_append, List.cons.injEq] at hq
      exact ih hq.2

theorem Course.lasts {P : State → Prop}
    (keep : ∀ {past : History} {e e' : State} {m : Move}, Course sc past e →
      Effect sc e m e' → P e → P e')
    {later before : History} {s : State} {m : Move}
    (hc : Course sc (later ++ (s, m) :: before) e) (hs : P s) : P e := by
  generalize hq : later ++ (s, m) :: before = all at hc
  induction hc generalizing later with
  | start => simp at hq
  | next hc h ih =>
    cases later with
    | nil =>
      cases hq
      exact keep hc (effect_of_step h) hs
    | cons x later =>
      simp only [List.cons_append, List.cons.injEq] at hq
      exact keep hc (effect_of_step h) (ih hq.2)

/-! ### Courses from lists of moves -/

/-- Makes one move after another, without those that cannot be made. -/
def play (sc : Scraper) : History → State → List Move → History × State
  | past, e, [] => (past, e)
  | past, e, m :: rest =>
    match e.step sc m with
    | some e' => play sc ((e, m) :: past) e' rest
    | none => play sc past e rest

theorem Course.play (hc : Course sc past e) (moves : List Move) :
    Course sc (play sc past e moves).1 (play sc past e moves).2 := by
  induction moves generalizing past e with
  | nil => exact hc
  | cons m rest ih =>
    rw [Engine.play]
    split
    · rename_i e' hs
      exact ih (.next hc hs)
    · exact ih hc

theorem mem_play {moves : List Move} {p : State × Move} (h : p ∈ (play sc past e moves).1) :
    p ∈ past ∨ p.2 ∈ moves := by
  induction moves generalizing past e with
  | nil => exact Or.inl h
  | cons m rest ih =>
    rw [play] at h
    split at h
    · rcases ih h with hmem | hmem
      · rcases List.mem_cons.mp hmem with rfl | hmem
        · exact Or.inr List.mem_cons_self
        · exact Or.inl hmem
      · exact Or.inr (List.mem_cons_of_mem _ hmem)
    · exact (ih h).imp_right (List.mem_cons_of_mem _)

/-- A scraper whose only collector waits at a gate. -/
def gatedScraper : Scraper :=
  .ofUnits "windows" [("gated", .single (.await "gate" (.done ())))] []

def gatedPlay (moves : List Move) : History × State :=
  play gatedScraper [] State.initial moves

theorem gated_course (moves : List Move) :
    Course gatedScraper (gatedPlay moves).1 (gatedPlay moves).2 :=
  Course.start.play moves

/-- The first scrape gives up on its collector, which hangs. -/
def hangingMoves : List Move := [.begin (some 0), .note 0, .launch 0, .pass grace, .giveUp 0]

/-- A later scrape does without the collector. -/
def skippingMoves (i : Nat) : List Move := [.begin (some 0), .note i, .launch i, .collect i]

/-- The collector comes to its end after all. -/
def endingMoves : List Move :=
  [.openGate "gate", .work 0 fun _ => .ok [], .conclude 0, .release 0]

/-! ### What has happened -/

/-- The run that a scrape waits for. -/
def State.awaitedRun? (sc : Scraper) (e : State) (i : Nat) : Option Nat :=
  match (e.scrapes[i]?).bind (State.nextStart? sc) with
  | some (.started n) => some n
  | _ => none

/-- The run that a scrape gives up on by a move. -/
def Move.givesUp? (sc : Scraper) (e : State) : Move → Option Nat
  | .giveUp i => e.awaitedRun? sc i
  | _ => none

/-- The run that ends by a move. -/
def Move.ends? : Move → Option Nat
  | .release n => some n
  | _ => none

/-- The runs that scrapes have given up on, the last one first. -/
def givenUp (sc : Scraper) (past : History) : List Nat :=
  past.filterMap fun p => p.2.givesUp? sc p.1

/-- The runs that have ended, the last one first. -/
def ended (past : History) : List Nat := past.filterMap fun p => p.2.ends?

/-- The number of scrapes that have begun and have no answer yet. -/
def State.inProgress (sc : Scraper) (e : State) : Nat :=
  e.scrapes.countP fun s => !s.isReturned sc.units.length

/-- The largest number of scrapes that have been in progress at the same time so far. -/
def peak (sc : Scraper) : History → State → Nat
  | [], e => e.inProgress sc
  | (s, _) :: past, e => max (peak sc past s) (e.inProgress sc)

theorem inProgress_le_peak (sc : Scraper) (past : History) (e : State) :
    e.inProgress sc ≤ peak sc past e := by
  cases past with
  | nil => exact Nat.le_refl _
  | cons p past => exact Nat.le_max_right _ _

theorem peak_le_peak_cons (sc : Scraper) (past : History) (e e' : State) (m : Move) :
    peak sc past e ≤ peak sc ((e, m) :: past) e' :=
  Nat.le_max_left _ _

theorem peak_le_peak_append (sc : Scraper) (later before : History) (s e : State) (m : Move) :
    peak sc before s ≤ peak sc (later ++ (s, m) :: before) e := by
  induction later generalizing e with
  | nil => exact peak_le_peak_cons sc before s e m
  | cons p later ih =>
    obtain ⟨e₀, m₀⟩ := p
    exact Nat.le_trans (ih e₀) (peak_le_peak_cons sc _ e₀ e m₀)

@[simp] theorem givenUp_nil (sc : Scraper) : givenUp sc [] = [] := rfl

@[simp] theorem ended_nil : ended [] = [] := rfl

theorem givenUp_cons (sc : Scraper) (past : History) (e : State) (m : Move) :
    givenUp sc ((e, m) :: past) = (m.givesUp? sc e).toList ++ givenUp sc past := by
  simp only [givenUp, List.filterMap_cons]
  cases m.givesUp? sc e <;> rfl

theorem ended_cons (past : History) (e : State) (m : Move) :
    ended ((e, m) :: past) = m.ends?.toList ++ ended past := by
  simp only [ended, List.filterMap_cons]
  cases m.ends? <;> rfl

/-! ### Moves that give nothing up and end nothing -/

theorem JobChange.givesUp?_eq {n : Nat} {r : Run} {m : Move} {job : Job}
    (h : JobChange e n r m job) : m.givesUp? sc e = none := by
  cases h <;> rfl

theorem JobChange.ends?_eq {n : Nat} {r : Run} {m : Move} {job : Job}
    (h : JobChange e n r m job) : m.ends? = none := by
  cases h <;> rfl

theorem givesUp?_giveUp {i n : Nat} {s : Scrape} (hs : e.scrapes[i]? = some s)
    (hn : State.nextStart? sc s = some (.started n)) :
    Move.givesUp? sc e (.giveUp i) = some n := by
  simp [Move.givesUp?, State.awaitedRun?, hs, hn]

end MetricScraper.Engine
