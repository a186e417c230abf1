import MetricScraper.Engine.Playout

/-!
# Playouts are courses

A playout makes moves one after another, and leaves out those that cannot be made.  So every state
that it comes to is reachable, whatever its sources answer.
-/

namespace MetricScraper.Engine.Playout

variable {σ α : Type} {sc : Scraper} {src : Sources σ} {p : Playout σ}

/-- Whether the state of a playout is one that moves lead to. -/
def IsReachable (sc : Scraper) (p : Playout σ) : Prop := Reachable sc p.state

theorem isReachable_move (hp : p.IsReachable sc) (m : Move) : (p.move sc m).IsReachable sc := by
  show Reachable sc ((p.state.step sc m).getD p.state)
  cases hs : p.state.step sc m with
  | none => exact hp
  | some e => exact .step m hp hs

/-- What every turn of a loop keeps, the loop keeps. -/
theorem isReachable_foldl {f : Playout σ → α → Playout σ}
    (hf : ∀ p x, p.IsReachable sc → (f p x).IsReachable sc) (l : List α)
    (hp : p.IsReachable sc) : (l.foldl f p).IsReachable sc := by
  induction l generalizing p with
  | nil => exact hp
  | cons x l ih => exact ih (hf p x hp)

/-! ### Runs -/

theorem isReachable_follow (c : Context) (act : Rows → Move) (w : Work Unit)
    (hp : p.IsReachable sc) : (follow sc src c act w p).IsReachable sc := by
  induction w generalizing p with
  | done result => exact hp
  | fail error => exact hp
  | panic => exact hp
  | push samples rest ih => exact ih (isReachable_move hp _)
  | log entry rest ih => exact ih (isReachable_move hp _)
  | table object next ih =>
    unfold follow
    split
    · exact ih _ (isReachable_move hp _)
    · exact isReachable_move hp _
  | rows query next ih =>
    have hmoved : ∀ (m : Move) (s : σ),
        ({ p.move sc m with source := s } : Playout σ).IsReachable sc :=
      fun m _ => isReachable_move hp m
    unfold follow
    dsimp only
    split
    · exact ih _ (hmoved _ _)
    · exact hmoved _ _
  | check rest ih =>
    unfold follow
    split
    · exact isReachable_move hp _
    · exact ih (isReachable_move hp _)
  | await gate rest ih =>
    unfold follow
    split
    · exact ih (isReachable_move hp _)
    · exact hp

theorem isReachable_playJob (run : Nat) (c : Context) (job : Job) (hp : p.IsReachable sc) :
    (playJob sc src run c p job).IsReachable sc := by
  cases job with
  | single t => exact isReachable_follow c _ _ hp
  | group composite g =>
    refine isReachable_foldl (fun p child hp => ?_) _ (isReachable_move hp _)
    exact isReachable_move (isReachable_move (isReachable_follow c _ _ hp) _) _

theorem isReachable_playRun (i : Nat) (hp : p.IsReachable sc) :
    (playRun sc src p i).IsReachable sc := by
  unfold playRun
  split
  · exact hp
  · rename_i r _
    have hjob : (playJob sc src i r.context p r.job).IsReachable sc := isReachable_playJob i _ _ hp
    exact isReachable_move (isReachable_move (isReachable_move hjob _) _) _

theorem isReachable_playRuns (hp : p.IsReachable sc) : (playRuns sc src p).IsReachable sc :=
  isReachable_foldl (fun _ i hp => isReachable_playRun i hp) _ hp

/-! ### Scrapes -/

theorem isReachable_beginScrape (timeout : Option Duration) (hp : p.IsReachable sc) :
    (beginScrape sc timeout p).2.IsReachable sc :=
  isReachable_move (isReachable_move hp _) _

theorem isReachable_passDeadline (i : Nat) (more : Duration) (hp : p.IsReachable sc) :
    (p.passDeadline sc i more).IsReachable sc := by
  unfold passDeadline
  split
  · exact isReachable_move hp _
  · exact hp

theorem isReachable_fetchFor (i : Nat) (hp : p.IsReachable sc) :
    (fetchFor sc src p i).IsReachable sc := by
  have hasked : ∀ s : σ, ({ p with source := s } : Playout σ).IsReachable sc := fun _ => hp
  unfold fetchFor
  dsimp only
  split
  · exact hp
  · split
    · exact isReachable_move (hasked _) _
    · split
      · exact isReachable_move (isReachable_passDeadline i 0 (hasked _)) _
      · exact isReachable_move (hasked _) _

theorem isReachable_launchUnits (i : Nat) (hp : p.IsReachable sc) :
    (launchUnits sc p i).IsReachable sc :=
  isReachable_foldl (fun _ _ hp => isReachable_move (isReachable_move hp _) _) _ hp

theorem isReachable_awaitUnit (i : Nat) (hp : p.IsReachable sc) :
    (awaitUnit sc src i p).IsReachable sc := by
  have hcollect := isReachable_move hp (.collect i)
  have hplayed :
      (playRuns sc src ((p.move sc (.collect i)).passDeadline sc i 0)).IsReachable sc :=
    isReachable_playRuns (isReachable_passDeadline i 0 hcollect)
  have hlate := isReachable_move hplayed (.collect i)
  unfold awaitUnit
  dsimp only
  split
  · exact hcollect
  · split
    · exact hlate
    · exact isReachable_move (isReachable_passDeadline i grace hlate) _

theorem isReachable_awaitUnits (i : Nat) (hp : p.IsReachable sc) :
    (awaitUnits sc src p i).IsReachable sc :=
  isReachable_foldl (fun _ _ hp => isReachable_awaitUnit i hp) _ hp

theorem isReachable_beginAll (src : Sources σ) (timeouts : List (Option Duration))
    (ids : List Nat) (hp : p.IsReachable sc) :
    (timeouts.foldl
      (fun (ids, p) timeout =>
        let (i, p) := beginScrape sc timeout p
        (ids ++ [i], fetchFor sc src p i))
      (ids, p)).2.IsReachable sc := by
  induction timeouts generalizing ids p with
  | nil => exact hp
  | cons timeout rest ih =>
    exact ih _ (isReachable_fetchFor _ (isReachable_beginScrape timeout hp))

theorem isReachable_scrapes (timeouts : List (Option Duration)) (hp : p.IsReachable sc) :
    (scrapes sc src timeouts p).2.IsReachable sc := by
  have hlaunched := fun ids => isReachable_foldl (fun _ i hp => isReachable_launchUnits i hp) ids
    (isReachable_beginAll src timeouts [] hp)
  exact isReachable_foldl (fun _ i hp => isReachable_awaitUnits i hp) _
    (isReachable_playRuns (hlaunched _))

theorem isReachable_release (gate : String) (hp : p.IsReachable sc) :
    (release sc src gate p).IsReachable sc :=
  isReachable_playRuns (isReachable_move hp _)

end MetricScraper.Engine.Playout
