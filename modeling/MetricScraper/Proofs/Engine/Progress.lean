import MetricScraper.Proofs.Engine.Course
import MetricScraper.Proofs.Engine.Jobs

/-!
# Composites come to their end

A composite whose deadline has passed, or whose children have ended, is never stuck: a child can
send, or the composite can receive or return.  No run makes more of these moves than its children
need, so it comes to its end in whatever order they are made.
-/

namespace MetricScraper.Engine
open Places

variable {sc : Scraper} {past : History} {e e' : State} {m : Move} {n : Nat} {r : Run}
  {c : Composite} {g : GroupRun}

/-! ### Own moves -/

/-- Whether a move is one of a composite that waits, or of a child that sends. -/
def Move.isOwn (n : Nat) : Move → Bool
  | .send k _ => k == n
  | .receive k => k == n
  | .conclude k => k == n
  | _ => false

/-- How much there is to send and to receive yet. -/
def GroupRun.remaining (g : GroupRun) : Nat :=
  g.children.countP (fun ch => !ch.sent) + g.pending

theorem remaining_send {k : Nat} {ch : ChildRun} (hk : g.children[k]? = some ch)
    (hs : ch.sent = false) (channel : List (Nat × Handover)) :
    ({ g with children := g.children.set k { ch with sent := true }, channel := channel } :
      GroupRun).remaining + 1 = g.remaining := by
  have hcount := countP_set_add (fun ch => !ch.sent) { ch with sent := true } hk
  simp only [hs, Bool.not_false, if_true, Bool.not_true, Bool.false_eq_true, if_false] at hcount
  simp only [GroupRun.remaining]
  omega

theorem remaining_receive (hp : g.pending ≠ 0) (channel : List (Nat × Handover))
    (slots : List (Option Handover)) :
    ({ g with channel := channel, slots := slots, pending := g.pending - 1 } :
      GroupRun).remaining + 1 = g.remaining := by
  simp only [GroupRun.remaining]
  omega

/-- Whether every child has come to its end. -/
def GroupRun.HasEnded (g : GroupRun) : Prop :=
  ∀ ch ∈ g.children, ch.task.ending? ≠ none

/-! ### A composite is never stuck -/

/-- A run has returned, or has less to do. -/
def Advanced (e : State) (n : Nat) (c : Composite) (g : GroupRun) (context : Context)
    (e' : State) : Prop :=
  ∃ r, e'.runs[n]? = some r ∧ (r.ending ≠ none ∨ ∃ g', r.job = .group c g' ∧
    r.context = context ∧ r.ending = none ∧ g'.remaining < g.remaining ∧ e'.now = e.now ∧
    (g.HasEnded → g'.HasEnded))

/-- A composite gets on by a move of its own. -/
def Advances (sc : Scraper) (e : State) (n : Nat) (c : Composite) (g : GroupRun)
    (context : Context) : Prop :=
  ∃ m e', m.isOwn n = true ∧ Effect sc e m e' ∧ Advanced e n c g context e'

theorem advances_conclude (hr : e.runs[n]? = some r) (hj : r.job = .group c g)
    (hn : r.ending = none) {runs : List Handover}
    (h : g.runs? (e.isPast r.context.deadline) (e.elapsed r) = some runs) :
    Advances sc e n c g r.context := by
  have hcon : r.job.conclude? (e.isPast r.context.deadline) (e.elapsed r) =
      some (c.handover runs (e.elapsed r)) := by
    rw [hj, Job.conclude?, h, Option.map_some]
  exact ⟨.conclude n, _, beq_self_eq_true n, .conclude hr hn hcon, _, getElem?_set_self _ hr,
    Or.inl (by simp)⟩

theorem advances_receive (hr : e.runs[n]? = some r) (hj : r.job = .group c g)
    (hn : r.ending = none) (hp : g.pending ≠ 0) {k : Nat} {o : Handover}
    {rest : List (Nat × Handover)} (hc : g.channel = (k, o) :: rest) :
    Advances sc e n c g r.context := by
  have hrest := remaining_receive hp rest (g.slots.set k (some o))
  exact ⟨.receive n, _, beq_self_eq_true n, .job hr (.receive hj hn hp hc), _,
    getElem?_set_self _ hr, Or.inr ⟨_, rfl, rfl, hn, by omega, rfl, id⟩⟩

theorem advances_send (hr : e.runs[n]? = some r) (hj : r.job = .group c g)
    (hn : r.ending = none) {k : Nat} {ch : ChildRun} (hk : g.children[k]? = some ch)
    (hs : ch.sent = false) (he : ch.task.ending? ≠ none) : Advances sc e n c g r.context := by
  obtain ⟨ending, hend⟩ := Option.ne_none_iff_exists'.mp he
  have hover : ch.task.handover? (e.elapsed r) =
      some (.ofEnding ch.task.record.samples (e.elapsed r) ending) := by
    rw [Task.handover?, hend, Option.map_some]
  have hrest := remaining_send hk hs
    (g.channel ++ [(k, .ofEnding ch.task.record.samples (e.elapsed r) ending)])
  refine ⟨.send n k, _, beq_self_eq_true n, .job hr (.send hj hk hs hover), _,
    getElem?_set_self _ hr, Or.inr ⟨_, rfl, rfl, hn, by omega, rfl, ?_⟩⟩
  -- sending changes no task, so all children have ended still
  intro hall ch' hmem
  rcases List.mem_or_eq_of_mem_set hmem with hmem | rfl
  · exact hall ch' hmem
  · exact he

theorem runs?_of_silence {isLate : Bool} {silence : Silence} (hp : g.pending ≠ 0)
    (h : g.silence? isLate = some silence) (elapsed : Duration) :
    g.runs? isLate elapsed = some (g.records (some silence) elapsed) := by
  rw [GroupRun.runs?, if_neg hp, h, Option.map_some]

/-- A composite that is late, or whose children have ended, is never stuck. -/
theorem advances (hr : e.runs[n]? = some r) (hj : r.job = .group c g) (hn : r.ending = none)
    (hend : e.isPast r.context.deadline = true ∨ g.HasEnded) :
    Advances sc e n c g r.context := by
  by_cases hp : g.pending = 0
  · exact advances_conclude hr hj hn (if_pos hp)
  · cases hc : g.channel with
    | cons p rest => exact advances_receive hr hj hn hp hc
    | nil =>
      by_cases hall : g.children.all ChildRun.sent = true
      · have hsil : g.silence? (e.isPast r.context.deadline) = some .disconnected := by
          simp [GroupRun.silence?, hp, hc, hall]
        exact advances_conclude hr hj hn (runs?_of_silence hp hsil _)
      · rcases hend with hlate | hended
        · have hsil : g.silence? (e.isPast r.context.deadline) = some .late := by
            simp [GroupRun.silence?, hp, hc, hall, hlate]
          exact advances_conclude hr hj hn (runs?_of_silence hp hsil _)
        · obtain ⟨ch, hmem, hs⟩ : ∃ ch ∈ g.children, ch.sent = false := by
            simpa [List.all_eq_true] using hall
          obtain ⟨k, hk⟩ := List.mem_iff_getElem?.mp hmem
          exact advances_send hr hj hn hk hs (hended ch hmem)

/-- How many results a job has to send and to receive yet. -/
def Job.remaining : Job → Nat
  | .single _ => 0
  | .group _ g => g.remaining

/-- How many moves of its own a run has to make yet. -/
def Run.toDo (r : Run) : Nat := r.job.remaining + if r.ending.isNone then 1 else 0

theorem JobChange.remaining {m : Move} {job : Job} (h : JobChange e n r m job) :
    job.remaining + (if m.isOwn n then 1 else 0) = r.job.remaining := by
  cases h with
  | work hj ht =>
    rw [hj]
    rfl
  | @childWork c g k ch t' rows hj hk ht =>
    have hcount := countP_set_add (fun ch => !ch.sent) { ch with task := t' } hk
    rw [hj]
    dsimp only at hcount
    simp only [Job.remaining, GroupRun.remaining, Move.isOwn, Bool.false_eq_true, if_false]
    omega
  | send hj hk hs ho =>
    rw [hj]
    simpa [Job.remaining, Move.isOwn] using remaining_send hk hs _
  | receive hj hn hp hc =>
    rw [hj]
    simpa [Job.remaining, Move.isOwn] using remaining_receive hp _ _

end MetricScraper.Engine
