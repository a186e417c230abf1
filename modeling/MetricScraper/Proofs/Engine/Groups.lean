import MetricScraper.Proofs.Collector.Yield
import MetricScraper.Proofs.Engine.Effect
import MetricScraper.Proofs.Places

/-!
# Composites under way

A composite waits for as many results as it has empty slots.  A child that has sent its result has
it on the way or in its slot, and no child sends twice.  So when nothing comes any more before every
slot is filled, the deadline has passed, and the empty slots are those of children that have sent
nothing.
-/

namespace MetricScraper.Engine
open Places

/-- A child has sent a result, which is what its task handed over. -/
def GroupRun.HasSent (g : GroupRun) (k : Nat) (o : Handover) : Prop :=
  ∃ ch elapsed, g.children[k]? = some ch ∧ ch.sent = true ∧ ch.task.handover? elapsed = some o

/-- What holds of a composite that is under way. -/
structure GroupRun.Sound (c : Composite) (g : GroupRun) : Prop where
  tasks : ∀ {k : Nat} {ch : ChildRun}, g.children[k]? = some ch →
    ∃ child, c.children[k]? = some child ∧ ch.task.From child.work
  children_length : g.children.length = c.children.length
  slots_length : g.slots.length = c.children.length
  pending : g.pending = g.slots.countP Option.isNone
  order : (g.channel.map Prod.fst).Nodup
  channel : ∀ {k : Nat} {o : Handover}, (k, o) ∈ g.channel →
    g.HasSent k o ∧ g.slots[k]? = some none
  slots : ∀ {k : Nat} {o : Handover}, g.slots[k]? = some (some o) → g.HasSent k o
  sent : ∀ {k : Nat} {ch : ChildRun}, g.children[k]? = some ch → ch.sent = true →
    (∃ o, (k, o) ∈ g.channel) ∨ ∃ o, g.slots[k]? = some (some o)

variable {c : Composite} {g g' : GroupRun}

theorem GroupRun.HasSent.sent {k : Nat} {ch : ChildRun} {o : Handover} (h : g.HasSent k o)
    (hk : g.children[k]? = some ch) : ch.sent = true := by
  obtain ⟨ch', elapsed, hk', hs, -⟩ := h
  cases hk.symm.trans hk'
  exact hs

/-- What has been sent stays sent when a child that has sent nothing changes. -/
theorem GroupRun.HasSent.set {j k : Nat} {ch ch' : ChildRun} {o : Handover} (h : g.HasSent j o)
    (hk : g.children[k]? = some ch) (hs : ch.sent = false)
    (hg : g'.children = g.children.set k ch') : g'.HasSent j o := by
  have hne : k ≠ j := by
    rintro rfl
    simp [h.sent hk] at hs
  obtain ⟨chj, elapsed, hj, hsent, ho⟩ := h
  refine ⟨chj, elapsed, ?_, hsent, ho⟩
  rw [hg, List.getElem?_set_ne hne]
  exact hj

namespace GroupRun.Sound

theorem slot_of_child (hg : g.Sound c) {k : Nat} {ch : ChildRun}
    (hk : g.children[k]? = some ch) : ∃ slot, g.slots[k]? = some slot := by
  have hlt := (List.getElem?_eq_some_iff.mp hk).1
  have hc := hg.children_length
  have hs := hg.slots_length
  exact ⟨_, List.getElem?_eq_getElem (by omega)⟩

theorem child_of_slot (hg : g.Sound c) {k : Nat} {slot : Option Handover}
    (hk : g.slots[k]? = some slot) : ∃ ch, g.children[k]? = some ch := by
  have hlt := (List.getElem?_eq_some_iff.mp hk).1
  have hc := hg.children_length
  have hs := hg.slots_length
  exact ⟨_, List.getElem?_eq_getElem (by omega)⟩

theorem start (c : Composite) : (GroupRun.start c).Sound c := by
  have hnone : ∀ {k : Nat} {slot : Option Handover},
      (c.children.map fun _ => (none : Option Handover))[k]? = some slot → slot = none := by
    intro k slot h
    rw [List.getElem?_map, Option.map_eq_some_iff] at h
    obtain ⟨child, -, rfl⟩ := h
    rfl
  constructor
  · intro k ch hk
    simp only [GroupRun.start, List.getElem?_map, Option.map_eq_some_iff] at hk
    obtain ⟨child, hc, rfl⟩ := hk
    exact ⟨child, hc, Task.from_start _⟩
  · exact List.length_map _
  · exact List.length_map _
  · rw [GroupRun.start, List.countP_map, List.countP_eq_length.mpr]
    intro child _
    rfl
  · exact List.nodup_nil
  · intro k o h
    cases h
  · intro k o h
    cases hnone h
  · intro k ch hk hs
    simp only [GroupRun.start, List.getElem?_map, Option.map_eq_some_iff] at hk
    obtain ⟨child, hc, rfl⟩ := hk
    cases hs

/-- A child that can take a step has sent nothing. -/
theorem sent_eq_false_of_step (hg : g.Sound c) {k : Nat} {ch : ChildRun} {m : Moment} {t : Task}
    (hk : g.children[k]? = some ch) (ht : ch.task.step m = some t) : ch.sent = false := by
  by_contra hs
  rw [Bool.not_eq_false] at hs
  have hsent : ∃ o, g.HasSent k o := by
    rcases hg.sent hk hs with ⟨o, ho⟩ | ⟨o, ho⟩
    · exact ⟨o, (hg.channel ho).1⟩
    · exact ⟨o, hg.slots ho⟩
  obtain ⟨o, ch', elapsed, hk', -, ho⟩ := hsent
  cases hk.symm.trans hk'
  rw [Task.handover?, Option.map_eq_some_iff] at ho
  obtain ⟨ending, he, -⟩ := ho
  simp [Task.step_eq_none he] at ht

theorem childWork (hg : g.Sound c) {k : Nat} {ch : ChildRun} {m : Moment} {t : Task}
    (hk : g.children[k]? = some ch) (ht : ch.task.step m = some t) :
    ({ g with children := g.children.set k { ch with task := t } } : GroupRun).Sound c := by
  have hs := hg.sent_eq_false_of_step hk ht
  constructor
  · intro j ch' hj
    rcases getElem?_set_some hj with ⟨rfl, rfl⟩ | ⟨-, hj⟩
    · obtain ⟨child, hc, hfrom⟩ := hg.tasks hk
      exact ⟨child, hc, hfrom.step ht⟩
    · exact hg.tasks hj
  · exact (List.length_set ..).trans hg.children_length
  · exact hg.slots_length
  · exact hg.pending
  · exact hg.order
  · intro j o ho
    obtain ⟨hsent, hslot⟩ := hg.channel ho
    exact ⟨hsent.set hk hs rfl, hslot⟩
  · intro j o ho
    exact (hg.slots ho).set hk hs rfl
  · intro j ch' hj hsj
    rcases getElem?_set_some hj with ⟨rfl, rfl⟩ | ⟨-, hj⟩
    · exact hg.sent hk hsj
    · exact hg.sent hj hsj

theorem send (hg : g.Sound c) {k : Nat} {ch : ChildRun} {elapsed : Duration} {o : Handover}
    (hk : g.children[k]? = some ch) (hs : ch.sent = false)
    (ho : ch.task.handover? elapsed = some o) :
    ({ g with
      children := g.children.set k { ch with sent := true }
      channel := g.channel ++ [(k, o)] } : GroupRun).Sound c := by
  -- nothing of this child is on the way or in its slot yet
  have hnot : ∀ {o'}, ¬ g.HasSent k o' := by
    intro o' h
    simp [h.sent hk] at hs
  have hslot : g.slots[k]? = some none := by
    obtain ⟨slot, hslot⟩ := hg.slot_of_child hk
    cases slot with
    | none => exact hslot
    | some o' => exact absurd (hg.slots hslot) hnot
  constructor
  · intro j ch' hj
    rcases getElem?_set_some hj with ⟨rfl, rfl⟩ | ⟨-, hj⟩
    · obtain ⟨child, hchild, hfrom⟩ := hg.tasks hk
      exact ⟨child, hchild, hfrom⟩
    · exact hg.tasks hj
  · exact (List.length_set ..).trans hg.children_length
  · exact hg.slots_length
  · exact hg.pending
  · rw [List.map_append, List.map_singleton, List.nodup_append]
    refine ⟨hg.order, List.nodup_singleton _, ?_⟩
    intro j hj j' hj'
    obtain ⟨⟨j, o'⟩, hmem, rfl⟩ := List.mem_map.mp hj
    rw [List.mem_singleton.mp hj']
    rintro rfl
    exact hnot (hg.channel hmem).1
  · intro j o' hmem
    rcases List.mem_append.mp hmem with hmem | hmem
    · obtain ⟨hsent, hslot'⟩ := hg.channel hmem
      exact ⟨hsent.set hk hs rfl, hslot'⟩
    · cases List.mem_singleton.mp hmem
      exact ⟨⟨_, elapsed, getElem?_set_self _ hk, rfl, ho⟩, hslot⟩
  · intro j o' hj
    exact (hg.slots hj).set hk hs rfl
  · intro j ch' hj hsj
    rcases getElem?_set_some hj with ⟨rfl, rfl⟩ | ⟨-, hj⟩
    · exact Or.inl ⟨o, List.mem_append_right _ (List.mem_singleton_self _)⟩
    · rcases hg.sent hj hsj with ⟨o', ho'⟩ | hslot'
      · exact Or.inl ⟨o', List.mem_append_left _ ho'⟩
      · exact Or.inr hslot'

theorem receive (hg : g.Sound c) {k : Nat} {o : Handover} {rest : List (Nat × Handover)}
    (hc : g.channel = (k, o) :: rest) :
    ({ g with
      channel := rest, slots := g.slots.set k (some o), pending := g.pending - 1 } :
      GroupRun).Sound c := by
  have hfirst : (k, o) ∈ g.channel := by simp [hc]
  obtain ⟨hsent, hslot⟩ := hg.channel hfirst
  have horder := hg.order
  rw [hc, List.map_cons, List.nodup_cons] at horder
  constructor
  · exact hg.tasks
  · exact hg.children_length
  · exact (List.length_set ..).trans hg.slots_length
  · show g.pending - 1 = (g.slots.set k (some o)).countP Option.isNone
    have hcount := countP_set_add Option.isNone (some o) hslot
    have hpending := hg.pending
    simp only [Option.isNone_none, Option.isNone_some, if_true, Bool.false_eq_true, if_false]
      at hcount
    omega
  · exact horder.2
  · intro j o' hmem
    obtain ⟨hsent', hslot'⟩ := hg.channel (hc ▸ List.mem_cons_of_mem _ hmem)
    refine ⟨hsent', ?_⟩
    -- the results that are on the way yet are of other children
    rw [List.getElem?_set_ne]
    · exact hslot'
    · rintro rfl
      exact horder.1 (List.mem_map.mpr ⟨_, hmem, rfl⟩)
  · intro j o' hj
    rcases getElem?_set_some hj with ⟨rfl, ho⟩ | ⟨-, hj⟩
    · cases ho
      exact hsent
    · exact hg.slots hj
  · intro j ch hj hsj
    rcases hg.sent hj hsj with ⟨o', hmem⟩ | ⟨o', hslot'⟩
    · rw [hc] at hmem
      rcases List.mem_cons.mp hmem with heq | hmem
      · cases heq
        exact Or.inr ⟨o, getElem?_set_self _ hslot⟩
      · exact Or.inl ⟨o', hmem⟩
    · by_cases hjk : k = j
      · subst hjk
        exact Or.inr ⟨o, getElem?_set_self _ hslot⟩
      · exact Or.inr ⟨o', (List.getElem?_set_ne hjk).trans hslot'⟩

/-! ### The end of the wait -/

theorem empty_slot (hg : g.Sound c) (hp : g.pending ≠ 0) :
    ∃ (k : Nat) (ch : ChildRun), g.children[k]? = some ch ∧ g.slots[k]? = some none := by
  have hpos : 0 < g.slots.countP Option.isNone := by
    have hpending := hg.pending
    omega
  obtain ⟨slot, hmem, hnone⟩ := List.countP_pos_iff.mp hpos
  obtain ⟨k, hk⟩ := List.mem_iff_getElem?.mp hmem
  rw [Option.isNone_iff_eq_none.mp hnone] at hk
  obtain ⟨ch, hch⟩ := hg.child_of_slot hk
  exact ⟨k, ch, hch, hk⟩

theorem sent_eq_false (hg : g.Sound c) {k : Nat} {ch : ChildRun}
    (hk : g.children[k]? = some ch) (hc : g.channel = []) (hslot : g.slots[k]? = some none) :
    ch.sent = false := by
  by_contra hs
  rw [Bool.not_eq_false] at hs
  rcases hg.sent hk hs with ⟨o, hmem⟩ | ⟨o, hsome⟩
  · simp [hc] at hmem
  · cases hslot.symm.trans hsome

/-- The children of a composite never go away before it has their results: it stops waiting only
when it is late. -/
theorem silence_eq_late (hg : g.Sound c) {isLate : Bool} {silence : Silence}
    (h : g.silence? isLate = some silence) :
    silence = .late ∧ isLate = true ∧ g.channel = [] := by
  unfold GroupRun.silence? at h
  split at h
  · cases h
  · rename_i hwait
    simp only [Bool.or_eq_true, Bool.not_eq_true', List.isEmpty_eq_false_iff, not_or, not_not,
      decide_eq_true_eq] at hwait
    obtain ⟨hp, hc⟩ := hwait
    split at h
    · -- if all had sent, the result that is missing would be on the way
      rename_i hall
      obtain ⟨k, ch, hk, hslot⟩ := hg.empty_slot hp
      have hs := List.all_eq_true.mp hall ch (List.mem_of_getElem? hk)
      simp [hg.sent_eq_false hk hc hslot] at hs
    · split at h
      · rename_i hlate
        cases h
        exact ⟨rfl, hlate, hc⟩
      · cases h

theorem runs?_eq_some {isLate : Bool} {elapsed : Duration} {runs : List Handover}
    (h : g.runs? isLate elapsed = some runs) :
    (g.pending = 0 ∧ runs = g.records none elapsed) ∨
      ∃ silence, g.silence? isLate = some silence ∧ runs = g.records (some silence) elapsed := by
  unfold GroupRun.runs? at h
  split at h
  · rename_i hp
    cases h
    exact Or.inl ⟨hp, rfl⟩
  · rw [Option.map_eq_some_iff] at h
    obtain ⟨silence, hs, rfl⟩ := h
    exact Or.inr ⟨silence, hs, rfl⟩

theorem getElem?_records {silence : Option Silence} {elapsed : Duration} {k : Nat}
    {slot : Option Handover} (hk : g.slots[k]? = some slot) :
    (g.records silence elapsed)[k]? = some (slot.getD (Silence.record elapsed silence)) := by
  simp [GroupRun.records, hk]

theorem length_runs (hg : g.Sound c) {isLate : Bool} {elapsed : Duration} {runs : List Handover}
    (h : g.runs? isLate elapsed = some runs) : runs.length = c.children.length := by
  rcases runs?_eq_some h with ⟨-, rfl⟩ | ⟨silence, -, rfl⟩
  · exact (List.length_map _).trans hg.slots_length
  · exact (List.length_map _).trans hg.slots_length

/-- When a composite stops waiting, a child that has sent its result has been received, and one
that has sent nothing has timed out. -/
theorem run_of_child (hg : g.Sound c) {isLate : Bool} {elapsed : Duration} {runs : List Handover}
    (h : g.runs? isLate elapsed = some runs) {k : Nat} {ch : ChildRun}
    (hk : g.children[k]? = some ch) :
    ∃ o, runs[k]? = some o ∧
      ((ch.sent = true ∧ g.HasSent k o) ∨
        (ch.sent = false ∧ isLate = true ∧ o = .failed (.timeout elapsed) elapsed)) := by
  obtain ⟨slot, hslot⟩ := hg.slot_of_child hk
  cases slot with
  | some o =>
    have hsent := hg.slots hslot
    refine ⟨o, ?_, Or.inl ⟨hsent.sent hk, hsent⟩⟩
    rcases runs?_eq_some h with ⟨-, rfl⟩ | ⟨silence, -, rfl⟩
    · exact getElem?_records hslot
    · exact getElem?_records hslot
  | none =>
    rcases runs?_eq_some h with ⟨hp, -⟩ | ⟨silence, hsil, rfl⟩
    · have hpos : 0 < g.slots.countP Option.isNone :=
        List.countP_pos_iff.mpr ⟨none, List.mem_of_getElem? hslot, rfl⟩
      have hpending := hg.pending
      omega
    · obtain ⟨rfl, hlate, hc⟩ := hg.silence_eq_late hsil
      exact ⟨_, getElem?_records hslot,
        Or.inr ⟨hg.sent_eq_false hk hc hslot, hlate, rfl⟩⟩

end GroupRun.Sound

end MetricScraper.Engine
