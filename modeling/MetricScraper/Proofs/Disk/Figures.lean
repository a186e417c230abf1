import Mathlib.Algebra.Order.BigOperators.GroupWithZero.List
import Mathlib.Algebra.Order.Field.Rat
import Mathlib.Tactic.GCongr
import Mathlib.Tactic.Linarith
import Mathlib.Tactic.NormNum
import Mathlib.Tactic.Positivity
import MetricScraper.Disk.Health

/-!
# Health figures over exact numbers

Read over rational numbers, the health is 100 times a product with one share for each weighted
signal.  A share is 1 for a count of zero, falls with the count and with the weight, and stops at
0; what holds of the shares carries over to their product.
-/

namespace MetricScraper.Disk

instance : Arithmetic ℚ where
  ofCount n := n.toNat
  ltDec := fun a b => inferInstanceAs (Decidable (a < b))

/-- The signals that count against the health of a disk. -/
def weighted : List Signal :=
  [.reallocatedSectors, .readErrorRate, .spinRetries, .reallocationEvents, .pendingSectors,
    .uncorrectableSectors]

/-! ### Weights -/

/-- The percentage of health that one unit of a signal costs. -/
def HealthCalculation.cost (c : HealthCalculation) (s : Signal) : ℚ :=
  ((c.weights (α := ℚ)).lookup s).getD 0

namespace HealthCalculation

theorem weights_eq (c : HealthCalculation) :
    c.weights (α := ℚ) = weighted.map fun s => (s, c.cost s) := by
  cases c <;> rfl

theorem cost_pos (c : HealthCalculation) : ∀ s ∈ weighted, 0 < c.cost s := by
  cases c <;> decide +kernel

theorem cost_le : ∀ s ∈ weighted, standard.cost s ≤ restricted.cost s := by
  decide +kernel

end HealthCalculation

theorem clampUnit_eq {x : ℚ} (h : x ≤ 1) : clampUnit x = max 0 x := by
  have hclamp : clampUnit x =
      if x < (0.0 : ℚ) then (0.0 : ℚ) else if (1.0 : ℚ) < x then (1.0 : ℚ) else x := rfl
  have hzero : (0.0 : ℚ) = 0 := by norm_num
  have hone : (1.0 : ℚ) = 1 := by norm_num
  rw [hclamp, hzero, hone, if_neg (not_lt.mpr h)]
  split
  · rename_i hneg
    exact (max_eq_left hneg.le).symm
  · rename_i hpos
    exact (max_eq_right (not_lt.mp hpos)).symm

namespace Health

/-! ### Shares -/

/-- The count of a signal, zero if it was not reported. -/
def count (h : Health) (s : Signal) : ℕ := ((h.signal? s).getD 0).toNat

theorem count_eq_zero_iff {h : Health} {s : Signal} :
    h.count s = 0 ↔ h.signal? s = none ∨ h.signal? s = some 0 := by
  rw [count]
  cases h.signal? s with
  | none => simp
  | some n => simp [← UInt64.toNat_inj]

/-- The share of health that the count of a signal leaves. -/
def share (h : Health) (c : HealthCalculation) (s : Signal) : ℚ :=
  max 0 (1 - c.cost s * h.count s / 100)

variable {h h' : Health} {c c' : HealthCalculation} {s : Signal}

theorem factor_eq (h : Health) (hs : s ∈ weighted) : h.factor (s, c.cost s) = h.share c s := by
  have hcost := c.cost_pos s hs
  have hloss : 0 ≤ c.cost s * h.count s / 100 := by positivity
  have hfactor : h.factor (s, c.cost s) =
      clampUnit ((1.0 : ℚ) - c.cost s * h.count s / (100.0 : ℚ)) := rfl
  have hdecimals : (1.0 : ℚ) - c.cost s * h.count s / (100.0 : ℚ) =
      1 - c.cost s * h.count s / 100 := by norm_num
  rw [hfactor, hdecimals, clampUnit_eq (by linarith), share]

theorem share_nonneg (h : Health) (c : HealthCalculation) (s : Signal) : 0 ≤ h.share c s :=
  le_max_left ..

theorem share_le_one (h : Health) (c : HealthCalculation) (hs : s ∈ weighted) :
    h.share c s ≤ 1 := by
  have hcost := c.cost_pos s hs
  have hloss : 0 ≤ c.cost s * h.count s / 100 := by positivity
  exact max_le zero_le_one (by linarith)

theorem share_eq_one_iff (hs : s ∈ weighted) : h.share c s = 1 ↔ h.count s = 0 := by
  have hcost := c.cost_pos s hs
  constructor
  · intro hone
    by_contra hcount
    have hpos : (0 : ℚ) < h.count s := by exact_mod_cast Nat.pos_of_ne_zero hcount
    have hloss : 0 < c.cost s * h.count s / 100 := by positivity
    have hlt : h.share c s < 1 := max_lt zero_lt_one (by linarith)
    exact hlt.ne hone
  · intro hcount
    rw [share, hcount]
    norm_num

/-- A share falls with the weight and with the count. -/
theorem share_le (hs : s ∈ weighted) (hcost : c.cost s ≤ c'.cost s)
    (hcount : h.count s ≤ h'.count s) : h'.share c' s ≤ h.share c s := by
  have hpos : 0 ≤ c'.cost s := (c'.cost_pos s hs).le
  have hcount : (h.count s : ℚ) ≤ h'.count s := by exact_mod_cast hcount
  have hloss : c.cost s * h.count s ≤ c'.cost s * h'.count s := by gcongr
  refine max_le_max_left 0 ?_
  linarith

/-! ### Health in percent -/

theorem percent_eq (h : Health) (c : HealthCalculation) :
    (h.percent c : ℚ) = 100 * (weighted.map (h.share c)).prod := by
  have hpercent : (h.percent c : ℚ) =
      (100.0 : ℚ) * ((c.weights (α := ℚ)).map h.factor).foldl (· * ·) (1.0 : ℚ) := rfl
  have hshares : (weighted.map fun s => (s, c.cost s)).map h.factor = weighted.map (h.share c) := by
    rw [List.map_map]
    exact List.map_congr_left fun s hs => h.factor_eq hs
  have hhundred : (100.0 : ℚ) = 100 := by norm_num
  have hone : (1.0 : ℚ) = 1 := by norm_num
  rw [hpercent, c.weights_eq, hshares, hhundred, hone, List.prod_eq_foldl]

theorem percent_le (hcost : ∀ s ∈ weighted, c.cost s ≤ c'.cost s)
    (hcount : ∀ s ∈ weighted, h.count s ≤ h'.count s) :
    (h'.percent c' : ℚ) ≤ h.percent c := by
  have hshares : (weighted.map (h'.share c')).prod ≤ (weighted.map (h.share c)).prod :=
    List.prod_map_le_prod_map₀ _ _ (fun s _ => h'.share_nonneg c' s)
      fun s hs => share_le hs (hcost s hs) (hcount s hs)
  rw [percent_eq, percent_eq]
  linarith

theorem percent_nonneg (h : Health) (c : HealthCalculation) : 0 ≤ (h.percent c : ℚ) := by
  have hprod : 0 ≤ (weighted.map (h.share c)).prod := by
    refine List.prod_nonneg fun x hx => ?_
    obtain ⟨s, -, rfl⟩ := List.mem_map.mp hx
    exact h.share_nonneg c s
  rw [percent_eq]
  linarith

end Health

theorem prod_eq_one_iff {l : List ℚ} (hl : ∀ x ∈ l, 0 ≤ x ∧ x ≤ 1) :
    l.prod ≤ 1 ∧ (l.prod = 1 ↔ ∀ x ∈ l, x = 1) := by
  induction l with
  | nil => simp
  | cons x l ih =>
    obtain ⟨⟨hx, hx1⟩, hl⟩ := List.forall_mem_cons.mp hl
    obtain ⟨hle, hiff⟩ := ih hl
    have hprod : 0 ≤ l.prod := List.prod_nonneg fun y hy => (hl y hy).1
    rw [List.prod_cons, List.forall_mem_cons, ← hiff]
    refine ⟨mul_le_one₀ hx1 hprod hle, fun h => ?_, fun h => by rw [h.1, h.2, one_mul]⟩
    -- a product of numbers up to one is at most each of them
    have hleft : x * l.prod ≤ x := mul_le_of_le_one_right hx hle
    have hright : x * l.prod ≤ l.prod := mul_le_of_le_one_left hprod hx1
    exact ⟨by linarith, by linarith⟩

namespace Health

theorem percent_bounds (h : Health) (c : HealthCalculation) :
    (h.percent c : ℚ) ≤ 100 ∧
      ((h.percent c : ℚ) = 100 ↔ ∀ s ∈ weighted, h.signal? s = none ∨ h.signal? s = some 0) := by
  have hall : ∀ x ∈ weighted.map (h.share c), 0 ≤ x ∧ x ≤ 1 := by
    intro x hx
    obtain ⟨s, hs, rfl⟩ := List.mem_map.mp hx
    exact ⟨h.share_nonneg c s, h.share_le_one c hs⟩
  obtain ⟨hle, hiff⟩ := prod_eq_one_iff hall
  have hshares : (∀ x ∈ weighted.map (h.share c), x = 1) ↔
      ∀ s ∈ weighted, h.signal? s = none ∨ h.signal? s = some 0 := by
    rw [List.forall_mem_map]
    exact forall₂_congr fun s hs => (share_eq_one_iff hs).trans count_eq_zero_iff
  rw [percent_eq, ← hshares, ← hiff]
  refine ⟨by linarith, fun h => by linarith, fun h => by linarith⟩

/-! ### Reserve blocks -/

theorem reservePercent?_eq_some_iff {h : Health} {p : ℚ} :
    h.reservePercent? = some p ↔ ∃ n, h.signal? .reserveBlocks = some n ∧ 0 < n ∧
      p = 100 * n.toNat / (n.toNat + h.count .reallocatedSectors) := by
  have hhundred : (100.0 : ℚ) = 100 := by norm_num
  cases hreserve : h.signal? .reserveBlocks with
  | none =>
    have hpercent : (h.reservePercent? : Option ℚ) = none := by rw [reservePercent?, hreserve]
    simp [hpercent]
  | some n =>
    have hpercent : (h.reservePercent? : Option ℚ) = if n = 0 then none else
        some ((100.0 : ℚ) * n.toNat / (n.toNat + h.count .reallocatedSectors)) := by
      rw [reservePercent?, hreserve]
      rfl
    rw [hpercent, hhundred]
    by_cases hn : n = 0
    · simp [hn]
    · simp [hn, UInt64.pos_iff_ne_zero, eq_comm]

theorem reserve_bounds {n k : ℕ} (hn : 0 < n) :
    (n + k : ℚ) ≠ 0 ∧ 0 < (100 * n / (n + k) : ℚ) ∧ (100 * n / (n + k) : ℚ) ≤ 100 ∧
      ((100 * n / (n + k) : ℚ) = 100 ↔ k = 0) := by
  have hn : (0 : ℚ) < n := by exact_mod_cast hn
  have hk : (0 : ℚ) ≤ k := by positivity
  have hsum : (0 : ℚ) < n + k := by positivity
  refine ⟨hsum.ne', by positivity, ?_, ?_⟩
  · rw [div_le_iff₀ hsum]
    linarith
  · rw [div_eq_iff hsum.ne', ← Nat.cast_eq_zero (R := ℚ)]
    constructor
    · intro h
      linarith
    · intro h
      rw [h, add_zero]

end Health

/-- Over exact numbers the restricted figure of a disk is at most the standard one, both lie between
0 and 100, are 100 exactly without counts, and do not grow with a count.  The share of reserve
blocks is there exactly if the disk reports some; its divisor is not zero, it lies above 0 and at
most at 100, and it is 100 exactly without reallocated sectors. -/
theorem figures_bounded (attributes : List Attribute) :
    let h := Health.assess attributes
    (0 ≤ (h.percent .restricted : ℚ) ∧ (h.percent .restricted : ℚ) ≤ h.percent .standard ∧
      (h.percent .standard : ℚ) ≤ 100) ∧
    (∀ c, (h.percent c : ℚ) = 100 ↔
      ∀ s ∈ weighted, h.signal? s = none ∨ h.signal? s = some 0) ∧
    (∀ c, ∀ s ∈ weighted, ∀ h' : Health, (∀ t, t ≠ s → h'.signal? t = h.signal? t) →
      (h.signal? s).getD 0 ≤ (h'.signal? s).getD 0 → (h'.percent c : ℚ) ≤ h.percent c) ∧
    ((h.reservePercent? : Option ℚ).isSome ↔
      ∃ n, h.signal? .reserveBlocks = some n ∧ 0 < n) ∧
    ∀ p : ℚ, h.reservePercent? = some p →
      (∃ n, h.signal? .reserveBlocks = some n ∧
        (n.toNat + h.count .reallocatedSectors : ℚ) ≠ 0 ∧
        p = 100 * n.toNat / (n.toNat + h.count .reallocatedSectors)) ∧
      0 < p ∧ p ≤ 100 ∧
      (p = 100 ↔ h.signal? .reallocatedSectors = none ∨ h.signal? .reallocatedSectors = some 0) := by
  intro h
  refine ⟨⟨h.percent_nonneg _, ?_, (h.percent_bounds _).1⟩, fun c => (h.percent_bounds c).2,
    ?_, ?_, ?_⟩
  · exact Health.percent_le HealthCalculation.cost_le fun _ _ => le_rfl
  · intro c s hs h' hother hs'
    refine Health.percent_le (fun _ _ => le_rfl) fun t ht => ?_
    by_cases hts : t = s
    · subst hts
      exact hs'
    · rw [Health.count, Health.count, hother t hts]
  · rw [Option.isSome_iff_exists]
    constructor
    · rintro ⟨p, hp⟩
      obtain ⟨n, hn, hpos, -⟩ := Health.reservePercent?_eq_some_iff.mp hp
      exact ⟨n, hn, hpos⟩
    · rintro ⟨n, hn, hpos⟩
      exact ⟨_, Health.reservePercent?_eq_some_iff.mpr ⟨n, hn, hpos, rfl⟩⟩
  · intro p hp
    obtain ⟨n, hn, hpos, rfl⟩ := Health.reservePercent?_eq_some_iff.mp hp
    obtain ⟨hsum, hgt, hle, hiff⟩ :=
      Health.reserve_bounds (k := h.count .reallocatedSectors) (UInt64.lt_iff_toNat_lt.mp hpos)
    exact ⟨⟨n, hn, hsum, rfl⟩, hgt, hle, hiff.trans Health.count_eq_zero_iff⟩

/-- A disk that has lost a tenth of its reserve, and whose pending sectors grow from 50 to 60. -/
theorem figures_bounded_worn :
    let worn : List Attribute := [⟨170, 100, 100, 90, [90, 0, 0, 0, 0]⟩,
      ⟨5, 100, 100, 10, [10, 0, 0, 0, 0]⟩, ⟨197, 100, 100, 50, [50, 0, 0, 0, 0]⟩]
    let worse := worn ++ [⟨197, 100, 100, 60, [60, 0, 0, 0, 0]⟩]
    ((Health.assess worse).percent .standard : ℚ) ≤ (Health.assess worn).percent .standard ∧
      ((Health.assess worn).percent .standard : ℚ) ≠ 100 ∧
      ∃ p : ℚ, (Health.assess worn).reservePercent? = some p ∧ 0 < p ∧ p ≤ 100 ∧ p ≠ 100 := by
  intro worn worse
  obtain ⟨-, hfull, hraised, hsome, hreserve⟩ := figures_bounded worn
  refine ⟨?_, ?_, ?_⟩
  · refine hraised .standard .pendingSectors (by decide) (Health.assess worse) ?_ (by decide)
    intro t ht
    cases t <;> first | rfl | exact absurd rfl ht
  · rw [ne_eq, hfull]
    decide
  · obtain ⟨p, hp⟩ := Option.isSome_iff_exists.mp (hsome.mpr ⟨90, rfl, by decide⟩)
    obtain ⟨-, hpos, hle, hiff⟩ := hreserve p hp
    refine ⟨p, hp, hpos, hle, ?_⟩
    rw [ne_eq, hiff]
    decide

end MetricScraper.Disk
