import Mathlib.Algebra.BigOperators.Group.List.Basic
import Mathlib.Algebra.GroupWithZero.Nat
import Mathlib.Data.List.Induction
import Mathlib.Data.List.ProdSigma
import MetricScraper.Disk.Health

/-!
# What attributes tell together

Attributes are taken in one after another: each replaces the value of the signal it reports, and
adds the critical conditions that it meets.  So the value of a signal is that of the last attribute
which reports it, and the number of critical conditions is a sum.  All that is said of `assess`
here follows from these two equations.
-/

namespace MetricScraper.Disk

/-! ### Critical conditions -/

/-- What a rule can find critical. -/
inductive Condition where
  /-- A normalized value has come down to the limit. -/
  | limit
  /-- There is a raw value other than zero. -/
  | count
  deriving DecidableEq, Repr

def Condition.all : List Condition := [limit, count]

/-- The conditions that an attribute meets under the rule of its id. -/
inductive Attribute.Meets (a : Attribute) : Condition → Prop where
  | normalized {r : Rule} {l : UInt8} (hr : rule? a.id = some r) (hl : r.threshold = .either l)
      (h : a.normalized ≤ l) : Meets a .limit
  | worst {r : Rule} {l : UInt8} (hr : rule? a.id = some r)
      (hl : r.threshold = .either l ∨ r.threshold = .worst l) (h : a.worst ≤ l) : Meets a .limit
  | raw {r : Rule} (hr : rule? a.id = some r) (hcritical : r.rawIsCritical = true)
      (h : a.raw ≠ 0) : Meets a .count

theorem Threshold.isReached_iff (t : Threshold) (a : Attribute) :
    t.isReached a = true ↔ (∃ l, t = .either l ∧ a.normalized ≤ l) ∨
      ∃ l, (t = .either l ∨ t = .worst l) ∧ a.worst ≤ l := by
  cases t with
  | unlimited => simp [isReached]
  | either limit => simp [isReached]
  | worst limit => simp [isReached]

theorem Attribute.meets_limit_iff (a : Attribute) :
    a.Meets .limit ↔ ∃ r, rule? a.id = some r ∧ r.threshold.isReached a = true := by
  simp only [Threshold.isReached_iff]
  constructor
  · intro h
    cases h with
    | normalized hr hl h => exact ⟨_, hr, Or.inl ⟨_, hl, h⟩⟩
    | worst hr hl h => exact ⟨_, hr, Or.inr ⟨_, hl, h⟩⟩
  · intro h
    obtain ⟨r, hr, ⟨l, hl, h⟩ | ⟨l, hl, h⟩⟩ := h
    · exact .normalized hr hl h
    · exact .worst hr hl h

theorem Attribute.meets_count_iff (a : Attribute) :
    a.Meets .count ↔ ∃ r, rule? a.id = some r ∧ r.rawIsReached a = true := by
  constructor
  · intro h
    cases h with
    | raw hr hcritical h => exact ⟨_, hr, by simp [Rule.rawIsReached, hcritical, h]⟩
  · intro h
    obtain ⟨r, hr, h⟩ := h
    rw [Rule.rawIsReached, Bool.and_eq_true, bne_iff_ne] at h
    exact .raw hr h.1 h.2

instance (a : Attribute) (c : Condition) : Decidable (a.Meets c) :=
  match c with
  | .limit => decidable_of_iff ((rule? a.id).any fun r => r.threshold.isReached a) (by
      rw [a.meets_limit_iff, Option.any_eq_true])
  | .count => decidable_of_iff ((rule? a.id).any fun r => r.rawIsReached a) (by
      rw [a.meets_count_iff, Option.any_eq_true])

theorem Attribute.violations_eq (a : Attribute) :
    a.violations = Condition.all.countP fun c => a.Meets c := by
  have hlimit := a.meets_limit_iff
  have hcount := a.meets_count_iff
  cases hr : rule? a.id with
  | none => simp [violations, Condition.all, hlimit, hcount, hr]
  | some r =>
    simp only [hr, Option.some.injEq, exists_eq_left'] at hlimit hcount
    simp only [violations, Rule.violations, hr, Condition.all, List.countP_cons, List.countP_nil,
      hlimit, hcount, decide_eq_true_eq]
    omega

/-- The pairs of an attribute and a condition that it meets. -/
def criticalPairs (attributes : List Attribute) : List (Attribute × Condition) :=
  (attributes ×ˢ Condition.all).filter fun p => p.1.Meets p.2

theorem length_criticalPairs (attributes : List Attribute) :
    (criticalPairs attributes).length = (attributes.map Attribute.violations).sum := by
  induction attributes with
  | nil => rfl
  | cons a rest ih =>
    have hfirst : ((Condition.all.map fun c => (a, c)).filter fun p => p.1.Meets p.2).length =
        a.violations := by
      rw [a.violations_eq, List.filter_map, List.length_map, ← List.countP_eq_length_filter]
      rfl
    rw [criticalPairs] at ih
    rw [criticalPairs, List.product_cons, List.filter_append, List.length_append, hfirst, ih,
      List.map_cons, List.sum_cons]

theorem length_criticalPairs_singleton_le (a : Attribute) : (criticalPairs [a]).length ≤ 2 := by
  have hle : Condition.all.countP (fun c => a.Meets c) ≤ 2 := List.countP_le_length
  rw [length_criticalPairs, List.map_singleton, List.sum_singleton, a.violations_eq]
  exact hle

/-! ### Reports of a signal -/

/-- The attributes that report a signal, in order. -/
def reports (s : Signal) (attributes : List Attribute) : List Attribute :=
  attributes.filter fun a => a.signal? = some s

theorem mem_reports {s : Signal} {attributes : List Attribute} {a : Attribute} :
    a ∈ reports s attributes ↔ a ∈ attributes ∧ a.signal? = some s := by
  rw [reports, List.mem_filter, decide_eq_true_eq]

theorem reports_append (s : Signal) (attributes more : List Attribute) :
    reports s (attributes ++ more) = reports s attributes ++ reports s more :=
  List.filter_append ..

theorem reports_eq_nil_iff {s : Signal} {attributes : List Attribute} :
    reports s attributes = [] ↔ ∀ a ∈ attributes, a.signal? ≠ some s := by
  simp only [List.eq_nil_iff_forall_not_mem, mem_reports, not_and, ne_eq]

/-- An id that no rule is for. -/
def IsUnknown (id : UInt8) : Prop := ∀ entry ∈ ruleTable, id ∉ entry.1

instance (id : UInt8) : Decidable (IsUnknown id) :=
  inferInstanceAs (Decidable (∀ entry ∈ ruleTable, id ∉ entry.1))

theorem rule?_eq_none {id : UInt8} (h : IsUnknown id) : rule? id = none := by
  rw [rule?, Option.map_eq_none_iff, List.find?_eq_none]
  intro entry hentry
  simpa using h entry hentry

/-! ### The two equations -/

namespace Health

theorem assess_concat (attributes : List Attribute) (a : Attribute) :
    assess (attributes ++ [a]) = (assess attributes).add a := by
  rw [assess, List.foldl_concat]
  rfl

/-- The last report of a signal counts. -/
theorem signal?_assess (attributes : List Attribute) (s : Signal) :
    (assess attributes).signal? s = (reports s attributes).getLast?.map s.valueIn := by
  -- from the end: the attribute taken in last decides, if it reports the signal
  induction attributes using List.reverseRecOn with
  | nil => rfl
  | append_singleton attributes a ih =>
    rw [assess_concat, add, reports_append]
    by_cases ha : a.signal? = some s
    · have hlast : reports s [a] = [a] := by simp [reports, ha]
      rw [hlast, List.getLast?_concat, Option.map_some]
      exact if_pos ha
    · have hlast : reports s [a] = [] := by simp [reports, ha]
      rw [hlast, List.append_nil, ← ih]
      exact if_neg ha

theorem critical_assess (attributes : List Attribute) :
    (assess attributes).critical = (attributes.map Attribute.violations).sum := by
  induction attributes using List.reverseRecOn with
  | nil => rfl
  | append_singleton attributes a ih =>
    rw [assess_concat, add, ih, List.map_append, List.sum_append, List.map_singleton,
      List.sum_singleton]

/-- Attributes that are as critical, and report each signal alike, tell the same. -/
theorem assess_congr {attributes other : List Attribute}
    (hcritical : (attributes.map Attribute.violations).sum = (other.map Attribute.violations).sum)
    (hreports : ∀ s, reports s attributes = reports s other) :
    assess attributes = assess other := by
  have hsignal : (assess attributes).signal? = (assess other).signal? := by
    funext s
    rw [signal?_assess, signal?_assess, hreports s]
  rw [← critical_assess, ← critical_assess] at hcritical
  calc assess attributes
    _ = ⟨(assess attributes).signal?, (assess attributes).critical⟩ := rfl
    _ = ⟨(assess other).signal?, (assess other).critical⟩ := by rw [hsignal, hcritical]
    _ = assess other := rfl

/-! ### What follows -/

theorem critical_assess_append (attributes more : List Attribute) :
    (assess (attributes ++ more)).critical =
      (assess attributes).critical + (assess more).critical := by
  rw [critical_assess, critical_assess, critical_assess, List.map_append, List.sum_append]

theorem signal?_assess_append (attributes more : List Attribute) (s : Signal) :
    (assess (attributes ++ more)).signal? s =
      ((assess more).signal? s).or ((assess attributes).signal? s) := by
  rw [signal?_assess, signal?_assess, signal?_assess, reports_append, List.getLast?_append,
    Option.map_or]

theorem signal?_assess_eq_none_iff {attributes : List Attribute} {s : Signal} :
    (assess attributes).signal? s = none ↔ ∀ a ∈ attributes, a.signal? ≠ some s := by
  rw [signal?_assess, Option.map_eq_none_iff, List.getLast?_eq_none_iff, reports_eq_nil_iff]

theorem signal?_assess_of_last {front back : List Attribute} {a : Attribute} {s : Signal}
    (ha : a.signal? = some s) (hback : ∀ b ∈ back, b.signal? ≠ some s) :
    (assess (front ++ a :: back)).signal? s = some (s.valueIn a) := by
  have hnone : (assess back).signal? s = none := signal?_assess_eq_none_iff.mpr hback
  have hlast : reports s (front ++ [a]) = reports s front ++ [a] := by
    rw [reports_append]
    simp [reports, ha]
  rw [List.append_cons, signal?_assess_append, hnone, Option.none_or, signal?_assess, hlast,
    List.getLast?_concat, Option.map_some]

theorem assess_of_unknown {front unknown back : List Attribute}
    (h : ∀ a ∈ unknown, IsUnknown a.id) :
    assess (front ++ unknown ++ back) = assess (front ++ back) := by
  have hrule : ∀ a ∈ unknown, rule? a.id = none := fun a ha => rule?_eq_none (h a ha)
  have hviolations : (unknown.map Attribute.violations).sum = 0 := by
    refine List.sum_eq_zero fun n hn => ?_
    obtain ⟨a, ha, rfl⟩ := List.mem_map.mp hn
    simp [Attribute.violations, hrule a ha]
  have hreports (s : Signal) : reports s unknown = [] := by
    refine reports_eq_nil_iff.mpr fun a ha => ?_
    simp [Attribute.signal?, hrule a ha]
  refine assess_congr ?_ fun s => ?_
  · simp only [List.map_append, List.sum_append, hviolations, Nat.add_zero]
  · simp only [reports_append, hreports s, List.append_nil]

theorem assess_perm {attributes other : List Attribute} (h : attributes.Perm other)
    (hreports : ∀ s, reports s attributes = reports s other) :
    assess attributes = assess other :=
  assess_congr (h.map Attribute.violations).sum_eq hreports

end Health

/-- What attributes tell is put together from what their parts tell, the later part first.  A
signal is missing if no attribute reports it, and else has the value of the last one that does.
Attributes of unknown ids do not matter, nor does the order of attributes that do not report the
same signal.  The critical conditions are counted one by one, at most two of an attribute. -/
theorem assess_tells_last (attributes : List Attribute) :
    (∀ more, (Health.assess (attributes ++ more)).critical =
        (Health.assess attributes).critical + (Health.assess more).critical ∧
      ∀ s, (Health.assess (attributes ++ more)).signal? s =
        ((Health.assess more).signal? s).or ((Health.assess attributes).signal? s)) ∧
    (∀ s, (Health.assess attributes).signal? s = none ↔ ∀ a ∈ attributes, a.signal? ≠ some s) ∧
    (∀ front a back s, attributes = front ++ a :: back → a.signal? = some s →
      (∀ b ∈ back, b.signal? ≠ some s) →
        (Health.assess attributes).signal? s = some (s.valueIn a)) ∧
    (∀ front unknown back, attributes = front ++ back → (∀ a ∈ unknown, IsUnknown a.id) →
      Health.assess (front ++ unknown ++ back) = Health.assess attributes) ∧
    (∀ other, attributes.Perm other → (∀ s, reports s attributes = reports s other) →
      Health.assess attributes = Health.assess other) ∧
    (Health.assess attributes).critical = (criticalPairs attributes).length ∧
    ∀ a, (criticalPairs [a]).length ≤ 2 := by
  refine ⟨fun more => ?_, fun s => Health.signal?_assess_eq_none_iff, ?_, ?_, ?_, ?_,
    length_criticalPairs_singleton_le⟩
  · exact ⟨Health.critical_assess_append attributes more,
      Health.signal?_assess_append attributes more⟩
  · rintro front a back s rfl ha hback
    exact Health.signal?_assess_of_last ha hback
  · rintro front unknown back rfl hunknown
    exact Health.assess_of_unknown hunknown
  · intro other hperm hreports
    exact Health.assess_perm hperm hreports
  · rw [Health.critical_assess, length_criticalPairs]

/-- Two ids report the reserve blocks, with an unknown one between them, and two the remaining
lifetime; the last attribute meets both conditions of its rule.  The spin-up time is in the middle of
the raw bytes, and the remaining lifetime is no raw value. -/
theorem assess_tells_last_replaced :
    let old : Attribute := ⟨170, 100, 100, 90, [90, 0, 0, 0, 0]⟩
    let unknown : Attribute := ⟨250, 1, 1, 99, [99, 0, 0, 0, 0]⟩
    let new : Attribute := ⟨180, 100, 100, 40, [40, 0, 0, 0, 0]⟩
    let failing : Attribute := ⟨184, 100, 40, 1, [1, 0, 0, 0, 0]⟩
    let spun : Attribute := ⟨3, 100, 100, 513, [1, 2, 44, 1, 7]⟩
    let unworn : Attribute := ⟨202, 99, 98, 12, [12, 0, 0, 0, 0]⟩
    let worn : Attribute := ⟨231, 97, 96, 13, [13, 0, 0, 0, 0]⟩
    (Health.assess [old, unknown, new, failing]).signal? .reserveBlocks = some 40 ∧
      (Health.assess [old, unknown, new, failing]).signal? .temperature = none ∧
      Health.assess [old, unknown, new, failing] = Health.assess [failing, old, new] ∧
      (Health.assess [old, new, failing]).critical = 2 ∧
      (Health.assess [unworn, spun, worn]).signal? .spinUpTime = some 300 ∧
      (Health.assess [unworn, spun, worn]).signal? .lifetimeRemaining = some 97 := by
  intro old unknown new failing spun unworn worn
  obtain ⟨-, hnone, hlast, -⟩ := assess_tells_last [old, unknown, new, failing]
  obtain ⟨-, -, -, hunknown, hperm, hcritical, -⟩ := assess_tells_last [old, new, failing]
  obtain ⟨-, -, hderived, -⟩ := assess_tells_last [unworn, spun, worn]
  have hswap : Health.assess [old, new, failing] = Health.assess [failing, old, new] := by
    refine hperm [failing, old, new] (by decide) fun s => ?_
    cases s <;> decide
  refine ⟨?_, ?_, ?_, ?_, ?_, ?_⟩
  · exact hlast [old, unknown] new [failing] .reserveBlocks rfl (by decide) (by decide)
  · exact (hnone .temperature).mpr (by decide)
  · have hdrop := hunknown [old] [unknown] [new, failing] rfl (by decide)
    exact hdrop.trans hswap
  · rw [hcritical]
    decide
  · exact hderived [unworn] spun [worn] .spinUpTime rfl (by decide) (by decide)
  · exact hderived [unworn, spun] worn [] .lifetimeRemaining rfl (by decide) (by decide)

end MetricScraper.Disk
