import MetricScraper.Duration
import Mathlib.Data.Rat.Cast.Order
import Mathlib.Algebra.Order.Field.Basic
import Mathlib.Algebra.Order.Field.Power
import Mathlib.Tactic.Linarith

/-!
# Durations of floats

The duration of a number of seconds is the number of nanoseconds nearest to it, and every number
that is not negative and less than `2 ^ 64` has one.
-/

namespace MetricScraper

open Decimal

/-- The magnitude of a finite float. -/
def Decimal.Binary.value (b : Binary) : ℚ := b.mantissa * 2 ^ b.exponent

namespace Duration

/-- The number of nanoseconds in the magnitude of a finite float of seconds. -/
def nanosOf (x : Float) : ℚ := (Binary.ofFloat x).value * nanosPerSecond

theorem twoTo_pos (e : Int) : 0 < twoTo e := Nat.two_pow_pos _

/-- A binary number as the quotient that durations are rounded from. -/
theorem value_eq_div (b : Binary) :
    b.value = (b.mantissa * twoTo b.exponent : Nat) / (twoTo (-b.exponent) : Nat) := by
  rw [Binary.value, Nat.cast_mul, mul_div_assoc]
  congr 1
  rcases Int.le_total 0 b.exponent with h | h
  · obtain ⟨n, hn⟩ := Int.eq_ofNat_of_zero_le h
    simp [twoTo, hn]
  · obtain ⟨n, hn⟩ := Int.eq_ofNat_of_zero_le (Int.neg_nonneg_of_nonpos h)
    have he : b.exponent = -(n : Int) := by omega
    simp [twoTo, he]

theorem div_eq_quotient_add_rest (n : Nat) {d : Nat} (hd : 0 < d) :
    (n : ℚ) / d = (n / d : Nat) + (n % d : Nat) / d := by
  have hd' : (d : ℚ) ≠ 0 := by exact_mod_cast hd.ne'
  have hdiv : (d : ℚ) * (n / d : Nat) + (n % d : Nat) = n := by
    exact_mod_cast Nat.div_add_mod n d
  rw [div_eq_iff hd', add_mul, div_mul_cancel₀ _ hd']
  linarith

/-- A quotient is rounded by no more than a half. -/
theorem roundQuotient_near (n : Nat) {d : Nat} (hd : 0 < d) :
    |(roundQuotient n d : ℚ) - n / d| ≤ 1 / 2 := by
  have hd' : (0 : ℚ) < d := by exact_mod_cast hd
  have hmod : n % d < d := Nat.mod_lt n hd
  have hquot := div_eq_quotient_add_rest n hd
  -- rounded down the rest is at most a half, and rounded up at least
  have hcases : (roundQuotient n d = n / d ∧ 2 * (n % d) ≤ d) ∨
      (roundQuotient n d = n / d + 1 ∧ d ≤ 2 * (n % d)) := by
    unfold roundQuotient
    dsimp only
    split
    · exact Or.inl ⟨rfl, by omega⟩
    · split
      · exact Or.inr ⟨rfl, by omega⟩
      · split
        · exact Or.inl ⟨rfl, by omega⟩
        · exact Or.inr ⟨rfl, by omega⟩
  rcases hcases with ⟨hround, hle⟩ | ⟨hround, hle⟩
  · have hrest : ((n % d : Nat) : ℚ) / d ≤ 1 / 2 := by
      have hle' : (2 : ℚ) * (n % d : Nat) ≤ d := by exact_mod_cast hle
      rw [div_le_div_iff₀ hd' two_pos]
      linarith
    have hpos : 0 ≤ ((n % d : Nat) : ℚ) / d := div_nonneg (Nat.cast_nonneg _) hd'.le
    rw [hround, hquot, abs_le]
    constructor <;> linarith
  · have hrest : 1 / 2 ≤ ((n % d : Nat) : ℚ) / d := by
      have hle' : (d : ℚ) ≤ 2 * (n % d : Nat) := by exact_mod_cast hle
      rw [div_le_div_iff₀ two_pos hd']
      linarith
    have hlt : ((n % d : Nat) : ℚ) / d < 1 := by
      rw [div_lt_one hd']
      exact_mod_cast hmod
    rw [hround, hquot, abs_le, Nat.cast_add, Nat.cast_one]
    constructor <;> linarith

/-- What is rounded by a half is rounded to an even number. -/
theorem even_roundQuotient {n d : Nat} (hd : 0 < d)
    (h : |(roundQuotient n d : ℚ) - n / d| = 1 / 2) : Even (roundQuotient n d) := by
  have hd' : (0 : ℚ) < d := by exact_mod_cast hd
  have hpos : 0 ≤ ((n % d : Nat) : ℚ) / d := div_nonneg (Nat.cast_nonneg _) hd'.le
  rw [div_eq_quotient_add_rest n hd] at h
  unfold roundQuotient at h ⊢
  dsimp only at h ⊢
  split at h
  · rename_i hlow
    have hrest : ((n % d : Nat) : ℚ) / d < 1 / 2 := by
      have hlow' : (2 : ℚ) * (n % d : Nat) < d := by exact_mod_cast hlow
      rw [div_lt_div_iff₀ hd' two_pos]
      linarith
    rw [sub_add_cancel_left, abs_neg, abs_of_nonneg hpos] at h
    linarith
  · rename_i hlow
    split at h
    · rename_i hhigh
      have hrest : 1 / 2 < ((n % d : Nat) : ℚ) / d := by
        have hhigh' : (d : ℚ) < 2 * (n % d : Nat) := by exact_mod_cast hhigh
        rw [div_lt_div_iff₀ two_pos hd']
        linarith
      have hlt : ((n % d : Nat) : ℚ) / d < 1 := by
        rw [div_lt_one hd']
        exact_mod_cast Nat.mod_lt n hd
      rw [Nat.cast_add, Nat.cast_one, add_sub_add_left_eq_sub,
        abs_of_pos (by linarith)] at h
      linarith
    · rename_i hhigh
      rw [if_neg hlow, if_neg hhigh]
      split
      · rename_i heven
        exact Nat.even_iff.mpr heven
      · rename_i hodd
        apply Nat.even_iff.mpr
        omega

/-! ### The nearest whole number -/

/-- A whole number nearest to a number, the even one where there are two. -/
structure IsNearest (n : Nat) (x : ℚ) : Prop where
  near : |(n : ℚ) - x| ≤ 1 / 2
  even : |(n : ℚ) - x| = 1 / 2 → Even n

theorem isNearest_roundQuotient (n : Nat) {d : Nat} (hd : 0 < d) :
    IsNearest (roundQuotient n d) (n / d) :=
  ⟨roundQuotient_near n hd, even_roundQuotient hd⟩

theorem IsNearest.le {m n : Nat} {x : ℚ} (hm : IsNearest m x) (hn : IsNearest n x) : m ≤ n := by
  by_contra hlt
  obtain ⟨-, hm₂⟩ := abs_le.mp hm.near
  obtain ⟨hn₁, -⟩ := abs_le.mp hn.near
  have hle : (n : ℚ) + 1 ≤ m := by exact_mod_cast Nat.lt_of_not_le hlt
  -- only the two neighbours of a half are both near enough, and one of them is odd
  have hnext : m = n + 1 := by
    have hcast : (m : ℚ) = n + 1 := by linarith
    exact_mod_cast hcast
  have hmeven : Even m := by
    apply hm.even
    rw [abs_of_nonneg (by linarith)]
    linarith
  have hneven : Even n := by
    apply hn.even
    rw [abs_of_nonpos (by linarith)]
    linarith
  rw [Nat.even_iff] at hmeven hneven
  omega

theorem IsNearest.unique {m n : Nat} {x : ℚ} (hm : IsNearest m x) (hn : IsNearest n x) : m = n :=
  Nat.le_antisymm (hm.le hn) (hn.le hm)

theorem isNearest_zero_iff {x : ℚ} (hx : 0 ≤ x) : IsNearest 0 x ↔ x ≤ 1 / 2 := by
  have hself : |((0 : Nat) : ℚ) - x| = x := by
    rw [Nat.cast_zero, zero_sub, abs_neg, abs_of_nonneg hx]
  constructor
  · intro h
    have hnear := h.near
    rwa [hself] at hnear
  · intro h
    refine ⟨?_, fun _ => Even.zero⟩
    rwa [hself]

/-! ### Durations of seconds -/

theorem nanosOf_nonneg (x : Float) : 0 ≤ nanosOf x := by
  unfold nanosOf Binary.value
  positivity

theorem limit_le_iff (x : Float) :
    secondsLimit ≤ (Binary.ofFloat x).mantissa * twoTo (Binary.ofFloat x).exponent /
        twoTo (-(Binary.ofFloat x).exponent) ↔
      secondsLimit * nanosPerSecond ≤ nanosOf x := by
  have hdown := twoTo_pos (-(Binary.ofFloat x).exponent)
  have hdown' : (0 : ℚ) < (twoTo (-(Binary.ofFloat x).exponent) : Nat) := by exact_mod_cast hdown
  have hnanos : (0 : ℚ) < nanosPerSecond := by norm_num [nanosPerSecond]
  rw [Nat.le_div_iff_mul_le hdown, nanosOf, mul_le_mul_iff_left₀ hnanos, value_eq_div,
    le_div_iff₀ hdown']
  exact_mod_cast Iff.rfl

/-- A float has a duration when it is a number of seconds from zero on and below the limit. -/
theorem isSome_ofSeconds?_iff (x : Float) :
    (ofSeconds? x).isSome ↔
      x.isNaN = false ∧ ¬ x < 0.0 ∧ x.isInf = false ∧
        nanosOf x < secondsLimit * nanosPerSecond := by
  have hguard : (x.isNaN || x < 0.0 || x.isInf) = true ↔
      ¬ (x.isNaN = false ∧ ¬ x < 0.0 ∧ x.isInf = false) := by
    cases x.isNaN <;> cases x.isInf <;> by_cases hneg : x < 0.0 <;> simp [hneg]
  unfold ofSeconds?
  dsimp only
  split
  · rename_i hbad
    rw [hguard] at hbad
    simp only [Option.isSome_none, Bool.false_eq_true, false_iff]
    intro hgood
    exact hbad ⟨hgood.1, hgood.2.1, hgood.2.2.1⟩
  · rename_i hgood
    rw [hguard, not_not] at hgood
    obtain ⟨hnan, hneg, hinf⟩ := hgood
    split
    · rename_i hlimit
      rw [ge_iff_le, limit_le_iff] at hlimit
      simp [hlimit]
    · rename_i hlimit
      rw [ge_iff_le, limit_le_iff, not_le] at hlimit
      simp only [Option.isSome_some, true_iff]
      exact ⟨hnan, hneg, hinf, hlimit⟩

theorem isNearest_of_ofSeconds? {x : Float} {d : Duration} (h : ofSeconds? x = some d) :
    IsNearest d (nanosOf x) := by
  unfold ofSeconds? at h
  split at h
  · cases h
  · dsimp only at h
    split at h
    · cases h
    · cases h
      have hround := isNearest_roundQuotient
        ((Binary.ofFloat x).mantissa * twoTo (Binary.ofFloat x).exponent * nanosPerSecond)
        (twoTo_pos (-(Binary.ofFloat x).exponent))
      rw [Nat.cast_mul _ nanosPerSecond] at hround
      rw [nanosOf, value_eq_div, div_mul_eq_mul_div]
      exact hround

/-- The numbers of seconds that have a duration, and the duration. -/
theorem ofSeconds?_eq_some_iff {x : Float} {d : Duration} :
    ofSeconds? x = some d ↔
      (x.isNaN = false ∧ ¬ x < 0.0 ∧ x.isInf = false ∧
        nanosOf x < secondsLimit * nanosPerSecond) ∧ IsNearest d (nanosOf x) := by
  rw [← isSome_ofSeconds?_iff]
  constructor
  · intro h
    exact ⟨by rw [h]; rfl, isNearest_of_ofSeconds? h⟩
  · intro h
    obtain ⟨e, he⟩ := Option.isSome_iff_exists.mp h.1
    rw [he, (isNearest_of_ofSeconds? he).unique h.2]

/-- The duration of a number of seconds is its number of nanoseconds, rounded. -/
theorem ofSeconds?_near {x : Float} {d : Duration} (h : ofSeconds? x = some d) :
    nanosOf x < secondsLimit * nanosPerSecond ∧ |(d : ℚ) - nanosOf x| ≤ 1 / 2 := by
  obtain ⟨⟨-, -, -, hlimit⟩, hnearest⟩ := ofSeconds?_eq_some_iff.mp h
  exact ⟨hlimit, hnearest.near⟩

end Duration

end MetricScraper
