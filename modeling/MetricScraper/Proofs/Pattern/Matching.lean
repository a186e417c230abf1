import MetricScraper.Pattern.Match
import Mathlib.Data.Finset.Card
import Mathlib.Data.Finset.Range
import Mathlib.Data.Nat.Bitwise
import Mathlib.Order.Monotone.Basic

/-!
# What expressions go through

An expression goes through a text from one place to another.  The places that are reached from a set
of places are those to which the expression leads from one of them; a repetition without a greatest
count reaches what it can reach in as many turns as the text has places.
-/

namespace MetricScraper.Pattern

/-! ### Ways of expressions -/

/-- A number of turns one after another. -/
def Turns (R : Nat → Nat → Prop) : Nat → Nat → Nat → Prop
  | 0, i, j => i = j
  | n + 1, i, k => ∃ j, R i j ∧ Turns R n j k

/-- The character before a place, `before` being the one before the text. -/
def charBefore (before : Option Char) (text : List Char) : Nat → Option Char
  | 0 => before
  | i + 1 => text[i]?

/-- Whether an expression goes through a text from the one place to the other. -/
def PatternExpression.Leads (text : List Char) : PatternExpression → Nat → Nat → Prop
  | .empty => fun i j => i = j
  | .step set => fun i j => j = i + 1 ∧ ∃ c, text[i]? = some c ∧ set.contains c = true
  | .look condition => fun i j =>
    i = j ∧ i ≤ text.length ∧ condition.holds (charBefore none text i) text[i]? = true
  | .sequence a b => fun i k => ∃ j, Leads text a i j ∧ Leads text b j k
  | .alternation a b => fun i j => Leads text a i j ∨ Leads text b i j
  | .repetition e least most _ => fun i j =>
    ∃ more, (∀ m, most = some m → more ≤ m - least) ∧ Turns (Leads text e) (least + more) i j
  | .group _ e => Leads text e

/-! ### Turns -/

variable {R : Nat → Nat → Prop}

theorem turns_add {m n i k : Nat} :
    Turns R (m + n) i k ↔ ∃ j, Turns R m i j ∧ Turns R n j k := by
  induction m generalizing i with
  | zero =>
    rw [Nat.zero_add]
    constructor
    · intro h
      exact ⟨i, rfl, h⟩
    · intro h
      obtain ⟨j, rfl, h⟩ := h
      exact h
  | succ m ih =>
    rw [Nat.succ_add]
    constructor
    · intro h
      obtain ⟨l, hl, h⟩ := h
      obtain ⟨j, hm, hn⟩ := ih.mp h
      exact ⟨j, ⟨l, hl, hm⟩, hn⟩
    · intro h
      obtain ⟨j, ⟨l, hl, hm⟩, hn⟩ := h
      exact ⟨l, hl, ih.mpr ⟨j, hm, hn⟩⟩

theorem turns_succ {n i k : Nat} : Turns R (n + 1) i k ↔ ∃ j, Turns R n i j ∧ R j k := by
  rw [turns_add]
  constructor
  · intro h
    obtain ⟨j, hn, l, hl, rfl⟩ := h
    exact ⟨j, hn, hl⟩
  · intro h
    obtain ⟨j, hn, hl⟩ := h
    exact ⟨j, hn, k, hl, rfl⟩

theorem turns_le {length : Nat} (hR : ∀ {i j}, i ≤ length → R i j → j ≤ length) {n i j : Nat}
    (hi : i ≤ length) (h : Turns R n i j) : j ≤ length := by
  induction n generalizing i with
  | zero =>
    cases h
    exact hi
  | succ n ih =>
    obtain ⟨l, hl, h⟩ := h
    exact ih (hR hi hl) h

theorem leads_le {text : List Char} {e : PatternExpression} {i j : Nat} (hi : i ≤ text.length)
    (h : e.Leads text i j) : j ≤ text.length := by
  induction e generalizing i j with
  | empty =>
    cases h
    exact hi
  | step set =>
    obtain ⟨rfl, c, hc, -⟩ := h
    exact (List.getElem?_eq_some_iff.mp hc).1
  | look condition =>
    obtain ⟨rfl, hle, -⟩ := h
    exact hle
  | sequence a b iha ihb =>
    obtain ⟨k, ha, hb⟩ := h
    exact ihb (iha hi ha) hb
  | alternation a b iha ihb =>
    rcases h with h | h
    · exact iha hi h
    · exact ihb hi h
  | repetition e least most greedy ih =>
    obtain ⟨more, -, h⟩ := h
    exact turns_le ih hi h
  | group remembered e ih => exact ih hi h

/-- As many turns or fewer are turns that may also stand still. -/
theorem turns_still_iff {k i j : Nat} :
    Turns (fun i j => i = j ∨ R i j) k i j ↔ ∃ n ≤ k, Turns R n i j := by
  induction k generalizing i with
  | zero =>
    constructor
    · intro h
      exact ⟨0, Nat.le_refl 0, h⟩
    · intro h
      obtain ⟨n, hn, h⟩ := h
      cases Nat.le_zero.mp hn
      exact h
  | succ k ih =>
    constructor
    · intro h
      obtain ⟨l, rfl | hl, h⟩ := h
      · obtain ⟨n, hn, h⟩ := ih.mp h
        exact ⟨n, Nat.le_succ_of_le hn, h⟩
      · obtain ⟨n, hn, h⟩ := ih.mp h
        exact ⟨n + 1, Nat.succ_le_succ hn, l, hl, h⟩
    · intro h
      obtain ⟨n, hn, h⟩ := h
      cases n with
      | zero => exact ⟨i, Or.inl rfl, ih.mpr ⟨0, Nat.zero_le k, h⟩⟩
      | succ n =>
        obtain ⟨l, hl, h⟩ := h
        exact ⟨l, Or.inr hl, ih.mpr ⟨n, Nat.le_of_succ_le_succ hn, h⟩⟩

/-- The places among `0` to `length` that a number of turns or fewer lead to. -/
noncomputable def within (R : Nat → Nat → Prop) (length i k : Nat) : Finset Nat :=
  haveI : DecidablePred fun j => ∃ n ≤ k, Turns R n i j := Classical.decPred _
  (Finset.range (length + 1)).filter fun j => ∃ n ≤ k, Turns R n i j

theorem mem_within {length i k j : Nat} :
    j ∈ within R length i k ↔ j ≤ length ∧ ∃ n ≤ k, Turns R n i j := by
  simp only [within, Finset.mem_filter, Finset.mem_range, Nat.lt_succ_iff]

theorem within_mono (R : Nat → Nat → Prop) (length i : Nat) : Monotone (within R length i) := by
  intro k l hkl j hj
  obtain ⟨hle, n, hn, h⟩ := mem_within.mp hj
  exact mem_within.mpr ⟨hle, n, Nat.le_trans hn hkl, h⟩

/-- As soon as one more turn leads nowhere else, no further turn does. -/
theorem within_stable {length i k : Nat} (hi : i ≤ length)
    (hR : ∀ {i j}, i ≤ length → R i j → j ≤ length)
    (h : within R length i k = within R length i (k + 1)) :
    within R length i (k + 1) = within R length i (k + 2) := by
  apply Finset.Subset.antisymm (within_mono R length i (Nat.le_succ _))
  intro j hj
  obtain ⟨hle, n, hn, hturns⟩ := mem_within.mp hj
  rcases Nat.lt_or_ge n (k + 2) with hlt | hge
  · exact mem_within.mpr ⟨hle, n, Nat.le_of_lt_succ hlt, hturns⟩
  · -- the last turn starts at a place that `k + 1` turns lead to, and so `k` turns or fewer
    obtain rfl : n = k + 1 + 1 := by omega
    obtain ⟨l, hl, hstep⟩ := turns_succ.mp hturns
    have hmem : l ∈ within R length i (k + 1) :=
      mem_within.mpr ⟨turns_le hR hi hl, k + 1, Nat.le_refl _, hl⟩
    rw [← h] at hmem
    obtain ⟨-, m, hm, hless⟩ := mem_within.mp hmem
    exact mem_within.mpr ⟨hle, m + 1, Nat.succ_le_succ hm, turns_succ.mpr ⟨l, hless, hstep⟩⟩

/-- What any number of turns leads to, as many turns as there are places lead to. -/
theorem turns_short {length i j n : Nat} (hi : i ≤ length)
    (hR : ∀ {i j}, i ≤ length → R i j → j ≤ length) (h : Turns R n i j) :
    ∃ m ≤ length + 1, Turns R m i j := by
  have hmono : Monotone fun k => (within R length i k).card :=
    fun k l hkl => Finset.card_le_card (within_mono R length i hkl)
  have hbound : ∀ k, (within R length i k).card ≤ length + 1 := by
    intro k
    have hsub : within R length i k ⊆ Finset.range (length + 1) := by
      intro l hl
      exact Finset.mem_range.mpr (Nat.lt_succ_of_le (mem_within.mp hl).1)
    have hcard := Finset.card_le_card hsub
    rwa [Finset.card_range] at hcard
  have hstable : ∀ k, (within R length i k).card = (within R length i (k + 1)).card →
      (within R length i (k + 1)).card = (within R length i (k + 2)).card := by
    intro k hk
    have heq := Finset.eq_of_subset_of_card_le (within_mono R length i (Nat.le_succ k)) hk.ge
    rw [within_stable hi hR heq]
  have hj : j ∈ within R length i (max n (length + 1)) :=
    mem_within.mpr ⟨turns_le hR hi h, n, Nat.le_max_left _ _, h⟩
  have hcard := Nat.stabilises_of_monotone hmono hbound hstable (Nat.le_max_right n (length + 1))
  have heq := Finset.eq_of_subset_of_card_le
    (within_mono R length i (Nat.le_max_right n (length + 1))) hcard.le
  rw [← heq] at hj
  exact (mem_within.mp hj).2

/-! ### Sets of places -/

namespace Places

/-- A set has no place behind the text. -/
def Within (length : Nat) (s : Places) : Prop := ∀ i, s.testBit i = true → i ≤ length

/-- A function of sets follows a relation of places. -/
def Carries (length : Nat) (f : Places → Places) (R : Nat → Nat → Prop) : Prop :=
  ∀ s, Within length s → ∀ j, (f s).testBit j = true ↔ ∃ i, s.testBit i = true ∧ R i j

theorem testBit_all (n i : Nat) : (all n).testBit i = true ↔ i ≤ n := by
  rw [all, Nat.one_shiftLeft, Nat.testBit_two_pow_sub_one, decide_eq_true_eq, Nat.lt_succ_iff]

theorem testBit_ofBits (bits : List Bool) (k i : Nat) :
    (ofBits k bits).testBit i = true ↔ k ≤ i ∧ bits[i - k]? = some true := by
  induction bits generalizing k with
  | nil => simp [ofBits]
  | cons b bits ih =>
    have hbit : (if b then 1 <<< k else 0 : Nat).testBit i = true ↔ k = i ∧ b = true := by
      cases b with
      | false => simp
      | true => rw [if_pos rfl, Nat.one_shiftLeft, Nat.testBit_two_pow, decide_eq_true_eq]; simp
    rw [ofBits, Nat.testBit_or, Bool.or_eq_true, hbit, ih]
    rcases Nat.lt_trichotomy i k with hlt | rfl | hgt
    · have hne : k ≠ i := Nat.ne_of_gt hlt
      have hnot : ¬ k + 1 ≤ i := by omega
      have hnot' : ¬ k ≤ i := by omega
      simp [hne, hnot, hnot']
    · simp
    · obtain ⟨d, rfl⟩ : ∃ d, i = k + 1 + d := ⟨i - (k + 1), by omega⟩
      have hne : k ≠ k + 1 + d := by omega
      have hle : k ≤ k + 1 + d := by omega
      have hd : k + 1 + d - k = d + 1 := by omega
      have hd' : k + 1 + d - (k + 1) = d := by omega
      simp [hne, hle, hd, hd']

theorem testBit_bits (bits : List Bool) (i : Nat) :
    (ofBits 0 bits).testBit i = true ↔ bits[i]? = some true := by
  rw [testBit_ofBits]
  simp

theorem Carries.within {length : Nat} {f : Places → Places} {R : Nat → Nat → Prop}
    (hf : Carries length f R) (hR : ∀ {i j}, i ≤ length → R i j → j ≤ length) {s : Places}
    (hs : Within length s) : Within length (f s) := by
  intro j hj
  obtain ⟨i, hi, hij⟩ := (hf s hs j).mp hj
  exact hR (hs i hi) hij

/-- A function that is applied until it changes nothing might as well be applied further. -/
theorem iterate_eq (f : Places → Places) (n : Nat) (s : Places) : iterate f n s = f^[n] s := by
  induction n generalizing s with
  | zero => rfl
  | succ n ih =>
    rw [iterate, Function.iterate_succ_apply]
    split
    · rename_i hfix
      rw [hfix, Function.iterate_fixed hfix]
    · exact ih (f s)

theorem Carries.iterate {length : Nat} {f : Places → Places} {R : Nat → Nat → Prop}
    (hf : Carries length f R) (hR : ∀ {i j}, i ≤ length → R i j → j ≤ length) (n : Nat) :
    Carries length (Pattern.iterate f n) (Turns R n) := by
  intro s hs j
  rw [iterate_eq]
  induction n generalizing s with
  | zero =>
    constructor
    · intro h
      exact ⟨j, h, rfl⟩
    · intro h
      obtain ⟨i, hi, rfl⟩ := h
      exact hi
  | succ n ih =>
    rw [Function.iterate_succ_apply, ih (f s) (hf.within hR hs)]
    constructor
    · intro h
      obtain ⟨l, hl, hturns⟩ := h
      obtain ⟨i, hi, hil⟩ := (hf s hs l).mp hl
      exact ⟨i, hi, l, hil, hturns⟩
    · intro h
      obtain ⟨i, hi, l, hil, hturns⟩ := h
      exact ⟨l, (hf s hs l).mpr ⟨i, hi, hil⟩, hturns⟩

theorem Carries.widen {length : Nat} {f : Places → Places} {R : Nat → Nat → Prop}
    (hf : Carries length f R) : Carries length (widen f) fun i j => i = j ∨ R i j := by
  intro s hs j
  rw [Pattern.widen, Nat.testBit_or, Bool.or_eq_true, hf s hs j]
  constructor
  · intro h
    rcases h with h | ⟨i, hi, hij⟩
    · exact ⟨j, h, Or.inl rfl⟩
    · exact ⟨i, hi, Or.inr hij⟩
  · intro h
    obtain ⟨i, hi, rfl | hij⟩ := h
    · exact Or.inl hi
    · exact Or.inr ⟨i, hi, hij⟩

end Places

/-! ### Places that are reached -/

theorem getElem?_along (look : Look) (before : Option Char) (text : List Char) (i : Nat) :
    (look.along before text)[i]? = some true ↔
      i ≤ text.length ∧ look.holds (charBefore before text i) text[i]? = true := by
  induction text generalizing before i with
  | nil =>
    cases i with
    | zero => simp [Look.along, charBefore]
    | succ i => simp [Look.along]
  | cons c text ih =>
    cases i with
    | zero => simp [Look.along, charBefore]
    | succ i =>
      have hbefore : charBefore (some c) text i = charBefore before (c :: text) (i + 1) := by
        cases i <;> rfl
      rw [Look.along, List.getElem?_cons_succ, ih, hbefore, List.getElem?_cons_succ,
        List.length_cons, Nat.succ_le_succ_iff]

/-- The turns of a repetition: the least number of them, and then those that may be added. -/
theorem carries_repetition {length least more : Nat} {f : Places → Places}
    {R : Nat → Nat → Prop} (hf : Places.Carries length f R)
    (hR : ∀ {i j}, i ≤ length → R i j → j ≤ length) :
    Places.Carries length (fun s => iterate (widen f) more (iterate f least s))
      fun i j => ∃ k ≤ more, Turns R (least + k) i j := by
  intro s hs j
  have hstill : ∀ {i j}, i ≤ length → (i = j ∨ R i j) → j ≤ length := by
    intro i j hi hij
    rcases hij with rfl | hij
    · exact hi
    · exact hR hi hij
  have hleast := hf.iterate hR least
  have hturns : ∀ {i j}, i ≤ length → Turns R least i j → j ≤ length := fun hi h => turns_le hR hi h
  rw [hf.widen.iterate hstill more _ (hleast.within hturns hs)]
  constructor
  · intro h
    obtain ⟨l, hl, hmore⟩ := h
    obtain ⟨i, hi, hil⟩ := (hleast s hs l).mp hl
    obtain ⟨k, hk, hlj⟩ := turns_still_iff.mp hmore
    exact ⟨i, hi, k, hk, turns_add.mpr ⟨l, hil, hlj⟩⟩
  · intro h
    obtain ⟨i, hi, k, hk, hij⟩ := h
    obtain ⟨l, hil, hlj⟩ := turns_add.mp hij
    exact ⟨l, (hleast s hs l).mpr ⟨i, hi, hil⟩, turns_still_iff.mpr ⟨k, hk, hlj⟩⟩

/-- The places that are reached are those to which the expression leads. -/
theorem carries_reach (text : List Char) (e : PatternExpression) :
    Places.Carries text.length ((PatternExpression.overlay e text).reach text.length)
      (e.Leads text) := by
  induction e with
  | empty =>
    intro s hs j
    constructor
    · intro h
      exact ⟨j, h, rfl⟩
    · intro h
      obtain ⟨i, hi, rfl⟩ := h
      exact hi
  | step set =>
    intro s hs j
    have hset : ∀ i, (Places.ofBits 0 (text.map set.contains)).testBit i = true ↔
        ∃ c, text[i]? = some c ∧ set.contains c = true := by
      intro i
      rw [Places.testBit_bits, List.getElem?_map, Option.map_eq_some_iff]
    show ((s &&& Places.ofBits 0 (text.map set.contains)) <<< 1).testBit j = true ↔ _
    rw [Nat.testBit_shiftLeft, Bool.and_eq_true, decide_eq_true_eq, Nat.testBit_and,
      Bool.and_eq_true, hset]
    constructor
    · intro h
      obtain ⟨hj, hi, hc⟩ := h
      exact ⟨j - 1, hi, by omega, hc⟩
    · intro h
      obtain ⟨i, hi, rfl, hc⟩ := h
      exact ⟨Nat.le_add_left 1 i, hi, hc⟩
  | look condition =>
    intro s hs j
    show (s &&& Places.ofBits 0 (condition.along none text)).testBit j = true ↔ _
    rw [Nat.testBit_and, Bool.and_eq_true, Places.testBit_bits, getElem?_along]
    constructor
    · intro h
      exact ⟨j, h.1, rfl, h.2⟩
    · intro h
      obtain ⟨i, hi, rfl, hlook⟩ := h
      exact ⟨hi, hlook⟩
  | sequence a b iha ihb =>
    intro s hs k
    refine (ihb _ (iha.within leads_le hs) k).trans ?_
    constructor
    · intro h
      obtain ⟨j, hj, hjk⟩ := h
      obtain ⟨i, hi, hij⟩ := (iha s hs j).mp hj
      exact ⟨i, hi, j, hij, hjk⟩
    · intro h
      obtain ⟨i, hi, j, hij, hjk⟩ := h
      exact ⟨j, (iha s hs j).mpr ⟨i, hi, hij⟩, hjk⟩
  | alternation a b iha ihb =>
    intro s hs j
    show (_ ||| _ : Nat).testBit j = true ↔ _
    rw [Nat.testBit_or, Bool.or_eq_true]
    refine (or_congr (iha s hs j) (ihb s hs j)).trans ?_
    constructor
    · intro h
      rcases h with ⟨i, hi, hij⟩ | ⟨i, hi, hij⟩
      · exact ⟨i, hi, Or.inl hij⟩
      · exact ⟨i, hi, Or.inr hij⟩
    · intro h
      obtain ⟨i, hi, hij | hij⟩ := h
      · exact Or.inl ⟨i, hi, hij⟩
      · exact Or.inr ⟨i, hi, hij⟩
  | repetition e least most greedy ih =>
    intro s hs j
    cases most with
    | some m =>
      refine (carries_repetition ih leads_le s hs j).trans ?_
      constructor
      · intro h
        obtain ⟨i, hi, k, hk, hij⟩ := h
        refine ⟨i, hi, k, ?_, hij⟩
        intro m' hm
        cases hm
        exact hk
      · intro h
        obtain ⟨i, hi, k, hk, hij⟩ := h
        exact ⟨i, hi, k, hk m rfl, hij⟩
    | none =>
      refine (carries_repetition ih leads_le s hs j).trans ?_
      constructor
      · intro h
        obtain ⟨i, hi, k, -, hij⟩ := h
        exact ⟨i, hi, k, by simp, hij⟩
      · -- turns beyond the least number need be no more than there are places
        intro h
        obtain ⟨i, hi, k, -, hij⟩ := h
        obtain ⟨l, hil, hlj⟩ := turns_add.mp hij
        obtain ⟨k', hk', hlj'⟩ := turns_short (turns_le leads_le (hs i hi) hil) leads_le hlj
        exact ⟨i, hi, k', hk', turns_add.mpr ⟨l, hil, hlj'⟩⟩
  | group remembered e ih => exact ih

/-- An expression is found in a text where it leads from some place of it to another. -/
theorem isFoundIn_iff (e : PatternExpression) (text : List Char) :
    e.isFoundIn text = true ↔ ∃ i j, i ≤ text.length ∧ e.Leads text i j := by
  have hall : Places.Within text.length (Places.all text.length) :=
    fun i hi => (Places.testBit_all _ i).mp hi
  have hreach := carries_reach text e _ hall
  unfold PatternExpression.isFoundIn
  simp only [bne_iff_ne]
  constructor
  · intro h
    obtain ⟨j, hj⟩ := Nat.exists_testBit_of_ne_zero h
    obtain ⟨i, hi, hij⟩ := (hreach j).mp hj
    exact ⟨i, j, (Places.testBit_all _ i).mp hi, hij⟩
  · intro h hzero
    obtain ⟨i, j, hi, hij⟩ := h
    have hj := (hreach j).mpr ⟨i, (Places.testBit_all _ i).mpr hi, hij⟩
    rw [hzero, Nat.zero_testBit] at hj
    cases hj

/-! ### Expressions between the ends of a text -/

/-- An expression goes through the whole of a text. -/
def PatternExpression.MatchesWhole (e : PatternExpression) (text : List Char) : Prop :=
  e.Leads text 0 text.length

/-- An expression in a group between the start and the end of a text. -/
def PatternExpression.between (e : PatternExpression) : PatternExpression :=
  .sequence (.look .start) (.sequence (.group false e) (.look .end))

theorem leads_start {text : List Char} {i j : Nat} :
    PatternExpression.Leads text (.look .start) i j ↔ i = 0 ∧ j = 0 := by
  constructor
  · intro h
    obtain ⟨rfl, hle, hlook⟩ := h
    cases i with
    | zero => exact ⟨rfl, rfl⟩
    | succ i =>
      obtain ⟨c, hc⟩ : ∃ c, text[i]? = some c := ⟨_, List.getElem?_eq_getElem hle⟩
      simp [Look.holds, charBefore, hc] at hlook
  · intro h
    obtain ⟨rfl, rfl⟩ := h
    exact ⟨rfl, Nat.zero_le _, rfl⟩

theorem leads_end {text : List Char} {i j : Nat} :
    PatternExpression.Leads text (.look .end) i j ↔ i = text.length ∧ j = text.length := by
  constructor
  · intro h
    obtain ⟨rfl, hle, hlook⟩ := h
    have hend : text.length ≤ i := by simpa [Look.holds] using hlook
    exact ⟨by omega, by omega⟩
  · intro h
    obtain ⟨rfl, rfl⟩ := h
    exact ⟨rfl, Nat.le_refl _, by simp [Look.holds]⟩

/-- Between the ends of a text an expression is found when it goes through the whole of it. -/
theorem isFoundIn_between (e : PatternExpression) (text : List Char) :
    e.between.isFoundIn text = true ↔ e.MatchesWhole text := by
  rw [isFoundIn_iff]
  constructor
  · intro h
    obtain ⟨i, j, -, k, hstart, l, he, hend⟩ := h
    obtain ⟨rfl, rfl⟩ := leads_start.mp hstart
    obtain ⟨rfl, rfl⟩ := leads_end.mp hend
    exact he
  · intro h
    exact ⟨0, text.length, Nat.zero_le _, 0, leads_start.mpr ⟨rfl, rfl⟩, text.length, h,
      leads_end.mpr ⟨rfl, rfl⟩⟩

end MetricScraper.Pattern
