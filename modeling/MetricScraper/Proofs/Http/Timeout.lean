import MetricScraper.Engine.Instant
import MetricScraper.Http.Timeout
import MetricScraper.Proofs.Duration
import MetricScraper.Settings.Basic

/-!
# Timeouts and the clock

A timeout is made of a number of seconds: that of the request, if it has a duration that is not
zero, or else that of the settings.  Durations reach `2 ^ 64` seconds and the clock ends at
`2 ^ 63`, so there are numbers of seconds that count and lead to no deadline.
-/

namespace MetricScraper

open Duration

/-! ### Moments -/

namespace Engine.Instant

theorem div_lt_clockLimit_iff (n : Int) :
    n / nanosPerSecond < clockLimit ↔ n < clockLimit * nanosPerSecond :=
  Int.ediv_lt_iff_lt_mul (by decide)

theorem after?_eq_some {i j : Instant} {d : Duration} (h : i.after? d = some j) :
    j.nanos = i.nanos + d := by
  unfold after? at h
  split at h
  · cases h
    rfl
  · cases h

theorem isSome_after?_iff (i : Instant) (d : Duration) :
    (i.after? d).isSome ↔ i.nanos + d < clockLimit * nanosPerSecond := by
  rw [← div_lt_clockLimit_iff]
  unfold after?
  split
  · rename_i h
    simp [h]
  · rename_i h
    simp [h]

/-- The clock has both moments of a scrape when it has the later one. -/
theorem isSome_limits?_iff (now : Instant) (t : Duration) :
    (now.limits? t).isSome ↔ now.nanos + t + grace < clockLimit * nanosPerSecond := by
  unfold limits?
  cases hd : now.after? t with
  | none =>
    have hnot : ¬ (now.after? t).isSome := by simp [hd]
    rw [isSome_after?_iff] at hnot
    have hgrace : (0 : Int) ≤ grace := Int.natCast_nonneg _
    simp only [Option.bind_eq_bind, Option.bind_none, Option.isSome_none, Bool.false_eq_true,
      false_iff]
    omega
  | some deadline =>
    have hboth := isSome_after?_iff deadline grace
    rw [after?_eq_some hd] at hboth
    rw [← hboth]
    cases hcutoff : deadline.after? grace <;> simp [hcutoff]

end Engine.Instant

namespace Http
open Engine

/-! ### What timeouts are made of -/

/-- The number of seconds that a header value writes. -/
def seconds? (value : List UInt8) : Option Float :=
  (headerText? value).bind fun text => Decimal.readFloat? (String.ofList (Text.trim text))

/-- Whether a number of seconds has a duration that is not zero. -/
def isUsable (x : Float) : Bool := (ofSeconds? x).any fun d => d ≠ 0

/-- The number of seconds that a timeout is made of: that of the request or that of the settings,
if it can be used. -/
def asked? (headers : List Header) (web : WebSettings) : Option Float :=
  (((headerValue? headers timeoutHeader).bind seconds?).filter isUsable).or
    ((some web.timeout).filter isUsable)

theorem isUsable_iff {x : Float} : isUsable x = true ↔ ∃ d, ofSeconds? x = some d ∧ d ≠ 0 := by
  simp [isUsable, Option.any_eq_true]

theorem filter_usable (o : Option Float) :
    (o.filter isUsable).bind ofSeconds? = (o.bind ofSeconds?).filter fun d => d ≠ 0 := by
  cases o with
  | none => rfl
  | some x =>
    cases hd : ofSeconds? x with
    | none => simp [isUsable, Option.filter, hd]
    | some d => by_cases h0 : d = 0 <;> simp [isUsable, Option.filter, hd, h0]

theorem requested?_eq (value : List UInt8) :
    requested? value = ((seconds? value).filter isUsable).bind ofSeconds? := by
  rw [filter_usable]
  unfold requested? seconds?
  cases headerText? value with
  | none => rfl
  | some text =>
    cases hx : Decimal.readFloat? (String.ofList (Text.trim text)) with
    | none => simp [hx]
    | some x =>
      cases hd : ofSeconds? x with
      | none => simp [hx, hd]
      | some d => by_cases h0 : d = 0 <;> simp [hx, hd, h0, Option.filter]

/-- A timeout is the duration of what has been asked for, less the margin. -/
theorem scrapeTimeout_eq (headers : List Header) (web : WebSettings) :
    scrapeTimeout headers web.margin web.defaultTimeout? =
      ((asked? headers web).bind ofSeconds?).map fun d => lessMargin d web.margin := by
  have hrequest : (headerValue? headers timeoutHeader).bind requested? =
      (((headerValue? headers timeoutHeader).bind seconds?).filter isUsable).bind ofSeconds? := by
    cases headerValue? headers timeoutHeader with
    | none => rfl
    | some value => exact requested?_eq value
  have hsetting : web.defaultTimeout? = ((some web.timeout).filter isUsable).bind ofSeconds? := by
    rw [filter_usable]
    rfl
  unfold scrapeTimeout asked?
  rw [hrequest, hsetting]
  cases hask : ((headerValue? headers timeoutHeader).bind seconds?).filter isUsable with
  | none => rfl
  | some x =>
    obtain ⟨d, hd, -⟩ := isUsable_iff.mp (Option.filter_eq_some_iff.mp hask).2
    simp [hd]

theorem of_asked? {headers : List Header} {web : WebSettings} {x : Float}
    (h : asked? headers web = some x) : ∃ d, ofSeconds? x = some d ∧ d ≠ 0 := by
  apply isUsable_iff.mp
  rcases Option.or_eq_some_iff.mp h with hask | ⟨-, hask⟩
  · exact (Option.filter_eq_some_iff.mp hask).2
  · exact (Option.filter_eq_some_iff.mp hask).2

/-- What is left of a duration: less the margin, or all of it. -/
theorem lessMargin_cases (d margin : Nat) :
    (margin < d ∧ lessMargin d margin + margin = d) ∨ lessMargin d margin = d := by
  by_cases h : margin < d
  · exact Or.inl ⟨h, by rw [lessMargin, if_pos h]; exact Nat.sub_add_cancel (Nat.le_of_lt h)⟩
  · exact Or.inr (if_neg h)

theorem lessMargin_pos {d : Duration} (h : d ≠ 0) (margin : Duration) :
    0 < lessMargin d margin := by
  rcases lessMargin_cases d margin with ⟨hlt, hsum⟩ | heq
  · rw [← hsum] at hlt
    exact Nat.pos_of_lt_add_left hlt
  · rw [heq]
    exact Nat.pos_of_ne_zero h

theorem lessMargin_bounds (d margin : Duration) :
    lessMargin d margin ≤ d ∧ d ≤ lessMargin d margin + margin := by
  rcases lessMargin_cases d margin with ⟨-, hsum⟩ | heq
  · exact ⟨Nat.le.intro hsum, Nat.le_of_eq hsum.symm⟩
  · rw [heq]
    exact ⟨Nat.le_refl d, Nat.le_add_right d margin⟩

/-! ### Which of them lead to a deadline -/

/-- A scrape has a timeout when seconds have been asked for that can be used, and these can be
anything below `2 ^ 64`.  Whether the clock has its deadline, and the moment up to which it waits
for its runs, is a matter of the clock alone: it has both when the seconds end before it does, and
it does not when they end later by more than the margin. -/
theorem limits_of_asked (now : Instant) (headers : List Header) (web : WebSettings) :
    (asked? headers web = none ∧ scrapeTimeout headers web.margin web.defaultTimeout? = none) ∨
    ∃ x t, asked? headers web = some x ∧
      scrapeTimeout headers web.margin web.defaultTimeout? = some t ∧ 0 < t ∧
      nanosOf x < secondsLimit * nanosPerSecond ∧
      ((now.limits? t).isSome ↔ now.nanos + t + grace < clockLimit * nanosPerSecond) ∧
      (now.nanos + nanosOf x + grace + 1 / 2 < clockLimit * nanosPerSecond →
        (now.limits? t).isSome) ∧
      (clockLimit * nanosPerSecond + web.margin + 1 / 2 ≤ now.nanos + nanosOf x + grace →
        now.limits? t = none) := by
  rw [scrapeTimeout_eq]
  cases hask : asked? headers web with
  | none => exact Or.inl ⟨rfl, rfl⟩
  | some x =>
    obtain ⟨d, hd, h0⟩ := of_asked? hask
    obtain ⟨hlimit, hnear⟩ := ofSeconds?_near hd
    obtain ⟨hlow, hhigh⟩ := abs_le.mp hnear
    obtain ⟨hle, hge⟩ := lessMargin_bounds d web.margin
    have hle' : (lessMargin d web.margin : ℚ) ≤ d := by exact_mod_cast hle
    have hge' : (d : ℚ) ≤ lessMargin d web.margin + web.margin := by exact_mod_cast hge
    have hiff := now.isSome_limits?_iff (lessMargin d web.margin)
    refine Or.inr ⟨x, lessMargin d web.margin, rfl, by simp [hd], lessMargin_pos h0 _, hlimit,
      hiff, ?_, ?_⟩
    · intro hends
      rw [hiff]
      have hcast : ((now.nanos + lessMargin d web.margin + grace : Int) : ℚ) <
          (clockLimit * nanosPerSecond : Int) := by
        push_cast
        linarith
      exact_mod_cast hcast
    · intro hends
      rw [← Option.not_isSome_iff_eq_none, hiff, not_lt]
      have hcast : ((clockLimit * nanosPerSecond : Int) : ℚ) ≤
          (now.nanos + lessMargin d web.margin + grace : Int) := by
        push_cast
        linarith
      exact_mod_cast hcast

/-! ### A timeout beyond the clock -/

/-- A request that waits for a number of seconds. -/
def waits (seconds : String) : List Header := [⟨timeoutHeader, seconds.toUTF8.toList⟩]

def oneSecond : Instant := ⟨nanosPerSecond, by decide, by decide⟩

/-- Five seconds less the margin have a deadline. -/
theorem limits_of_asked_five :
    ∃ t, scrapeTimeout (waits "5") Settings.standard.web.margin
        Settings.standard.web.defaultTimeout? = some t ∧ (oneSecond.limits? t).isSome := by
  rcases limits_of_asked oneSecond (waits "5") Settings.standard.web with ⟨hnone, -⟩ | hsome
  · revert hnone
    decide +kernel
  · obtain ⟨x, t, hx, ht, -, -, -, hends, -⟩ := hsome
    refine ⟨t, ht, hends ?_⟩
    have hfive : x = 5.0 := by
      have hask : asked? (waits "5") Settings.standard.web = some 5.0 := by decide +kernel
      exact Option.some.inj (hx.symm.trans hask)
    rw [hfive]
    decide +kernel

/-- A request for 10 ^ 19 seconds has a timeout, and its scrape no deadline. -/
theorem long_timeout_beyond_clock :
    scrapeTimeout (waits "1e19") Settings.standard.web.margin
        Settings.standard.web.defaultTimeout? = some 9999999999999999999500000000 ∧
      oneSecond.after? 9999999999999999999500000000 = none :=
  ⟨by decide +kernel, by decide⟩

end Http

end MetricScraper
