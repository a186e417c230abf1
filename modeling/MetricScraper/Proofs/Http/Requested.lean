import MetricScraper.Proofs.Http.Timeout

/-!
# What requests ask for

The value of the first timeout header counts, and only if it is the text of a number of seconds
that makes up at least half a nanosecond and fits in a duration; any other value counts for no more
than none.  A timeout is what the header or else the default says, less the margin if that leaves
something.
-/

namespace MetricScraper.Http

open Duration

/-! ### Header values -/

/-- Why a header value counts for nothing. -/
inductive Unusable (value : List UInt8) : Prop where
  | notText (b : UInt8) (hb : b ∈ value) (hlow : ¬ (32 ≤ b ∧ b < 127)) (htab : b ≠ 9)
  | notNumber (text : List Char) (ht : headerText? value = some text)
      (hx : Decimal.readFloat? (String.ofList (Text.trim text)) = none)
  | negative (x : Float) (hx : seconds? value = some x) (h : x < 0.0)
  | notANumber (x : Float) (hx : seconds? value = some x) (h : x.isNaN = true)
  | infinite (x : Float) (hx : seconds? value = some x) (h : x.isInf = true)
  | tooLarge (x : Float) (hx : seconds? value = some x)
      (h : secondsLimit * nanosPerSecond ≤ nanosOf x)
  | tooSmall (x : Float) (hx : seconds? value = some x) (h : nanosOf x ≤ 1 / 2)

/-- A header value asks for the duration nearest to the number of seconds that it writes. -/
structure Asks (value : List UInt8) (d : Duration) : Prop where
  usable : ¬ Unusable value
  nearest : ∃ x, seconds? value = some x ∧ IsNearest d (nanosOf x)

variable {value : List UInt8} {d : Duration} {headers : List Header} {margin : Duration}
  {default : Option Duration}

theorem headerText?_eq_none_iff :
    headerText? value = none ↔ ∃ b ∈ value, ¬ (32 ≤ b ∧ b < 127) ∧ b ≠ 9 := by
  have hbyte : ∀ b : UInt8, ¬ ((32 ≤ b && b < 127) || b = 9) = true ↔
      ¬ (32 ≤ b ∧ b < 127) ∧ b ≠ 9 := by
    intro b
    simp only [Bool.or_eq_true, Bool.and_eq_true, decide_eq_true_eq, not_or, ne_eq]
  unfold headerText?
  constructor
  · intro h
    split at h
    · cases h
    · rename_i hall
      rw [Bool.not_eq_true, List.all_eq_false] at hall
      obtain ⟨b, hb, hbad⟩ := hall
      exact ⟨b, hb, (hbyte b).mp hbad⟩
  · rintro ⟨b, hb, hbad⟩
    apply if_neg
    intro hall
    exact (hbyte b).mpr hbad (List.all_eq_true.mp hall b hb)

theorem seconds?_eq_none_iff :
    seconds? value = none ↔ headerText? value = none ∨
      ∃ text, headerText? value = some text ∧
        Decimal.readFloat? (String.ofList (Text.trim text)) = none := by
  unfold seconds?
  cases headerText? value with
  | none => simp
  | some text => simp

theorem requested?_eq_some_iff :
    requested? value = some d ↔
      ∃ x, seconds? value = some x ∧ ofSeconds? x = some d ∧ d ≠ 0 := by
  rw [requested?_eq, filter_usable, Option.filter_eq_some_iff, Option.bind_eq_some_iff]
  simp only [decide_eq_true_eq]
  constructor
  · rintro ⟨⟨x, hx, hd⟩, hne⟩
    exact ⟨x, hx, hd, hne⟩
  · rintro ⟨x, hx, hd, hne⟩
    exact ⟨⟨x, hx, hd⟩, hne⟩

theorem exists_seconds_of_usable (h : ¬ Unusable value) :
    ∃ x d, seconds? value = some x ∧ ofSeconds? x = some d ∧ d ≠ 0 := by
  cases hx : seconds? value with
  | none =>
    exfalso
    apply h
    rcases seconds?_eq_none_iff.mp hx with hnone | ⟨text, ht, hread⟩
    · obtain ⟨b, hb, hlow, htab⟩ := headerText?_eq_none_iff.mp hnone
      exact .notText b hb hlow htab
    · exact .notNumber text ht hread
  | some x =>
    have hsome : (ofSeconds? x).isSome := by
      rw [isSome_ofSeconds?_iff]
      refine ⟨Bool.eq_false_iff.mpr fun hnan => h (.notANumber x hx hnan),
        fun hneg => h (.negative x hx hneg),
        Bool.eq_false_iff.mpr fun hinf => h (.infinite x hx hinf), ?_⟩
      exact not_le.mp fun hlarge => h (.tooLarge x hx hlarge)
    obtain ⟨d, hd⟩ := Option.isSome_iff_exists.mp hsome
    refine ⟨x, d, rfl, hd, ?_⟩
    rintro rfl
    have hzero := (isNearest_zero_iff (nanosOf_nonneg x)).mp (isNearest_of_ofSeconds? hd)
    exact h (.tooSmall x hx hzero)

theorem Unusable.requested?_eq_none (h : Unusable value) : requested? value = none := by
  rw [Option.eq_none_iff_forall_ne_some]
  intro d hd
  obtain ⟨x, hx, hd, hne⟩ := requested?_eq_some_iff.mp hd
  obtain ⟨⟨hnan, hneg, hinf, hlimit⟩, hnearest⟩ := ofSeconds?_eq_some_iff.mp hd
  cases h with
  | notText b hb hlow htab =>
    rw [seconds?_eq_none_iff.mpr (Or.inl (headerText?_eq_none_iff.mpr ⟨b, hb, hlow, htab⟩))] at hx
    cases hx
  | notNumber text ht hread =>
    rw [seconds?_eq_none_iff.mpr (Or.inr ⟨text, ht, hread⟩)] at hx
    cases hx
  | negative y hy h =>
    cases hx.symm.trans hy
    exact hneg h
  | notANumber y hy h =>
    cases hx.symm.trans hy
    exact Bool.false_ne_true (hnan.symm.trans h)
  | infinite y hy h =>
    cases hx.symm.trans hy
    exact Bool.false_ne_true (hinf.symm.trans h)
  | tooLarge y hy h =>
    cases hx.symm.trans hy
    exact absurd hlimit (not_lt.mpr h)
  | tooSmall y hy h =>
    cases hx.symm.trans hy
    exact hne (hnearest.unique ((isNearest_zero_iff (nanosOf_nonneg x)).mpr h))

theorem asks_iff : Asks value d ↔ requested? value = some d := by
  constructor
  · rintro ⟨husable, x, hx, hnearest⟩
    obtain ⟨y, e, hy, he, hne⟩ := exists_seconds_of_usable husable
    cases hx.symm.trans hy
    obtain rfl := hnearest.unique (isNearest_of_ofSeconds? he)
    exact requested?_eq_some_iff.mpr ⟨x, hx, he, hne⟩
  · intro h
    obtain ⟨x, hx, hd, -⟩ := requested?_eq_some_iff.mp h
    refine ⟨fun hunusable => ?_, x, hx, isNearest_of_ofSeconds? hd⟩
    rw [hunusable.requested?_eq_none] at h
    cases h

theorem exists_asks (h : ¬ Unusable value) : ∃ d, Asks value d := by
  obtain ⟨x, d, hx, hd, hne⟩ := exists_seconds_of_usable h
  exact ⟨d, asks_iff.mpr (requested?_eq_some_iff.mpr ⟨x, hx, hd, hne⟩)⟩

/-! ### Headers -/

/-- The first of the timeout headers has a value. -/
inductive Leads : List Header → List UInt8 → Prop where
  | here {h : Header} {rest : List Header} (hn : sameName h.name timeoutHeader = true) :
      Leads (h :: rest) h.value
  | next {h : Header} {rest : List Header} {value : List UInt8}
      (hn : sameName h.name timeoutHeader = false) (hr : Leads rest value) :
      Leads (h :: rest) value

/-- The same request without its timeout headers. -/
def silenced (headers : List Header) : List Header :=
  headers.filter fun h => !sameName h.name timeoutHeader

theorem headerValue?_cons (h : Header) (rest : List Header) :
    headerValue? (h :: rest) timeoutHeader =
      if sameName h.name timeoutHeader then some h.value
      else headerValue? rest timeoutHeader := by
  unfold headerValue?
  rw [List.find?_cons]
  cases sameName h.name timeoutHeader with
  | true => rfl
  | false => rfl

theorem leads_iff : Leads headers value ↔ headerValue? headers timeoutHeader = some value := by
  induction headers with
  | nil =>
    constructor
    · intro h
      cases h
    · intro h
      cases h
  | cons h rest ih =>
    rw [headerValue?_cons]
    cases hn : sameName h.name timeoutHeader with
    | true =>
      rw [if_pos rfl, Option.some.injEq]
      constructor
      · intro hl
        cases hl with
        | here hn' => rfl
        | next hn' hr =>
          rw [hn] at hn'
          cases hn'
      · rintro rfl
        exact .here hn
    | false =>
      rw [if_neg Bool.false_ne_true, ← ih]
      constructor
      · intro hl
        cases hl with
        | here hn' =>
          rw [hn] at hn'
          cases hn'
        | next hn' hr => exact hr
      · intro hr
        exact .next hn hr

theorem headerValue?_silenced (headers : List Header) :
    headerValue? (silenced headers) timeoutHeader = none := by
  induction headers with
  | nil => rfl
  | cons h rest ih =>
    unfold silenced at ih ⊢
    cases hn : sameName h.name timeoutHeader with
    | true => rwa [List.filter_cons_of_neg (by simp [hn])]
    | false =>
      rw [List.filter_cons_of_pos (by simp [hn]), headerValue?_cons, hn,
        if_neg Bool.false_ne_true]
      exact ih

/-! ### Timeouts -/

/-- The duration that a timeout is made of, if it is made of any. -/
inductive Uses (headers : List Header) (default : Option Duration) : Option Duration → Prop where
  | asked {value : List UInt8} {d : Duration} (hl : Leads headers value) (hd : Asks value d) :
      Uses headers default (some d)
  | refused {value : List UInt8} (hl : Leads headers value) (hu : Unusable value) :
      Uses headers default default
  | silent (hl : ∀ value, ¬ Leads headers value) : Uses headers default default

def used? (headers : List Header) (default : Option Duration) : Option Duration :=
  ((headerValue? headers timeoutHeader).bind requested?).or default

theorem scrapeTimeout_eq_map :
    scrapeTimeout headers margin default =
      (used? headers default).map fun d => lessMargin d margin := rfl

theorem used?_of_leads (hl : Leads headers value) :
    used? headers default = (requested? value).or default := by
  unfold used?
  rw [leads_iff.mp hl, Option.bind_some]

theorem used?_of_silent (hl : ∀ value, ¬ Leads headers value) :
    used? headers default = default := by
  have hnone : headerValue? headers timeoutHeader = none := by
    rw [Option.eq_none_iff_forall_ne_some]
    intro value hv
    exact hl value (leads_iff.mpr hv)
  unfold used?
  rw [hnone]
  rfl

theorem not_leads_silenced (headers : List Header) (value : List UInt8) :
    ¬ Leads (silenced headers) value := by
  rw [leads_iff, headerValue?_silenced]
  exact nofun

theorem uses_iff {o : Option Duration} : Uses headers default o ↔ o = used? headers default := by
  constructor
  · intro h
    cases h with
    | asked hl hd =>
      rw [used?_of_leads hl, asks_iff.mp hd]
      rfl
    | refused hl hu =>
      rw [used?_of_leads hl, hu.requested?_eq_none]
      rfl
    | silent hl => exact (used?_of_silent hl).symm
  · rintro rfl
    by_cases hl : ∃ value, Leads headers value
    · obtain ⟨value, hl⟩ := hl
      rw [used?_of_leads hl]
      by_cases hu : Unusable value
      · rw [hu.requested?_eq_none]
        exact .refused hl hu
      · obtain ⟨d, hd⟩ := exists_asks hu
        rw [asks_iff.mp hd]
        exact .asked hl hd
    · have hsilent : ∀ value, ¬ Leads headers value := fun value hv => hl ⟨value, hv⟩
      rw [used?_of_silent hsilent]
      exact .silent hsilent

theorem pos_of_used (hdefault : ∀ d ∈ default, 0 < d) (hd : used? headers default = some d) :
    0 < d := by
  rcases Option.or_eq_some_iff.mp hd with hr | ⟨-, hr⟩
  · obtain ⟨value, -, hvalue⟩ := Option.bind_eq_some_iff.mp hr
    obtain ⟨x, -, -, hne⟩ := requested?_eq_some_iff.mp hvalue
    exact Nat.pos_of_ne_zero hne
  · exact hdefault d hr

/-- Headers that begin with the same value give the same timeout.  A value that cannot be used
gives that of the request without it, and any other value the one that has its duration for a
default.  There is no timeout if no duration is left to make it of; else it is that duration less
the margin, if something is left of it then, and all of it if not. -/
theorem timeout_of_headers (headers : List Header) (margin : Duration) (default : Option Duration)
    (hdefault : ∀ d ∈ default, 0 < d) :
    (∀ others, (∀ value, Leads others value ↔ Leads headers value) →
      scrapeTimeout others margin default = scrapeTimeout headers margin default) ∧
    (∀ value, Leads headers value → Unusable value →
      scrapeTimeout headers margin default = scrapeTimeout (silenced headers) margin default) ∧
    (∀ value, Leads headers value → ¬ Unusable value → ∃ d, Asks value d ∧
      scrapeTimeout headers margin default = scrapeTimeout (silenced headers) margin (some d)) ∧
    ∃ used, (∀ o, Uses headers default o ↔ o = used) ∧
      (scrapeTimeout headers margin default = none ↔ used = none) ∧
      ∀ d, used = some d → ∃ t, scrapeTimeout headers margin default = some t ∧
        (margin < d → t = d - margin) ∧ (d ≤ margin → t = d) ∧ 0 < t ∧ t ≤ d := by
  refine ⟨fun others hsame => ?_, fun value hl hu => ?_, fun value hl hu => ?_,
    used? headers default, fun o => uses_iff, ?_, fun d hd => ?_⟩
  · have hvalue : headerValue? others timeoutHeader = headerValue? headers timeoutHeader := by
      apply Option.ext
      intro value
      rw [← leads_iff, ← leads_iff]
      exact hsame value
    unfold scrapeTimeout
    rw [hvalue]
  · rw [scrapeTimeout_eq_map, scrapeTimeout_eq_map, used?_of_leads hl, hu.requested?_eq_none,
      used?_of_silent (not_leads_silenced headers)]
    rfl
  · obtain ⟨d, hd⟩ := exists_asks hu
    refine ⟨d, hd, ?_⟩
    rw [scrapeTimeout_eq_map, scrapeTimeout_eq_map, used?_of_leads hl, asks_iff.mp hd,
      used?_of_silent (not_leads_silenced headers)]
    rfl
  · rw [scrapeTimeout_eq_map, Option.map_eq_none_iff]
  · refine ⟨lessMargin d margin, by rw [scrapeTimeout_eq_map, hd, Option.map_some],
      fun hlt => if_pos hlt, fun hle => if_neg (Nat.not_lt.mpr hle), ?_,
      (lessMargin_bounds d margin).1⟩
    exact lessMargin_pos (Nat.ne_of_gt (pos_of_used hdefault hd)) margin

/-- Of two timeout headers the first one counts. -/
theorem timeout_of_headers_twice :
    scrapeTimeout (waits " 2.5\t" ++ waits "60") 500000000 (some 10000000000) = some 2000000000 ∧
      scrapeTimeout (⟨timeoutHeader, [0xFF]⟩ :: waits "60") 500000000 (some 10000000000) =
        scrapeTimeout [] 500000000 (some 10000000000) := by
  have hdefault : ∀ d ∈ some 10000000000, 0 < d := by simp
  obtain ⟨-, -, hasked, used, huses, -, hsome⟩ :=
    timeout_of_headers (waits " 2.5\t" ++ waits "60") 500000000 (some 10000000000) hdefault
  obtain ⟨-, hrefused, -⟩ :=
    timeout_of_headers (⟨timeoutHeader, [0xFF]⟩ :: waits "60") 500000000 (some 10000000000)
      hdefault
  have hasks : Asks " 2.5\t".toUTF8.toList 2500000000 := asks_iff.mpr (by decide +kernel)
  have hused : some 2500000000 = used := (huses _).mp (.asked (.here (by decide)) hasks)
  obtain ⟨t, ht, hless, -⟩ := hsome _ hused.symm
  refine ⟨?_, ?_⟩
  · rw [ht, hless (by decide)]
  · have hfirst : Unusable [0xFF] := .notText 0xFF List.mem_cons_self (by decide) (by decide)
    exact hrefused [0xFF] (.here (by decide)) hfirst

end MetricScraper.Http
