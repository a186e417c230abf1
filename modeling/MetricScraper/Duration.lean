import MetricScraper.Decimal.Layout

/-!
# Durations

A duration is a number of whole nanoseconds.  Its seconds fit in 64 bits: a number of seconds that
is negative, not a number, or too large gives no duration.
-/

namespace MetricScraper

/-- A span of time in nanoseconds. -/
abbrev Duration := Nat

namespace Duration

def nanosPerSecond : Nat := 1000000000

/-- The first number of seconds that is too large, `2 ^ 64`. -/
def secondsLimit : Nat := 0x10000000000000000

/-- The quotient rounded to the nearest whole number, a half to the even one. -/
def roundQuotient (n d : Nat) : Nat :=
  let q := n / d
  let r := n % d
  if 2 * r < d then q else if d < 2 * r then q + 1 else if q % 2 = 0 then q else q + 1

/-- The duration of a number of seconds, to the nearest nanosecond. -/
def ofSeconds? (x : Float) : Option Duration :=
  if x.isNaN || x < 0.0 || x.isInf then none
  else
    let b := Decimal.Binary.ofFloat x
    let up := b.mantissa * Decimal.twoTo b.exponent
    let down := Decimal.twoTo (-b.exponent)
    if up / down ≥ secondsLimit then none else some (roundQuotient (up * nanosPerSecond) down)

/-- The duration as a float number of seconds: the whole ones and the nanoseconds, each a float. -/
def toSeconds (d : Duration) : Float :=
  (UInt64.ofNat (d / nanosPerSecond)).toFloat +
    (UInt64.ofNat (d % nanosPerSecond)).toFloat / 1000000000.0

/-! ### The text of a duration -/

/-- A number of units with the fraction `rest / 10 ^ places`, without zeros at its end. -/
def fixedText (whole rest places : Nat) : List Char :=
  let ds := Decimal.digitChars rest
  let padded := Decimal.zeros (places - ds.length) ++ ds
  let fraction := (padded.reverse.dropWhile (· == '0')).reverse
  Decimal.digitChars whole ++ (if fraction.isEmpty then [] else '.' :: fraction)

/-- The duration in the largest of seconds, milli-, micro- and nanoseconds that it reaches. -/
def text (d : Duration) : String :=
  if d ≥ 1000000000 then String.ofList (fixedText (d / 1000000000) (d % 1000000000) 9) ++ "s"
  else if d ≥ 1000000 then String.ofList (fixedText (d / 1000000) (d % 1000000) 6) ++ "ms"
  else if d ≥ 1000 then String.ofList (fixedText (d / 1000) (d % 1000) 3) ++ "µs"
  else String.ofList (Decimal.digitChars d) ++ "ns"

/-- The number of seconds in plain positional decimals. -/
def secondsText (d : Duration) : String :=
  String.ofList (Decimal.plainLayout.writeFloat d.toSeconds)

end Duration

end MetricScraper
