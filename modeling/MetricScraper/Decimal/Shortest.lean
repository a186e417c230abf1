/-!
# Shortest decimals

A finite float stands for the interval of reals that round to it.  Its shortest decimal is the one
with the fewest digits in that interval, and among those the nearest to the float.
-/

namespace MetricScraper.Decimal

/-- The power of two of an exponent, one if that is negative. -/
def twoTo (e : Int) : Nat := Nat.pow 2 e.toNat

/-- The power of ten of an exponent, one if that is negative. -/
def tenTo (e : Int) : Nat := Nat.pow 10 e.toNat

/-- A positive decimal number, `digits * 10 ^ exponent`. -/
structure Numeral where
  digits : Nat
  exponent : Int
  deriving DecidableEq, Repr, Inhabited

/-- A positive binary number, `mantissa * 2 ^ exponent`; `narrow` when the float below it is only
half as far away as the one above. -/
structure Binary where
  mantissa : Nat
  exponent : Int
  narrow : Bool
  deriving DecidableEq, Repr

/-- The mantissa of the least normal float, `2 ^ 52`. -/
def leastNormal : Nat := 0x10000000000000

/-- Whether the sign of a float is a minus. -/
def isNegative (x : Float) : Bool := 0x8000000000000000 ≤ x.toBits.toNat

/-- The magnitude of a finite float. -/
def Binary.ofFloat (x : Float) : Binary :=
  let bits := x.toBits.toNat
  let fraction : Nat := bits % leastNormal
  let biased : Nat := bits / leastNormal % 0x800
  if biased = 0 then ⟨fraction, -1074, false⟩
  else ⟨leastNormal + fraction, (biased : Int) - 1075, fraction == 0 && biased != 1⟩

/-! ### The interval of a float, on a grid of decimals -/

/-- A real interval around a value, in units of `1 / scale`. -/
structure Interval where
  value : Nat
  lo : Nat
  hi : Nat
  scale : Nat
  closed : Bool

/-- The interval of reals that round to the number; its ends belong to it when the mantissa is
even. -/
def Binary.interval (b : Binary) : Interval :=
  let up := twoTo (b.exponent - 2)
  let down := twoTo (2 - b.exponent)
  let value := 4 * b.mantissa * up
  ⟨value, value - (if b.narrow then 1 else 2) * up, value + 2 * up, down, b.mantissa % 2 == 0⟩

/-- The interval in units of `10 ^ e / scale`. -/
def Interval.rescale (i : Interval) (e : Int) : Interval :=
  let up := tenTo (-e)
  ⟨i.value * up, i.lo * up, i.hi * up, i.scale * tenTo e, i.closed⟩

/-- Whether `d` units of one lie in the interval. -/
def Interval.holds (i : Interval) (d : Nat) : Bool :=
  let x := d * i.scale
  if i.closed then i.lo ≤ x && x ≤ i.hi else i.lo < x && x < i.hi

/-- The whole number in the interval that is nearest to its value, an even one of two. -/
def Interval.nearest? (i : Interval) : Option Nat :=
  let below := i.value / i.scale
  let rest := i.value % i.scale
  match i.holds below, i.holds (below + 1) with
  | true, false => some below
  | false, true => some (below + 1)
  | false, false => none
  | true, true =>
    if 2 * rest < i.scale then some below
    else if i.scale < 2 * rest then some (below + 1)
    else if below % 2 = 0 then some below else some (below + 1)

/-- The least `e` in `from, from + 1, …` with `value < 10 ^ e`, looked for `fuel` times. -/
def Interval.magnitudeFrom (i : Interval) : Nat → Int → Int
  | 0, e => e
  | fuel + 1, e =>
    if i.value * tenTo (-e) < i.scale * tenTo e then e else i.magnitudeFrom fuel (e + 1)

/-- The place of the decimal point: the value is at least `10 ^ (e - 1)` and below `10 ^ e`. -/
def Interval.magnitude (i : Interval) : Int :=
  let guess : Int := ((Nat.log2 i.value : Int) - (Nat.log2 i.scale : Int)) * 30103 / 100000 - 1
  i.magnitudeFrom 4 guess

/-! ### The shortest decimal -/

/-- Tries the grids of the multiples of `10 ^ e`, `10 ^ (e - 1)`, … for a point of the interval. -/
def Interval.shortestFrom (i : Interval) : Nat → Int → Numeral
  | 0, e => ⟨i.value * tenTo (-e) / (i.scale * tenTo e), e⟩
  | fuel + 1, e =>
    match (i.rescale e).nearest? with
    | some d => ⟨d, e⟩
    | none => i.shortestFrom fuel (e - 1)

/-- Moves trailing zeros of the digits into the exponent. -/
def stripZeros : Nat → Numeral → Numeral
  | 0, d => d
  | fuel + 1, d =>
    if d.digits % 10 = 0 ∧ d.digits ≠ 0 then stripZeros fuel ⟨d.digits / 10, d.exponent + 1⟩ else d

/-- The shortest decimal that reads back as the magnitude of a finite float other than zero. -/
def shortest (x : Float) : Numeral :=
  let i := (Binary.ofFloat x).interval
  stripZeros 17 (i.shortestFrom 17 (i.magnitude - 1))

end MetricScraper.Decimal
