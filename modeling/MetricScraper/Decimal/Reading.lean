/-!
# Reading decimals

The text of a float: an optional sign, then digits with at most one point among them and an
optional exponent, or one of the words for the values that are not finite.  A number is rounded to
the nearest float, a half to the even one.
-/

namespace MetricScraper.Decimal

def isDigit (c : Char) : Bool := '0' ≤ c && c ≤ '9'

def digitValue (c : Char) : Nat := c.toNat - '0'.toNat

/-- The number that decimal digits write. -/
def digitsValue (cs : List Char) : Nat := cs.foldl (fun n c => n * 10 + digitValue c) 0

def infinity : Float := Float.ofBits 0x7FF0000000000000

def notANumber : Float := Float.ofBits 0x7FF8000000000000

/-- The float nearest to `digits * 10 ^ exponent`; a magnitude beyond every float is infinite. -/
def nearestFloat (digits : Nat) (exponent : Int) : Float :=
  if digits = 0 then 0.0
  else
    let places : Int := (Nat.toDigits 10 digits).length
    if places + exponent > 400 then infinity
    else if places + exponent < -400 then 0.0
    else if exponent < 0 then OfScientific.ofScientific digits true exponent.natAbs
    else OfScientific.ofScientific digits false exponent.natAbs

/-- The optional sign of a number: whether it is a minus, and the rest. -/
def readSign : List Char → Bool × List Char
  | '-' :: cs => (true, cs)
  | '+' :: cs => (false, cs)
  | cs => (false, cs)

/-- An exponent after the mark `e`; `none` when it is malformed. -/
def readExponent : List Char → Option Int
  | [] => some 0
  | c :: cs =>
    if c = 'e' ∨ c = 'E' then
      let (negative, ds) := readSign cs
      if ds.isEmpty || !ds.all isDigit then none
      else
        let n : Int := digitsValue ds
        some (if negative then -n else n)
    else none

/-- The magnitude of an unsigned decimal; `none` when it is not one. -/
def readMagnitude (cs : List Char) : Option Float :=
  let whole := cs.takeWhile isDigit
  let afterWhole := cs.dropWhile isDigit
  let (fraction, rest) :=
    match afterWhole with
    | '.' :: more => (more.takeWhile isDigit, more.dropWhile isDigit)
    | _ => ([], afterWhole)
  if whole.isEmpty && fraction.isEmpty then none
  else
    (readExponent rest).map fun e =>
      nearestFloat (digitsValue (whole ++ fraction)) (e - fraction.length)

/-- The float that a text writes, if it writes one. -/
def readFloat? (text : String) : Option Float :=
  let (negative, cs) := readSign text.toList
  let word := String.ofList (cs.map Char.toLower)
  let magnitude :=
    if word == "inf" || word == "infinity" then some infinity
    else if word == "nan" then some notANumber
    else readMagnitude cs
  magnitude.map fun x => if negative then -x else x

end MetricScraper.Decimal
