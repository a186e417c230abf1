import MetricScraper.Decimal.Shortest

/-!
# Writing decimals

The digits of a decimal are laid out in positional or in exponent form; a `Layout` says where the
one ends and the other begins.
-/

namespace MetricScraper.Decimal

/-- How a decimal is laid out. -/
structure Layout where
  /-- Least place of the decimal point written positionally; a value is below `10 ^ place`. -/
  lowest : Int
  /-- Greatest place of the decimal point written positionally. -/
  highest : Int
  /-- Whether a whole number in positional form ends in `.0`. -/
  wholeSuffix : Bool
  /-- Whether a positive exponent has a plus sign. -/
  plusSign : Bool

/-- The decimal digits of a natural number. -/
def digitChars (n : Nat) : List Char := Nat.toDigits 10 n

def zeros (n : Nat) : List Char := List.replicate n '0'

/-- The text of a positive decimal. -/
def Layout.write (l : Layout) (d : Numeral) : List Char :=
  let ds := digitChars d.digits
  let n : Int := ds.length
  let point : Int := n + d.exponent
  if l.lowest ≤ point ∧ point ≤ l.highest then
    if n ≤ point then
      ds ++ zeros (point - n).toNat ++ (if l.wholeSuffix then ['.', '0'] else [])
    else if 0 < point then ds.take point.toNat ++ '.' :: ds.drop point.toNat
    else '0' :: '.' :: zeros (-point).toNat ++ ds
  else
    let mantissa :=
      match ds with
      | [] => []
      | [c] => [c]
      | c :: cs => c :: '.' :: cs
    let e := point - 1
    let sign := if e < 0 then ['-'] else if l.plusSign then ['+'] else []
    mantissa ++ 'e' :: sign ++ digitChars e.natAbs

/-- The text of a finite float, sign included, in the fewest digits that read back. -/
def Layout.writeFloat (l : Layout) (x : Float) : List Char :=
  let sign := if isNegative x then ['-'] else []
  if x == 0.0 then sign ++ '0' :: (if l.wholeSuffix then ['.', '0'] else [])
  else sign ++ l.write (shortest x)

/-- Plain positional text, without a fractional part where there is none. -/
def plainLayout : Layout := ⟨-400, 400, false, false⟩

end MetricScraper.Decimal
