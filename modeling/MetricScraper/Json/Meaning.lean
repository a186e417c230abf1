import MetricScraper.Json.Syntax

/-!
# The meaning of JSON texts

A number keeps as many digits as fit in 64 bits, is scaled by one power of ten, and has no value
when that is beyond every float.  A value that is kept may nest up to a limit.
-/

namespace MetricScraper.Json

/-! ### Numbers -/

/-- The first number that does not fit in 64 bits. -/
def wordLimit : Nat := 0x10000000000000000

/-- Appends digits to a number as long as it fits in 64 bits; the rest are left. -/
def appendDigits (n : Nat) : List Char → Nat × List Char
  | [] => (n, [])
  | c :: cs =>
    let m := n * 10 + Decimal.digitValue c
    if m < wordLimit then appendDigits m cs else (n, c :: cs)

/-- The greatest power of ten that is a float, as an exponent. -/
def greatestPower : Nat := 308

def powerOfTen (n : Nat) : Float := Decimal.nearestFloat 1 n

/-- Divides by a power of ten, in steps of the greatest one that is a float; below the least float
there is only zero. -/
def divideByPower : Nat → Float → Nat → Float
  | 0, _, _ => 0.0
  | fuel + 1, x, n =>
    if n ≤ greatestPower then x / powerOfTen n
    else if x == 0.0 then x
    else divideByPower fuel (x / powerOfTen greatestPower) (n - greatestPower)

/-- A number of 64 bits scaled by a power of ten; `none` when it is too large. -/
def scale? (significand : Nat) (exponent : Int) : Option Float :=
  let x := (UInt64.ofNat significand).toFloat
  if exponent < 0 then some (divideByPower 4 x exponent.natAbs)
  else if exponent.natAbs ≤ greatestPower then
    let y := x * powerOfTen exponent.natAbs
    if y.isInf then none else some y
  else if significand = 0 then some 0.0
  else none

/-- The value of the exponent of a numeral. -/
def exponentValue (e : Option (Bool × List Char)) : Int :=
  match e with
  | none => 0
  | some (negative, digits) =>
    let n : Int := Decimal.digitsValue digits
    if negative then -n else n

/-- The float of a numeral; `none` when it is too large. -/
def Numeral.float? (n : Numeral) : Option Float :=
  let (significand, dropped) := appendDigits 0 n.whole
  let (significand, left) := appendDigits significand n.fraction
  let taken := n.fraction.length - left.length
  let exponent := (dropped.length : Int) - taken + exponentValue n.exponent
  (scale? significand exponent).map fun x => if n.negative then -x else x

/-- The number of a numeral; `none` when it is too large. -/
def Numeral.number? (n : Numeral) : Option Number :=
  let magnitude := Decimal.digitsValue n.whole
  if !n.fraction.isEmpty || n.exponent.isSome || wordLimit ≤ magnitude then
    n.float?.map .float
  else if !n.negative then some (.unsigned (UInt64.ofNat magnitude))
  else if magnitude = 0 || 0x8000000000000000 < magnitude then
    some (.float (-(UInt64.ofNat magnitude).toFloat))
  else some (.negative magnitude)

/-! ### Values -/

/-- The deepest level at which an array or object may be kept. -/
def deepestLevel : Nat := 127

mutual

/-- The value of a tree that is kept; an array or object of it lies at `level`. -/
def Tree.value? (level : Nat) : Tree → Option Value
  | .null => some .null
  | .bool b => some (.bool b)
  | .number n => n.number?.map .number
  | .string s => s.map .string
  | .array items =>
    if level ≤ deepestLevel then (itemValues? (level + 1) items).map .array else none
  | .object members =>
    if level ≤ deepestLevel then
      (memberValues? (level + 1) members).map fun ms => .object (sortMembers ms)
    else none

def itemValues? (level : Nat) : List Tree → Option (List Value)
  | [] => some []
  | item :: rest => do
    let v ← item.value? level
    let vs ← itemValues? level rest
    some (v :: vs)

def memberValues? (level : Nat) : List (Option String × Tree) → Option (List (String × Value))
  | [] => some []
  | (name, value) :: rest => do
    let n ← name
    let v ← value.value? level
    let vs ← memberValues? level rest
    some ((n, v) :: vs)

end

end MetricScraper.Json
