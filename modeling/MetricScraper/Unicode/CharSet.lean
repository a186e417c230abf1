/-!
# Sets of characters

A set of code points is a list of ranges that ascend and do not touch.  The tables of the Unicode
properties are written as text, `41-5A 61-7A AA`, and read into such sets.
-/

namespace MetricScraper.Unicode

/-- The last code point. -/
def lastCodePoint : Nat := 0x10FFFF

/-- A set of code points: inclusive ranges in ascending order, with gaps between them. -/
structure CharSet where
  ranges : List (Nat × Nat)
  deriving DecidableEq, Repr, Inhabited

namespace CharSet

/-! ### Membership -/

/-- Whether a code point lies in one of the ascending ranges. -/
def inRanges : List (Nat × Nat) → Nat → Bool
  | [], _ => false
  | (lo, hi) :: rest, n => if n < lo then false else if n ≤ hi then true else inRanges rest n

def contains (s : CharSet) (c : Char) : Bool := inRanges s.ranges c.toNat

/-! ### Building sets -/

def empty : CharSet := ⟨[]⟩

def range (lo hi : Nat) : CharSet := ⟨[(lo, hi)]⟩

def single (n : Nat) : CharSet := range n n

def ofChar (c : Char) : CharSet := single c.toNat

def all : CharSet := range 0 lastCodePoint

/-- Joins ranges that overlap or touch; the list ascends by lower end, and `(lo, hi)` is the
range being grown. -/
def joinFrom (lo hi : Nat) : List (Nat × Nat) → List (Nat × Nat)
  | [] => [(lo, hi)]
  | (a, b) :: rest =>
    if a ≤ hi + 1 then joinFrom lo (max hi b) rest else (lo, hi) :: joinFrom a b rest

def joinRanges : List (Nat × Nat) → List (Nat × Nat)
  | [] => []
  | (lo, hi) :: rest => joinFrom lo hi rest

/-- The set of the code points of any ranges, in any order. -/
def ofRanges (rs : List (Nat × Nat)) : CharSet :=
  ⟨joinRanges (rs.mergeSort fun a b => a.1 ≤ b.1)⟩

def ofCodePoints (ns : List Nat) : CharSet := ofRanges (ns.map fun n => (n, n))

/-! ### Set operations -/

def union (a b : CharSet) : CharSet := ofRanges (a.ranges ++ b.ranges)

def unions (sets : List CharSet) : CharSet := ofRanges (sets.flatMap ranges)

/-- The gaps of ascending ranges from `start` on. -/
def gapsFrom (start : Nat) : List (Nat × Nat) → List (Nat × Nat)
  | [] => if start ≤ lastCodePoint then [(start, lastCodePoint)] else []
  | (lo, hi) :: rest =>
    if start < lo then (start, lo - 1) :: gapsFrom (hi + 1) rest else gapsFrom (hi + 1) rest

/-- The code points that are not in the set. -/
def complement (s : CharSet) : CharSet := ⟨gapsFrom 0 s.ranges⟩

def inter (a b : CharSet) : CharSet := complement (union (complement a) (complement b))

def diff (a b : CharSet) : CharSet := inter a (complement b)

def symmDiff (a b : CharSet) : CharSet := diff (union a b) (inter a b)

/-! ### Reading the written form -/

def hexDigit? (c : Char) : Option Nat :=
  if '0' ≤ c ∧ c ≤ '9' then some (c.toNat - '0'.toNat)
  else if 'A' ≤ c ∧ c ≤ 'F' then some (c.toNat - 'A'.toNat + 10)
  else if 'a' ≤ c ∧ c ≤ 'f' then some (c.toNat - 'a'.toNat + 10)
  else none

/-- Reads ranges such as `41-5A AA`: `lo` is the lower end met before a hyphen, `value` the
hexadecimal number being read. -/
def readRanges (lo value : Option Nat) : List Char → List (Nat × Nat)
  | [] =>
    match lo, value with
    | some l, some v => [(l, v)]
    | none, some v => [(v, v)]
    | _, none => []
  | c :: cs =>
    if c = '-' then readRanges value none cs
    else
      match hexDigit? c with
      | some d => readRanges lo (some (value.getD 0 * 16 + d)) cs
      | none =>
        match lo, value with
        | some l, some v => (l, v) :: readRanges none none cs
        | none, some v => (v, v) :: readRanges none none cs
        | _, none => readRanges none none cs

/-- The set written as hexadecimal code points and ranges, in ascending order. -/
def ofText (text : String) : CharSet := ⟨readRanges none none text.toList⟩

end CharSet

end MetricScraper.Unicode
