import MetricScraper.Unicode.CharSet

/-!
# Sets of characters as ranges of bytes

An automaton over UTF-8 reads a character byte by byte.  A range of characters is cut into parts
in which every byte runs through a range of its own, whatever the other bytes are.
-/

namespace MetricScraper.Pattern

open Unicode (CharSet)

/-- The bytes of a code point in UTF-8. -/
def utf8Bytes (n : Nat) : List Nat :=
  if n < 0x80 then [n]
  else if n < 0x800 then [0xC0 + n / 0x40, 0x80 + n % 0x40]
  else if n < 0x10000 then [0xE0 + n / 0x1000, 0x80 + n / 0x40 % 0x40, 0x80 + n % 0x40]
  else
    [0xF0 + n / 0x40000, 0x80 + n / 0x1000 % 0x40, 0x80 + n / 0x40 % 0x40, 0x80 + n % 0x40]

/-- A range of bytes for each byte of a character, the first one first. -/
abbrev ByteRanges := List (Nat × Nat)

/-- Splits a range at the ends of blocks of `size` code points, unless it stays within one. -/
def splitAtBlocks (size : Nat) (r : Nat × Nat) : List (Nat × Nat) :=
  let (lo, hi) := r
  if lo / size = hi / size then [r]
  else
    let first := if lo % size = 0 then lo else (lo / size + 1) * size
    let afterLast := if hi % size = size - 1 then hi + 1 else hi / size * size
    (if lo < first then [(lo, first - 1)] else []) ++
      (if first < afterLast then [(first, afterLast - 1)] else []) ++
      (if afterLast ≤ hi then [(afterLast, hi)] else [])

/-- The parts of a range whose code points have the same number of bytes, without surrogates. -/
def splitByLength (r : Nat × Nat) : List (Nat × Nat) :=
  [(0, 0x7F), (0x80, 0x7FF), (0x800, 0xD7FF), (0xE000, 0xFFFF), (0x10000, 0x10FFFF)].filterMap
    fun (lo, hi) =>
      let lo := max lo r.1
      let hi := min hi r.2
      if lo ≤ hi then some (lo, hi) else none

/-- The ranges of bytes of a range of code points, in ascending order. -/
def byteRanges (r : Nat × Nat) : List ByteRanges :=
  (splitByLength r).flatMap fun part =>
    let parts :=
      if part.2 < 0x80 then [part]
      else
        (if part.1 < 0x10000 then [part] else splitAtBlocks 0x40000 part).flatMap fun part =>
          (if part.1 < 0x800 then [part] else splitAtBlocks 0x1000 part).flatMap
            (splitAtBlocks 0x40)
    parts.map fun part => (utf8Bytes part.1).zip (utf8Bytes part.2)

/-- The range without surrogates, which are no characters. -/
def withoutSurrogates (r : Nat × Nat) : List (Nat × Nat) :=
  if r.2 < 0xD800 || 0xDFFF < r.1 then [r]
  else
    (if r.1 < 0xD800 then [(r.1, 0xD7FF)] else []) ++
      (if 0xDFFF < r.2 then [(0xE000, r.2)] else [])

/-- A set of characters together with its ranges of bytes. -/
structure ByteSet where
  ranges : List (Nat × Nat)
  sequences : List ByteRanges
  sequences_eq : sequences = ranges.flatMap byteRanges

namespace ByteSet

/-- The set of some ranges of code points. -/
def ofRanges (ranges : List (Nat × Nat)) : ByteSet := ⟨ranges, ranges.flatMap byteRanges, rfl⟩

/-- The characters of a set of code points. -/
def ofCharSet (s : CharSet) : ByteSet := ofRanges (s.ranges.flatMap withoutSurrogates)

def toCharSet (s : ByteSet) : CharSet := ⟨s.ranges⟩

/-- Whether every character is one of ASCII. -/
def isAscii (s : ByteSet) : Bool := s.ranges.all fun r => r.2 < 0x80

/-- The number of bytes of the shortest character, if there is one. -/
def leastLength (s : ByteSet) : Option Nat := s.ranges.head?.map fun r => (utf8Bytes r.1).length

/-- The number of bytes of the longest character, if there is one. -/
def greatestLength (s : ByteSet) : Option Nat :=
  s.ranges.getLast?.map fun r => (utf8Bytes r.2).length

instance : Inhabited ByteSet := ⟨ofRanges []⟩

end ByteSet

/-- Sequences by their first range: neighbours that begin alike form a group of tails. -/
def groupByHead : List ByteRanges → List ((Nat × Nat) × List ByteRanges)
  | [] => []
  | [] :: rest => groupByHead rest
  | (r :: tail) :: rest =>
    match groupByHead rest with
    | (q, tails) :: groups =>
      if q = r then (r, tail :: tails) :: groups else (r, [tail]) :: (q, tails) :: groups
    | [] => [(r, [tail])]

end MetricScraper.Pattern
