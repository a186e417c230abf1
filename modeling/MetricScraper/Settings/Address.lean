import MetricScraper.Decimal.Reading
import MetricScraper.Unicode.CharSet

/-!
# Socket addresses

An address of the internet protocol, of version 4 or 6, with a port: `10.0.0.1:80` or
`[2001:db8::1%7]:80`.  A version 6 address leaves out its longest run of zeros, and one that holds
a version 4 address shows it with dots.
-/

namespace MetricScraper

/-- An address with a port. -/
inductive SocketAddress where
  | v4 (octets : List Nat) (port : Nat)
  | v6 (groups : List Nat) (scope port : Nat)
  deriving DecidableEq, Repr, Inhabited

namespace SocketAddress

/-! ### Reading -/

/-- The value of a digit up to `f`, below the radix. -/
def digit? (radix : Nat) (c : Char) : Option Nat :=
  (Unicode.CharSet.hexDigit? c).bind fun d => if d < radix then some d else none

/-- Reads a character that has to be there. -/
def expect (c : Char) : List Char → Option (List Char)
  | [] => none
  | d :: ds => if d = c then some ds else none

/-- Reads a number below `limit`.  `places` bounds the number of its digits; a number with a bound
may be refused for a zero before other digits. -/
def readNumber (radix limit : Nat) (places : Option Nat) (leadingZeros : Bool)
    (cs : List Char) : Option (Nat × List Char) :=
  let digits := cs.takeWhile fun c => (digit? radix c).isSome
  let n := digits.foldl (fun n c => n * radix + (digit? radix c).getD 0) 0
  let tooLong := match places with
    | some most => decide (most < digits.length)
    | none => false
  if digits.isEmpty || limit ≤ n || tooLong then none
  else if !leadingZeros && digits.head? = some '0' && 1 < digits.length then none
  else some (n, cs.drop digits.length)

def readOctet : List Char → Option (Nat × List Char) := readNumber 10 256 (some 3) false

/-- Reads the four octets of a version 4 address. -/
def readOctets (cs : List Char) : Option (List Nat × List Char) := do
  let (a, cs) ← readOctet cs
  let (b, cs) ← readOctet (← expect '.' cs)
  let (c, cs) ← readOctet (← expect '.' cs)
  let (d, cs) ← readOctet (← expect '.' cs)
  some ([a, b, c, d], cs)

/-- Reads the colon before all groups but the first. -/
def readSeparator (isFirst : Bool) (cs : List Char) : Option (List Char) :=
  if isFirst then some cs else expect ':' cs

/-- Reads up to `room` groups of a version 6 address.  Where two groups are left, a version 4
address may stand for them; the truth value says whether one did. -/
def readGroups (isFirst : Bool) : Nat → List Char → List Nat × Bool × List Char
  | 0, cs => ([], false, cs)
  | room + 1, cs =>
    let dotted := if room = 0 then none else (readSeparator isFirst cs).bind readOctets
    match dotted with
    | some ([a, b, c, d], cs) => ([a * 256 + b, c * 256 + d], true, cs)
    | _ =>
      match (readSeparator isFirst cs).bind (readNumber 16 65536 (some 4) true) with
      | none => ([], false, cs)
      | some (group, cs) =>
        let (groups, dotted, cs) := readGroups false room cs
        (group :: groups, dotted, cs)

/-- Reads the eight groups of a version 6 address; two colons stand for the groups that are
missing, of which there is at least one. -/
def readAddress6 (cs : List Char) : Option (List Nat × List Char) :=
  let (front, dotted, cs) := readGroups true 8 cs
  if front.length = 8 then some (front, cs)
  else if dotted then none
  else do
    let cs ← expect ':' (← expect ':' cs)
    let (back, _, cs) := readGroups true (7 - front.length) cs
    some (front ++ List.replicate (8 - front.length - back.length) 0 ++ back, cs)

def readPort (cs : List Char) : Option Nat := do
  let (port, rest) ← readNumber 10 65536 none true (← expect ':' cs)
  if rest.isEmpty then some port else none

def read4 (cs : List Char) : Option SocketAddress := do
  let (octets, cs) ← readOctets cs
  some (.v4 octets (← readPort cs))

def read6 (cs : List Char) : Option SocketAddress := do
  let (groups, cs) ← readAddress6 (← expect '[' cs)
  let (scope, cs) ←
    match expect '%' cs with
    | some cs => readNumber 10 0x100000000 none true cs
    | none => some (0, cs)
  some (.v6 groups scope (← readPort (← expect ']' cs)))

/-- The address that a text writes, if it writes one. -/
def ofText? (text : String) : Option SocketAddress :=
  (read4 text.toList).or (read6 text.toList)

/-! ### Writing -/

def octetsText (octets : List Nat) : String := ".".intercalate (octets.map toString)

def groupsText (groups : List Nat) : String :=
  ":".intercalate (groups.map fun g => String.ofList (Nat.toDigits 16 g))

/-- The length of the run of zeros at the start. -/
def zeroRun (groups : List Nat) : Nat := (groups.takeWhile (· = 0)).length

/-- The start and the length of the first of the longest runs of zeros, from index `i` on. -/
def longestZeros (i : Nat) : List Nat → Nat × Nat
  | [] => (i, 0)
  | g :: rest =>
    let here := zeroRun (g :: rest)
    let (start, length) := longestZeros (i + 1) rest
    if length ≤ here then (i, here) else (start, length)

/-- The text of a version 6 address. -/
def addressText6 (groups : List Nat) : String :=
  match groups with
  | [0, 0, 0, 0, 0, 0xFFFF, a, b] =>
    "::ffff:" ++ octetsText [a / 256, a % 256, b / 256, b % 256]
  | _ =>
    let (start, length) := longestZeros 0 groups
    if length ≤ 1 then groupsText groups
    else groupsText (groups.take start) ++ "::" ++ groupsText (groups.drop (start + length))

/-- The text of an address. -/
def text : SocketAddress → String
  | .v4 octets port => octetsText octets ++ ":" ++ toString port
  | .v6 groups scope port =>
    let zone := if scope = 0 then "" else "%" ++ toString scope
    "[" ++ addressText6 groups ++ zone ++ "]:" ++ toString port

end SocketAddress

end MetricScraper
