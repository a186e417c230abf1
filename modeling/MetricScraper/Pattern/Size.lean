import MetricScraper.Pattern.Blueprint
import Std.Data.HashMap

/-!
# The size of a pattern

A pattern is refused when an automaton over UTF-8 bytes, for reading forwards or backwards, would
take too much memory.  The automaton is not built here, only drafted: its states are numbered and
their memory is added up.

A large set of characters is read by a tree of states whose equal parts are shared.  Which parts
are shared is decided by a table of slots in which a part may be overwritten by another one, so
that the numbers of the states have a say in it.
-/

namespace MetricScraper.Pattern

/-- The way in which an automaton reads a text. -/
inductive Direction where
  | forward
  | backward
  deriving DecidableEq, Repr, Inhabited

/-! ### Drafts -/

/-- The number of states of an automaton so far, which is the number of its next state, and the
bytes that its branches and ranges take. -/
structure Draft where
  states : Nat
  extra : Nat
  deriving DecidableEq, Repr, Inhabited

namespace Draft

def empty : Draft := ⟨0, 0⟩

/-- The bytes of one state, without branches and ranges. -/
def stateSize : Nat := 32

/-- The bytes of one branch of a state. -/
def branchSize : Nat := 4

/-- The bytes of one range of a state. -/
def rangeSize : Nat := 8

/-- The greatest memory of an automaton: ten mebibytes. -/
def limit : Nat := 10 * 0x100000

def memory (d : Draft) : Nat := d.states * stateSize + d.extra

def isTooLarge (d : Draft) : Bool := limit < d.memory

/-- Adds states that have a number of branches and a number of ranges among them. -/
def add (d : Draft) (states branches ranges : Nat) : Draft :=
  ⟨d.states + states, d.extra + branches * branchSize + ranges * rangeSize⟩

/-- Drafts something a number of times, but stops when the automaton has become too large. -/
def times (step : Draft → Draft) : Nat → Draft → Draft
  | 0, d => d
  | n + 1, d => if d.isTooLarge then d else times step n (step d)

end Draft

/-! ### Slots -/

/-- A table of parts that have a state already: a slot holds the part that came last to it. -/
abbrev Slots (Part : Type) := Std.HashMap Nat (Part × Nat)

/-- The multiplicative hash of a list of numbers. -/
def slotHash (numbers : List Nat) : UInt64 :=
  numbers.foldl (fun h n => (h ^^^ n.toUInt64) * 0x100000001B3) 0xCBF29CE484222325

/-- The state of a part.  A part that is not in its slot gets a new state. -/
def place {Part : Type} [BEq Part] (slot : Nat) (part : Part) (ranges : Nat)
    (s : Draft × Slots Part) : Nat × Draft × Slots Part :=
  let (d, slots) := s
  let fresh := (d.states, d.add 1 0 ranges, slots.insert slot (part, d.states))
  match slots[slot]? with
  | some (found, state) => if found == part then (state, d, slots) else fresh
  | none => fresh

/-! ### Sets -/

/-- The ranges that lead out of a state, each with the state that it leads to. -/
abbrev Arcs := List ((Nat × Nat) × Nat)

def arcsSlot (arcs : Arcs) : Nat :=
  (slotHash (arcs.flatMap fun a => [a.1.1, a.1.2, a.2])).toNat % 10000

/-- Drafts the states that read sequences of ranges forwards and then go on to `target`. -/
def placeTails (target : Nat) : Nat → List ByteRanges → Draft × Slots Arcs →
    Nat × Draft × Slots Arcs
  | 0, _, s => (target, s)
  | depth + 1, sequences, s =>
    let (arcs, s) := (groupByHead sequences).foldl
      (fun (arcs, s) (range, tails) =>
        let (state, s) :=
          if tails.all List.isEmpty then (target, s) else placeTails target depth tails s
        ((range, state) :: arcs, s))
      (([] : Arcs), s)
    place (arcsSlot arcs.reverse) arcs.reverse arcs.length s

/-- Drafts the states that read a sequence of ranges backwards and then go on to `target`. -/
def placeReversed (target : Nat) : ByteRanges → Draft × Slots ((Nat × Nat) × Nat) →
    Draft × Slots ((Nat × Nat) × Nat)
  | [], s => s
  | r :: rest, s =>
    let slot := (slotHash [target, r.1, r.2]).toNat % 1000
    let (state, s) := place slot (r, target) 0 s
    placeReversed state rest s

/-- Drafts the states that read a member of a set. -/
def Draft.addSet (d : Draft) (direction : Direction) (s : ByteSet) : Draft :=
  if s.isAscii then d.add 2 0 s.ranges.length
  else
    match direction with
    | .forward => (placeTails d.states 4 s.sequences (d.add 1 0 0, ∅)).2.1
    | .backward =>
      (s.sequences.foldl (fun s sequence => placeReversed (d.states + 1) sequence s)
        (d.add 2 s.sequences.length 0, ∅)).1

/-! ### Words -/

/-- Words in runs: a word that ends here closes the run before it. -/
def runsOf : List (List Nat) → List (List (List Nat))
  | [] => [[]]
  | [] :: rest => [] :: runsOf rest
  | word :: rest =>
    match runsOf rest with
    | run :: runs => (word :: run) :: runs
    | [] => [[word]]

/-- Words without those that end here again before any other one. -/
def dropRepeatedEnds : List (List Nat) → List (List Nat)
  | [] :: rest => [] :: rest.dropWhile List.isEmpty
  | words => words

/-- What follows a byte in the words that begin with it. -/
def tailsAfter (byte : Nat) (words : List (List Nat)) : List (List Nat) :=
  words.filterMap fun word =>
    match word with
    | [] => none
    | b :: rest => if b = byte then some rest else none

/-- Drafts the states that read one of several words, as a tree in which no word is moved in
front of one that ends before it; `depth` is more than the length of the longest word. -/
def Draft.addTree : Nat → List (List Nat) → Draft → Draft
  | 0, _, d => d
  | depth + 1, words, d =>
    let runs := runsOf (dropRepeatedEnds words)
    let d := runs.foldl
      (fun d run =>
        let bytes := (run.filterMap List.head?).eraseDups
        let d := bytes.foldl
          (fun d byte =>
            let tails := tailsAfter byte run
            if tails.all List.isEmpty then d else addTree depth tails d)
          d
        match bytes with
        | [] => d
        | [_] => d.add 1 1 0
        | _ => d.add 1 1 bytes.length)
      d
    d.add 1 (runs.length - 1) 0

/-- Drafts the states that read one of several words. -/
def Draft.addWords (d : Draft) (direction : Direction) (words : List (List Nat)) : Draft :=
  let words := words.map fun codePoints =>
    let bytes := codePoints.flatMap utf8Bytes
    match direction with
    | .forward => bytes
    | .backward => bytes.reverse
  Draft.addTree ((words.map List.length).foldl max 0 + 1) words (d.add 1 0 0)

/-! ### Blueprints -/

/-- Drafts a repetition of something; `advances` when its inside cannot go through nothing. -/
def Draft.addRepetition (inner : Draft → Draft) (advances : Bool) (least : Nat)
    (most : Option Nat) (d : Draft) : Draft :=
  let exactly (n : Nat) (d : Draft) := if n = 0 then d.add 1 0 0 else Draft.times inner n d
  match least, most with
  | 0, some 1 => (inner (d.add 1 2 0)).add 1 0 0
  | 0, none => if advances then inner (d.add 1 2 0) else (inner d).add 3 4 0
  | n, none => (exactly n d).add 1 2 0
  | n, some m =>
    if n = m then exactly n d
    else Draft.times (fun d => inner (d.add 1 2 0)) (m - n) ((exactly n d).add 1 0 0)

namespace Blueprint

def word? : Blueprint → Option (List Nat)
  | .word codePoints => some codePoints
  | _ => none

mutual

/-- Drafts the states of a blueprint. -/
def draft (direction : Direction) : Blueprint → Draft → Draft
  | .nothing, d => d.add 1 0 0
  | .word codePoints, d => d.add (codePoints.flatMap utf8Bytes).length 0 0
  | .set s, d => d.addSet direction s
  | .look _, d => d.add 1 0 0
  | .repetition e least most _, d =>
    d.addRepetition (draft direction e) e.advances least most
  | .group e, d =>
    match direction with
    | .forward => (draft direction e (d.add 1 0 0)).add 1 0 0
    | .backward => draft direction e d
  | .sequence es, d => draftParts direction es d
  | .alternation es, d =>
    match es.mapM word? with
    | some words => d.addWords direction words
    | none => draftBranches direction 0 es d

/-- Drafts parts in the order in which they are read. -/
def draftParts (direction : Direction) : List Blueprint → Draft → Draft
  | [], d => d
  | e :: es, d =>
    match direction with
    | .forward => draftParts direction es (draft direction e d)
    | .backward => draft direction e (draftParts direction es d)

/-- Drafts branches, `i` being the number of those before them.  The states in which branches part
and meet come after the second one. -/
def draftBranches (direction : Direction) (i : Nat) : List Blueprint → Draft → Draft
  | [], d => d
  | e :: es, d =>
    let d := draft direction e d
    draftBranches direction (i + 1) es (d.add (if i = 1 then 2 else 0) 1 0)

end

/-! ### Automata -/

/-- The assertion that holds only where reading starts. -/
def anchor : Direction → Look
  | .forward => .start
  | .backward => .end

mutual

/-- Whether every way through begins, in the direction of reading, where reading starts. -/
def isAnchored (direction : Direction) : Blueprint → Bool
  | .look condition => condition == anchor direction
  | .repetition e least _ _ => 0 < least && isAnchored direction e
  | .group e => isAnchored direction e
  | .sequence es =>
    match direction with
    | .forward => isAnchoredAtFirst es
    | .backward => (isAnchoredAtLast es).1
  | .alternation es => areAnchored direction es
  | _ => false

/-- Whether one of the parts up to the first that may move on begins where reading starts. -/
def isAnchoredAtFirst : List Blueprint → Bool
  | [] => false
  | e :: es => isAnchored .forward e || (e.isStill && isAnchoredAtFirst es)

/-- The same from the last part on, and whether all parts stand still. -/
def isAnchoredAtLast : List Blueprint → Bool × Bool
  | [] => (false, true)
  | e :: es =>
    let (anchored, still) := isAnchoredAtLast es
    (anchored || (still && isAnchored .backward e), still && e.isStill)

def areAnchored (direction : Direction) : List Blueprint → Bool
  | [] => true
  | e :: es => isAnchored direction e && areAnchored direction es

end

/-- Drafts the automaton of a blueprint.  Without an anchor, it begins with a loop over any byte;
read forwards, it remembers where it was. -/
def automaton (direction : Direction) (e : Blueprint) : Draft :=
  let d := if e.isAnchored direction then Draft.empty.add 1 0 0 else Draft.empty.add 3 2 1
  let d :=
    match direction with
    | .forward => (e.draft direction (d.add 1 0 0)).add 1 0 0
    | .backward => e.draft direction d
  d.add 1 0 0

/-- Whether the automata of a blueprint are small enough. -/
def isAffordable (e : Blueprint) : Bool :=
  !(e.automaton .forward).isTooLarge && !(e.automaton .backward).isTooLarge

end Blueprint

/-- Whether the automata of an expression are small enough. -/
def PatternExpression.isAffordable (e : PatternExpression) : Bool := e.blueprint.isAffordable

end MetricScraper.Pattern
