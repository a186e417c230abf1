import MetricScraper.Pattern.Expression

/-!
# Matching

An expression leads from places of a text to places of the text: a step passes over a character of
its set, an assertion stays where it holds.  A set of places is kept as the bits of a number, so
that all ways through the text are followed at once and no choice is ever taken back.
-/

namespace MetricScraper.Pattern

open Unicode (CharSet)

/-! ### Places -/

/-- A set of places of a text: bit `i` is the place before character `i`. -/
abbrev Places := Nat

namespace Places

/-- All places of a text of `n` characters. -/
def all (n : Nat) : Places := 1 <<< (n + 1) - 1

/-- A list of truth values as a set, from the index `i` on. -/
def ofBits (i : Nat) : List Bool → Places
  | [] => 0
  | b :: rest => (if b then 1 <<< i else 0) ||| ofBits (i + 1) rest

end Places

/-! ### Assertions -/

/-- Whether an optional character has a property. -/
def holdsOf (p : Char → Bool) (c : Option Char) : Bool :=
  match c with
  | some c => p c
  | none => false

def isWordChar (unicode : Bool) (c : Char) : Bool := (ShortClass.word.set unicode).contains c

/-- Whether a boundary lies between a place whose neighbours are word characters or not. -/
def Assertion.holdsBetween (before after : Bool) : Assertion → Bool
  | .wordBoundary => before != after
  | .notWordBoundary => before == after
  | .wordStart => !before && after
  | .wordEnd => before && !after
  | .wordStartHalf => !before
  | .wordEndHalf => !after
  | _ => false

/-- Whether an assertion holds between two characters; none is the end of the text. -/
def Look.holds (before after : Option Char) : Look → Bool
  | .start => before.isNone
  | .end => after.isNone
  | .startLine => before.isNone || before == some '\n'
  | .endLine => after.isNone || after == some '\n'
  | .startLineCrlf =>
    before.isNone || before == some '\n' || (before == some '\r' && after != some '\n')
  | .endLineCrlf =>
    after.isNone || after == some '\r' || (after == some '\n' && before != some '\r')
  | .word kind unicode =>
    kind.holdsBetween (holdsOf (isWordChar unicode) before) (holdsOf (isWordChar unicode) after)

/-- Whether an assertion holds at each place of a text, `before` being the character before it. -/
def Look.along (look : Look) (before : Option Char) : List Char → List Bool
  | [] => [look.holds before none]
  | c :: cs => look.holds before (some c) :: look.along (some c) cs

/-! ### Ways through a text -/

/-- An expression that has been laid over a text: steps and assertions are the places at which
they can be taken. -/
abbrev Overlay := Expression Places Places

/-- Lays an expression over a text. -/
def PatternExpression.overlay (e : PatternExpression) (text : List Char) : Overlay :=
  e.map (fun set => Places.ofBits 0 (text.map set.contains))
    (fun look => Places.ofBits 0 (look.along none text))

/-- Applies a function `n` times.  Once it changes nothing, it would change nothing ever after. -/
def iterate (f : Places → Places) : Nat → Places → Places
  | 0, s => s
  | n + 1, s =>
    let next := f s
    if next = s then s else iterate f n next

/-- The places of a set and those that are reached from it. -/
def widen (f : Places → Places) (s : Places) : Places := s ||| f s

/-- The places reached from a set of places in a text of `length` characters.  A repetition
without a greatest count need not go on longer than there are places. -/
def Overlay.reach (length : Nat) : Overlay → Places → Places
  | .empty, s => s
  | .step set, s => (s &&& set) <<< 1
  | .look condition, s => s &&& condition
  | .sequence a b, s => reach length b (reach length a s)
  | .alternation a b, s => reach length a s ||| reach length b s
  | .repetition e least most _, s =>
    let more := match most with
      | some most => most - least
      | none => length + 1
    iterate (widen (reach length e)) more (iterate (reach length e) least s)
  | .group _ e, s => reach length e s

/-- Whether the expression goes through some part of the text. -/
def PatternExpression.isFoundIn (e : PatternExpression) (text : List Char) : Bool :=
  let n := text.length
  (PatternExpression.overlay e text).reach n (Places.all n) != 0

end MetricScraper.Pattern
