import MetricScraper.Pattern.ByteRanges
import MetricScraper.Pattern.Expression

/-!
# Blueprints

The form of an expression from which its automaton is built.  Sequences and alternations are flat,
characters that follow each other are joined to words, alternations of characters or of sets are
sets, and what all branches of an alternation begin with stands in front of it.
-/

namespace MetricScraper.Pattern

open Unicode (CharSet)

/-- The plan of an automaton. -/
inductive Blueprint where
  | nothing
  /-- One character after the other, by their code points. -/
  | word (codePoints : List Nat)
  | set (members : ByteSet)
  | look (condition : Look)
  | repetition (inner : Blueprint) (least : Nat) (most : Option Nat) (greedy : Bool)
  /-- A group that is remembered. -/
  | group (inner : Blueprint)
  | sequence (parts : List Blueprint)
  | alternation (branches : List Blueprint)
  deriving Inhabited

namespace Blueprint

/-! ### Comparing -/

mutual

/-- Whether two blueprints are the same; a remembered group is the same as no other. -/
def same : Blueprint → Blueprint → Bool
  | .nothing, .nothing => true
  | .word cs, .word ds => cs == ds
  | .set s, .set t => s.ranges == t.ranges
  | .look l, .look m => l == m
  | .repetition e least most greedy, .repetition e' least' most' greedy' =>
    least == least' && most == most' && greedy == greedy' && same e e'
  | .sequence es, .sequence es' => sameAll es es'
  | .alternation es, .alternation es' => sameAll es es'
  | _, _ => false

def sameAll : List Blueprint → List Blueprint → Bool
  | [], [] => true
  | e :: es, e' :: es' => same e e' && sameAll es es'
  | _, _ => false

end

/-- What two lists begin with alike. -/
def sharedParts : List Blueprint → List Blueprint → List Blueprint
  | e :: es, e' :: es' => if e.same e' then e :: sharedParts es es' else []
  | _, _ => []

mutual

/-- The number of nodes. -/
def weight : Blueprint → Nat
  | .repetition e _ _ _ => e.weight + 1
  | .group e => e.weight + 1
  | .sequence es => weights es + 1
  | .alternation es => weights es + 1
  | _ => 1

def weights : List Blueprint → Nat
  | [] => 0
  | e :: es => e.weight + weights es

end

/-! ### Lengths -/

/-- The sum, if both numbers are known. -/
def addKnown (a b : Option Nat) : Option Nat :=
  match a, b with
  | some m, some n => some (m + n)
  | _, _ => none

/-- The choice between two numbers, if both are known. -/
def chooseKnown (choose : Nat → Nat → Nat) : List (Option Nat) → Option Nat
  | [] => none
  | [a] => a
  | a :: rest =>
    match a, chooseKnown choose rest with
    | some m, some n => some (choose m n)
    | _, _ => none

mutual

/-- The least number of bytes that is gone through, if any text is gone through. -/
def leastLength : Blueprint → Option Nat
  | .nothing => some 0
  | .word cs => some (cs.flatMap utf8Bytes).length
  | .set s => s.leastLength
  | .look _ => some 0
  | .repetition e least _ _ => e.leastLength.map (· * least)
  | .group e => e.leastLength
  | .sequence es => (leastLengths es).foldr addKnown (some 0)
  | .alternation es => chooseKnown min (leastLengths es)

def leastLengths : List Blueprint → List (Option Nat)
  | [] => []
  | e :: es => e.leastLength :: leastLengths es

end

mutual

/-- The greatest number of bytes that is gone through, if there is a greatest one. -/
def greatestLength : Blueprint → Option Nat
  | .nothing => some 0
  | .word cs => some (cs.flatMap utf8Bytes).length
  | .set s => s.greatestLength
  | .look _ => some 0
  | .repetition e _ most _ =>
    match most, e.greatestLength with
    | some m, some n => some (n * m)
    | _, _ => none
  | .group e => e.greatestLength
  | .sequence es => (greatestLengths es).foldr addKnown (some 0)
  | .alternation es => chooseKnown max (greatestLengths es)

def greatestLengths : List Blueprint → List (Option Nat)
  | [] => []
  | e :: es => e.greatestLength :: greatestLengths es

end

/-- Whether at least one byte is gone through for certain. -/
def advances (e : Blueprint) : Bool :=
  match e.leastLength with
  | some n => 0 < n
  | none => false

/-- Whether nothing is gone through for certain. -/
def isStill (e : Blueprint) : Bool := e.greatestLength == some 0

/-! ### Building -/

/-- A set, or the word of its only member. -/
def ofByteSet (s : ByteSet) : Blueprint :=
  match s.ranges with
  | [(lo, hi)] => if lo = hi then .word [lo] else .set s
  | _ => .set s

def ofCharSet (s : CharSet) : Blueprint := ofByteSet (ByteSet.ofCharSet s)

/-- A repetition.  What stands still need not be repeated, and no or one turn is none. -/
def ofRepetition (e : Blueprint) (least : Nat) (most : Option Nat) (greedy : Bool) : Blueprint :=
  let (least, most) :=
    if e.isStill then (min least 1, some (min (most.getD 1) 1)) else (least, most)
  if most = some 0 then .nothing
  else if least = 1 ∧ most = some 1 then e
  else .repetition e least most greedy

/-- The parts of a sequence; anything else is its own only part. -/
def parts : Blueprint → List Blueprint
  | .nothing => []
  | .sequence es => es
  | e => [e]

/-- Joins words that follow each other. -/
def joinWords : List Blueprint → List Blueprint
  | [] => []
  | e :: rest =>
    match e, joinWords rest with
    | .word cs, .word ds :: more => .word (cs ++ ds) :: more
    | e, more => e :: more

def ofParts (es : List Blueprint) : Blueprint :=
  match joinWords (es.flatMap parts) with
  | [] => .nothing
  | [e] => e
  | es => .sequence es

/-- The branches of an alternation; anything else is its own only branch. -/
def branches : Blueprint → List Blueprint
  | .alternation es => es
  | e => [e]

/-- The only character of a word. -/
def character? : Blueprint → Option Nat
  | .word [c] => some c
  | _ => none

def members? : Blueprint → Option ByteSet
  | .set s => some s
  | _ => none

def sequence? : Blueprint → Option (List Blueprint)
  | .sequence es => some es
  | _ => none

/-- The set of branches that are all characters, or all sets. -/
def joinBranches? (es : List Blueprint) : Option CharSet :=
  match es.mapM character?, es.mapM members? with
  | some cs, _ => some (CharSet.ofCodePoints cs)
  | none, some sets => some (CharSet.unions (sets.map ByteSet.toCharSet))
  | none, none => none

/-- What branches that are all sequences begin with alike, and what is left of each. -/
def splitBranches? (es : List Blueprint) : Option (List Blueprint × List (List Blueprint)) :=
  match es.mapM sequence? with
  | some (first :: rest) =>
    let shared := rest.foldl sharedParts first
    if shared.isEmpty then none
    else some (shared, (first :: rest).map fun es => es.drop shared.length)
  | _ => none

/-- An alternation; `fuel` bounds how often something may be put in front of it. -/
def ofBranchesWith (fuel : Nat) (es : List Blueprint) : Blueprint :=
  match es.flatMap branches with
  | [] => .set (ByteSet.ofRanges [])
  | [e] => e
  | es =>
    match joinBranches? es, splitBranches? es, fuel with
    | some s, _, _ => ofCharSet s
    | none, some (shared, tails), fuel + 1 =>
      ofParts (shared ++ [ofBranchesWith fuel (tails.map ofParts)])
    | none, _, _ => .alternation es

/-- An alternation.  Every time something is put in front of it, its branches get lighter. -/
def ofBranches (es : List Blueprint) : Blueprint := ofBranchesWith (weights es) es

end Blueprint

/-- The branches of an expression as blueprints; an alternation that is not in a group belongs to
the one around it. -/
def PatternExpression.branchBlueprints : PatternExpression → List Blueprint
  | .empty => [.nothing]
  | .step set => [Blueprint.ofCharSet set]
  | .look condition => [.look condition]
  | .sequence a b =>
    [Blueprint.ofParts [Blueprint.ofBranches (branchBlueprints a),
      Blueprint.ofBranches (branchBlueprints b)]]
  | .alternation a b => Blueprint.ofBranches (branchBlueprints a) :: branchBlueprints b
  | .repetition e least most greedy =>
    [Blueprint.ofRepetition (Blueprint.ofBranches (branchBlueprints e)) least most greedy]
  | .group remembered e =>
    let inner := Blueprint.ofBranches (branchBlueprints e)
    [if remembered then .group inner else inner]

/-- The blueprint of an expression. -/
def PatternExpression.blueprint (e : PatternExpression) : Blueprint :=
  Blueprint.ofBranches e.branchBlueprints

end MetricScraper.Pattern
