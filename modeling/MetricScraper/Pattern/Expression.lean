import MetricScraper.Pattern.Syntax
import MetricScraper.Unicode.Age
import MetricScraper.Unicode.Folding
import MetricScraper.Unicode.Script
import MetricScraper.Unicode.Segmentation
import MetricScraper.Unicode.Classes

/-!
# Expressions

The meaning of a pattern: which characters it goes through and what it asserts between them, with
the flags worked out and every class a set of characters.
-/

namespace MetricScraper.Pattern

/-! ### Expressions -/

/-- What an assertion asks of the characters around a place. -/
inductive Look where
  | start
  | end
  | startLine
  | endLine
  | startLineCrlf
  | endLineCrlf
  /-- A condition on the characters before and after that are word characters. -/
  | word (kind : Assertion) (unicode : Bool)
  deriving DecidableEq, Repr, Inhabited

/-- An expression over steps through one character, of type `σ`, and assertions, of type `τ`. -/
inductive Expression (σ τ : Type) where
  | empty
  | step (set : σ)
  | look (condition : τ)
  | sequence (first second : Expression σ τ)
  | alternation (first second : Expression σ τ)
  /-- A repetition; whether it is greedy has no say in what it goes through. -/
  | repetition (inner : Expression σ τ) (least : Nat) (most : Option Nat) (greedy : Bool)
  /-- A group, remembered or not; it goes through what its inside goes through. -/
  | group (remembered : Bool) (inner : Expression σ τ)
  deriving Repr, Inhabited

/-- The expression with other steps and assertions. -/
def Expression.map {σ τ σ' τ' : Type} (f : σ → σ') (g : τ → τ') :
    Expression σ τ → Expression σ' τ'
  | .empty => .empty
  | .step set => .step (f set)
  | .look condition => .look (g condition)
  | .sequence a b => .sequence (a.map f g) (b.map f g)
  | .alternation a b => .alternation (a.map f g) (b.map f g)
  | .repetition e least most greedy => .repetition (e.map f g) least most greedy
  | .group remembered e => .group remembered (e.map f g)

/-! ### Flags -/

/-- The switches in force. -/
structure Flags where
  caseInsensitive : Bool
  multiLine : Bool
  dotMatchesLineFeed : Bool
  swapGreed : Bool
  unicode : Bool
  crlf : Bool
  deriving DecidableEq, Repr, Inhabited

/-- The switches at the start of a pattern. -/
def Flags.initial : Flags := ⟨false, false, false, false, true, false⟩

/-- The switches after a flag group. -/
def Flags.update (f : Flags) (items : List FlagItem) : Flags :=
  let setting (flag : Flag) (old : Bool) := (flagSetting? flag true items).getD old
  ⟨setting .caseInsensitive f.caseInsensitive, setting .multiLine f.multiLine,
    setting .dotMatchesLineFeed f.dotMatchesLineFeed, setting .swapGreed f.swapGreed,
    setting .unicode f.unicode, setting .crlf f.crlf⟩

/-! ### Properties by name -/

/-- A loose name: without regard to case, blanks, hyphens, underscores and a leading `is`. -/
def looseName (name : List Char) : String :=
  let lower := name.map Char.toLower
  let bare := if ['i', 's'].isPrefixOf lower then lower.drop 2 else lower
  let kept := bare.filter fun c =>
    c.toNat < 0x80 && c ≠ ' ' && c ≠ '_' && c ≠ '-'
  if kept = ['c'] && bare.length < lower.length then "isc" else String.ofList kept

/-- The set of a property, category or script.  Three names are both a category and a property
that is not a yes or no; the category is meant. -/
def classOfName? (name : List Char) : Option Unicode.CharSet :=
  let n := looseName name
  let binary := if n == "cf" || n == "sc" || n == "lc" then none else Unicode.propertyOfName? n
  (binary.or (Unicode.categoryOfName? n)).or (Unicode.scriptOfName? n)

/-- The set of the code points for which a property has a value. -/
def classOfValue? (name value : List Char) : Option Unicode.CharSet :=
  let v := looseName value
  match looseName name with
  | "generalcategory" => Unicode.categoryOfName? v
  | "gc" => Unicode.categoryOfName? v
  | "script" => Unicode.scriptOfName? v
  | "sc" => Unicode.scriptOfName? v
  | "scriptextensions" => Unicode.scriptExtensionOfName? v
  | "scx" => Unicode.scriptExtensionOfName? v
  | "age" => Unicode.ageOfName? v
  | "graphemeclusterbreak" => Unicode.graphemeBreakOfName? v
  | "gcb" => Unicode.graphemeBreakOfName? v
  | "wordbreak" => Unicode.wordBreakOfName? v
  | "wb" => Unicode.wordBreakOfName? v
  | "sentencebreak" => Unicode.sentenceBreakOfName? v
  | "sb" => Unicode.sentenceBreakOfName? v
  | _ => none

def PropertyQuery.set? : PropertyQuery → Option Unicode.CharSet
  | .named name => classOfName? name
  | .valued name value => classOfValue? name value

/-! ### Sets -/

open Unicode (CharSet)

/-- The characters of a class that is named in brackets and colons. -/
def NamedClass.set : NamedClass → CharSet
  | .alnum => CharSet.ofText "30-39 41-5A 61-7A"
  | .alpha => CharSet.ofText "41-5A 61-7A"
  | .ascii => CharSet.ofText "0-7F"
  | .blank => CharSet.ofText "9 20"
  | .cntrl => CharSet.ofText "0-1F 7F"
  | .digit => CharSet.ofText "30-39"
  | .graph => CharSet.ofText "21-7E"
  | .lower => CharSet.ofText "61-7A"
  | .print => CharSet.ofText "20-7E"
  | .punct => CharSet.ofText "21-2F 3A-40 5B-60 7B-7E"
  | .space => CharSet.ofText "9-D 20"
  | .upper => CharSet.ofText "41-5A"
  | .word => CharSet.ofText "30-39 41-5A 5F 61-7A"
  | .xdigit => CharSet.ofText "30-39 41-46 61-66"

/-- The characters of a class that is written with a backslash. -/
def ShortClass.set (unicode : Bool) : ShortClass → CharSet
  | .digit => if unicode then Unicode.digitSet else NamedClass.digit.set
  | .space => if unicode then Unicode.blankSet else NamedClass.space.set
  | .word => if unicode then Unicode.wordSet else NamedClass.word.set

/-- The letters of ASCII in the other case. -/
def foldAscii (s : CharSet) : CharSet :=
  let upper := (CharSet.inter s NamedClass.upper.set).ranges.map fun r => (r.1 + 32, r.2 + 32)
  let lower := (CharSet.inter s NamedClass.lower.set).ranges.map fun r => (r.1 - 32, r.2 - 32)
  CharSet.union s (CharSet.ofRanges (upper ++ lower))

/-- The set with its case variants, if case does not count. -/
def Flags.fold (f : Flags) (s : CharSet) : CharSet :=
  if !f.caseInsensitive then s else if f.unicode then s.foldCase else foldAscii s

/-- The set or its complement; without Unicode only sets of ASCII characters are allowed, and
their complements are not. -/
def Flags.complementIf (f : Flags) (negated : Bool) (s : CharSet) : Option CharSet :=
  if !negated then some s else if f.unicode then some s.complement else none

def Flags.foldAndNegate (f : Flags) (negated : Bool) (s : CharSet) : Option CharSet :=
  f.complementIf negated (f.fold s)

/-- Whether a character may be written where Unicode is on or off: without it only ASCII ones, and
a character written by its byte is one only below 128. -/
def Flags.allows (f : Flags) (c : Char) : Bool := f.unicode || c.toNat < 0x80

def Flags.shortSet (f : Flags) (kind : ShortClass) (negated : Bool) : Option CharSet :=
  f.complementIf negated (kind.set f.unicode)

def Flags.propertySet (f : Flags) (query : PropertyQuery) (negated : Bool) : Option CharSet :=
  if f.unicode then query.set?.bind (f.foldAndNegate negated) else none

def SetOperator.apply : SetOperator → CharSet → CharSet → CharSet
  | .intersection => CharSet.inter
  | .difference => CharSet.diff
  | .symmetricDifference => CharSet.symmDiff

/-- The characters of what stands in brackets, before the outermost brackets fold and negate. -/
def ClassSet.set? (f : Flags) : ClassSet → Option CharSet
  | .empty => some CharSet.empty
  | .literal c _ => if f.allows c then some (CharSet.ofChar c) else none
  | .range lo _ hi _ =>
    if f.allows lo && f.allows hi then some (CharSet.range lo.toNat hi.toNat) else none
  | .named kind negated => f.foldAndNegate negated kind.set
  | .short kind negated => f.shortSet kind negated
  | .property query negated => f.propertySet query negated
  | .bracketed inner negated => (inner.set? f).bind (f.foldAndNegate negated)
  | .union a b => do
    let x ← a.set? f
    let y ← b.set? f
    some (CharSet.union x y)
  | .operation op a b => do
    let x ← a.set? f
    let y ← b.set? f
    some (op.apply (f.fold x) (f.fold y))

/-! ### From trees to expressions -/

/-- The expressions of patterns. -/
abbrev PatternExpression := Expression CharSet Look

/-- What an assertion asks for under the flags. -/
def Assertion.look (f : Flags) : Assertion → Look
  | .startLine => if !f.multiLine then .start else if f.crlf then .startLineCrlf else .startLine
  | .endLine => if !f.multiLine then .end else if f.crlf then .endLineCrlf else .endLine
  | .startText => .start
  | .endText => .end
  | kind => .word kind f.unicode

/-- The characters that a dot stands for. -/
def Flags.dotSet (f : Flags) : CharSet :=
  if f.dotMatchesLineFeed then CharSet.all
  else if f.crlf then CharSet.complement (CharSet.ofText "A D")
  else CharSet.complement (CharSet.single 0xA)

/-- The expression of a single character: case variants are taken in, and a character written by
its byte is one only below 128 where Unicode is off. -/
def Flags.literal? (f : Flags) (c : Char) (byte : Bool) : Option PatternExpression :=
  if !f.unicode && byte && 0x80 ≤ c.toNat then none
  else if !f.unicode && 0x80 ≤ c.toNat then some (.step (CharSet.ofChar c))
  else some (.step (f.fold (CharSet.ofChar c)))

/-- The expression of a tree, and the flags after it: flags set inside of a group hold up to its
end, through all branches that follow. -/
def Tree.expression? (f : Flags) : Tree → Option (PatternExpression × Flags)
  | .empty => some (.empty, f)
  | .literal c byte => (f.literal? c byte).map fun e => (e, f)
  | .dot => if f.unicode then some (.step f.dotSet, f) else none
  | .assertion kind => some (.look (kind.look f), f)
  | .short kind negated => (f.shortSet kind negated).map fun set => (.step set, f)
  | .property query negated => (f.propertySet query negated).map fun set => (.step set, f)
  | .bracketed inner negated =>
    ((inner.set? f).bind (f.foldAndNegate negated)).map fun set => (.step set, f)
  | .flags items => some (.empty, f.update items)
  | .group capturing items inner =>
    (inner.expression? (f.update items)).map fun (e, _) =>
      (.group capturing e, f)
  | .repetition inner least most isLazy =>
    (inner.expression? f).map fun (e, after) =>
      (.repetition e least most (isLazy == after.swapGreed), after)
  | .sequence first second => do
    let (a, f) ← first.expression? f
    let (b, f) ← second.expression? f
    some (.sequence a b, f)
  | .alternation first second => do
    let (a, f) ← first.expression? f
    let (b, f) ← second.expression? f
    some (.alternation a b, f)

end MetricScraper.Pattern
