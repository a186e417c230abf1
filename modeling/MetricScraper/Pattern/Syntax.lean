/-!
# The syntax of patterns

What a pattern says, before its flags and character classes are worked out.
-/

namespace MetricScraper.Pattern

/-! ### Flags -/

/-- The switches of a pattern. -/
inductive Flag where
  | caseInsensitive
  | multiLine
  | dotMatchesLineFeed
  | swapGreed
  | unicode
  | crlf
  | ignoreBlanks
  deriving DecidableEq, Repr, Inhabited

/-- A part of a flag group: a switch, or the hyphen after which switches are turned off. -/
inductive FlagItem where
  | negation
  | flag (f : Flag)
  deriving DecidableEq, Repr, Inhabited

/-- The setting of a flag in a flag group, if the group has the flag. -/
def flagSetting? (f : Flag) : Bool → List FlagItem → Option Bool
  | _, [] => none
  | _, .negation :: rest => flagSetting? f false rest
  | enable, .flag g :: rest => if g = f then some enable else flagSetting? f enable rest

/-! ### Assertions -/

/-- A condition on a place between two characters. -/
inductive Assertion where
  /-- The caret: the start of the text, or of a line. -/
  | startLine
  /-- The dollar: the end of the text, or of a line. -/
  | endLine
  | startText
  | endText
  | wordBoundary
  | notWordBoundary
  | wordStart
  | wordEnd
  | wordStartHalf
  | wordEndHalf
  deriving DecidableEq, Repr, Inhabited

/-! ### Classes of characters -/

/-- The classes written with a backslash and a letter. -/
inductive ShortClass where
  | digit
  | space
  | word
  deriving DecidableEq, Repr, Inhabited

/-- The classes written in brackets and colons. -/
inductive NamedClass where
  | alnum
  | alpha
  | ascii
  | blank
  | cntrl
  | digit
  | graph
  | lower
  | print
  | punct
  | space
  | upper
  | word
  | xdigit
  deriving DecidableEq, Repr, Inhabited

/-- A request for a class by a Unicode property. -/
inductive PropertyQuery where
  /-- A property, category or script by its name. -/
  | named (name : List Char)
  /-- A value of a property. -/
  | valued (name value : List Char)
  deriving DecidableEq, Repr, Inhabited

/-- The operators between sets of characters. -/
inductive SetOperator where
  | intersection
  | difference
  | symmetricDifference
  deriving DecidableEq, Repr, Inhabited

/-- What stands in brackets. -/
inductive ClassSet where
  | empty
  /-- A character; `byte` when it is written as two hexadecimal digits. -/
  | literal (c : Char) (byte : Bool)
  | range (lo : Char) (loByte : Bool) (hi : Char) (hiByte : Bool)
  | named (kind : NamedClass) (negated : Bool)
  | short (kind : ShortClass) (negated : Bool)
  | property (query : PropertyQuery) (negated : Bool)
  | bracketed (inner : ClassSet) (negated : Bool)
  | union (first second : ClassSet)
  | operation (operator : SetOperator) (first second : ClassSet)
  deriving DecidableEq, Repr, Inhabited

/-! ### Patterns -/

/-- The tree of a pattern. -/
inductive Tree where
  | empty
  /-- A character; `byte` when it is written as two hexadecimal digits. -/
  | literal (c : Char) (byte : Bool)
  | dot
  | assertion (kind : Assertion)
  | short (kind : ShortClass) (negated : Bool)
  | property (query : PropertyQuery) (negated : Bool)
  | bracketed (inner : ClassSet) (negated : Bool)
  /-- Flags that hold for the rest of the group. -/
  | flags (items : List FlagItem)
  | group (capturing : Bool) (items : List FlagItem) (inner : Tree)
  /-- A repetition; it is lazy when a question mark follows it. -/
  | repetition (inner : Tree) (least : Nat) (most : Option Nat) (isLazy : Bool)
  | sequence (first second : Tree)
  | alternation (first second : Tree)
  deriving DecidableEq, Repr, Inhabited

/-- A tree and how deeply its groups, repetitions, sequences, alternations and brackets nest. -/
structure Nested (α : Type) where
  tree : α
  depth : Nat
  deriving Repr, Inhabited

namespace Nested

variable {α : Type}

/-- A tree that nests nothing. -/
def flat (tree : α) : Nested α := ⟨tree, 0⟩

/-- A tree around another one. -/
def around {β : Type} (n : Nested α) (f : α → β) : Nested β := ⟨f n.tree, n.depth + 1⟩

/-- The greatest depth in a list. -/
def maxDepth (items : List (Nested α)) : Nat := items.foldl (fun d item => max d item.depth) 0

/-- Joins a list with an operator: none is `unit`, one is itself, several nest a level deeper. -/
def join (unit : α) (op : α → α → α) (items : List (Nested α)) : Nested α :=
  match items with
  | [] => flat unit
  | [item] => item
  | first :: second :: rest =>
    let trees := (first :: second :: rest).map Nested.tree
    ⟨trees.dropLast.foldr op (trees.getLastD unit), maxDepth items + 1⟩

end Nested

end MetricScraper.Pattern
