import MetricScraper.Pattern.Syntax
import MetricScraper.Text.Blank
import MetricScraper.Unicode.Classes

/-!
# Reading patterns

Reads the text of a pattern into its tree, or refuses it.  Every step of a reader consumes a
character, so the length of the text bounds the number of steps.
-/

namespace MetricScraper.Pattern

/-- What is left to read, and what has been met so far. -/
structure Cursor where
  rest : List Char
  /-- Whether white space and comments are passed over. -/
  ignoreBlanks : Bool
  /-- The names given to groups. -/
  names : List (List Char)
  deriving Inhabited

/-! ### Moving on -/

/-- The text after white space and comments; a comment runs from a number sign to the end of its
line. -/
def dropBlanks : Bool → List Char → List Char
  | _, [] => []
  | true, c :: cs => dropBlanks (c ≠ '\n') cs
  | false, c :: cs =>
    if Text.isBlank c then dropBlanks false cs
    else if c = '#' then dropBlanks true cs
    else c :: cs

namespace Cursor

/-- Passes over white space and comments where they do not count. -/
def skipBlanks (s : Cursor) : Cursor :=
  if s.ignoreBlanks then { s with rest := dropBlanks false s.rest } else s

/-- Passes over one character. -/
def bump (s : Cursor) : Cursor := { s with rest := s.rest.tail }

/-- Passes over one character and the blanks after it. -/
def bumpBlanks (s : Cursor) : Cursor := s.bump.skipBlanks

def atEnd (s : Cursor) : Bool := s.rest.isEmpty

def head (s : Cursor) : Option Char := s.rest.head?

/-- The character after the next one. -/
def peek (s : Cursor) : Option Char := s.bump.head

/-- The first character after the next one that is no blank; of a comment, it is the first one
after the number sign. -/
def peekBlanks (s : Cursor) : Option Char :=
  if s.ignoreBlanks then
    match s.bump.rest.dropWhile Text.isBlank with
    | '#' :: comment => (comment.dropWhile Text.isBlank).head?
    | rest => rest.head?
  else s.peek

/-- Passes over a fixed text, if it comes next. -/
def take? (s : Cursor) (text : String) : Option Cursor :=
  if text.toList.isPrefixOf s.rest then some { s with rest := s.rest.drop text.length } else none

def withRest (s : Cursor) (rest : List Char) : Cursor := { s with rest := rest }

end Cursor

/-! ### Numbers -/

/-- The number of hexadecimal digits, if it is that of a character. -/
def charOfHex? (digits : List Nat) : Option Char :=
  let n := digits.foldl (fun n d => n * 16 + d) 0
  if n.isValidChar then some (Char.ofNat n) else none

/-- Reads exactly `n` hexadecimal digits. -/
def readHexDigits : Nat → Cursor → Option (List Nat × Cursor)
  | 0, s => some ([], s)
  | n + 1, s => do
    let c ← s.head
    let d ← Unicode.CharSet.hexDigit? c
    let (ds, s) ← readHexDigits n s.bumpBlanks
    some (d :: ds, s)

/-- Reads hexadecimal digits up to a closing brace, which it leaves. -/
def readHexBraces : Nat → Cursor → Option (List Nat × Cursor)
  | 0, _ => none
  | fuel + 1, s => do
    let c ← s.head
    if c = '\x7d' then some ([], s)
    else
      let d ← Unicode.CharSet.hexDigit? c
      let (ds, s) ← readHexBraces fuel s.bumpBlanks
      some (d :: ds, s)

/-- Reads a character by its number, after the letter `x`, `u` or `U`: with as many digits as the
letter says, or any number of them in braces. -/
def readHex (s : Cursor) : Option ((Char × Bool) × Cursor) := do
  let kind ← s.head
  let width := if kind = 'x' then 2 else if kind = 'u' then 4 else 8
  let s := s.bumpBlanks
  if s.head = some '\x7b' then
    let s := s.bumpBlanks
    let (ds, s) ← readHexBraces (s.rest.length + 1) s
    if ds.isEmpty then none
    else
      let c ← charOfHex? ds
      some ((c, false), s.bumpBlanks)
  else
    let (ds, s) ← readHexDigits width s
    let c ← charOfHex? ds
    some ((c, kind = 'x'), s)

/-- Reads the decimal digits of a count, with blanks between them where they do not count. -/
def readCountDigits : Nat → Cursor → List Char × Cursor
  | 0, s => ([], s)
  | fuel + 1, s =>
    match s.head with
    | some c =>
      if '0' ≤ c ∧ c ≤ '9' then
        let (ds, s) := readCountDigits fuel s.bumpBlanks
        (c :: ds, s)
      else ([], s)
    | none => ([], s)

/-- Passes over white space. -/
def skipWhite (s : Cursor) : Cursor := s.withRest (s.rest.dropWhile Text.isBlank)

/-- Reads a count, with white space around it; a count has 32 bits. -/
def readCount (s : Cursor) : Option Nat × Cursor :=
  let s := skipWhite s
  let (ds, s) := readCountDigits (s.rest.length + 1) s
  let s := (skipWhite s).skipBlanks
  let n := ds.foldl (fun n c => n * 10 + (c.toNat - '0'.toNat)) 0
  (if ds.isEmpty || n ≥ 0x100000000 then none else some n, s)

/-! ### Classes by name -/

/-- Reads the name of a property up to a closing brace, which it leaves. -/
def readPropertyName : Nat → Cursor → Option (List Char × Cursor)
  | 0, _ => none
  | fuel + 1, s => do
    let c ← s.head
    if c = '\x7d' then some ([], s)
    else
      let (cs, s) ← readPropertyName fuel s.bumpBlanks
      some (c :: cs, s)

/-- Splits a text at the first place where `sep` stands. -/
def splitAtText (sep : List Char) : List Char → Option (List Char × List Char)
  | [] => none
  | c :: cs =>
    if sep.isPrefixOf (c :: cs) then some ([], (c :: cs).drop sep.length)
    else (splitAtText sep cs).map fun (before, after) => (c :: before, after)

/-- The request that the text in braces makes, and whether it is turned around by `!=`. -/
def propertyQuery (name : List Char) : PropertyQuery × Bool :=
  match splitAtText ['!', '='] name with
  | some (n, v) => (.valued n v, true)
  | none =>
    match splitAtText [':'] name with
    | some (n, v) => (.valued n v, false)
    | none =>
      match splitAtText ['='] name with
      | some (n, v) => (.valued n v, false)
      | none => (.named name, false)

/-- Reads a property class, after the backslash; a capital letter negates it. -/
def readProperty (s : Cursor) : Option ((PropertyQuery × Bool) × Cursor) := do
  let letter ← s.head
  let negated : Bool := letter = 'P'
  let s := s.bumpBlanks
  let c ← s.head
  if c = '\x7b' then
    let s := s.bumpBlanks
    let (name, s) ← readPropertyName (s.rest.length + 1) s
    let (query, opposite) := propertyQuery name
    some ((query, negated != opposite), s.bump)
  else if c = '\\' then none
  else some ((.named [c], negated), s.bumpBlanks)

/-! ### Escapes -/

/-- A single item: what stands alone in a pattern or in brackets. -/
inductive Item where
  | literal (c : Char) (byte : Bool)
  | dot
  | assertion (kind : Assertion)
  | short (kind : ShortClass) (negated : Bool)
  | property (query : PropertyQuery) (negated : Bool)
  deriving DecidableEq, Repr, Inhabited

/-- Characters that mean something in a pattern. -/
def isMeta (c : Char) : Bool :=
  ['\\', '.', '+', '*', '?', '(', ')', '|', '[', ']', '\x7b', '\x7d', '^', '$', '#', '&', '-',
    '~'].contains c

/-- Characters that a backslash may stand before without changing them. -/
def isEscapable (c : Char) : Bool :=
  isMeta c || (c.toNat < 0x80 && !c.isAlphanum && c ≠ '<' && c ≠ '>')

/-- Letters and hyphens make up the name of a word boundary. -/
def isBoundaryChar (c : Char) : Bool := c.isAlpha || c = '-'

/-- Reads the name of a word boundary. -/
def readBoundaryName : Nat → Cursor → List Char × Cursor
  | 0, s => ([], s)
  | fuel + 1, s =>
    match s.head with
    | some c =>
      if isBoundaryChar c then
        let (cs, s) := readBoundaryName fuel s.bumpBlanks
        (c :: cs, s)
      else ([], s)
    | none => ([], s)

/-- Reads what follows a word boundary: its name in braces, or something else. -/
def readBoundary (s : Cursor) : Option (Assertion × Cursor) :=
  if s.head ≠ some '\x7b' then some (.wordBoundary, s)
  else
    let inner := s.bumpBlanks
    match inner.head with
    | none => none
    | some c =>
      if !isBoundaryChar c then some (.wordBoundary, s)
      else
        let (name, s) := readBoundaryName (inner.rest.length + 1) inner
        if s.head ≠ some '\x7d' then none
        else
          match String.ofList name with
          | "start" => some (.wordStart, s.bump)
          | "end" => some (.wordEnd, s.bump)
          | "start-half" => some (.wordStartHalf, s.bump)
          | "end-half" => some (.wordEndHalf, s.bump)
          | _ => none

/-- Reads what follows a backslash. -/
def readEscape (s : Cursor) : Option (Item × Cursor) := do
  let c ← s.head
  if c.isDigit then none
  else if c = 'x' ∨ c = 'u' ∨ c = 'U' then
    let ((c, byte), s) ← readHex s
    some (.literal c byte, s)
  else if c = 'p' ∨ c = 'P' then
    let ((query, negated), s) ← readProperty s
    some (.property query negated, s)
  else
    let s := s.bump
    match c with
    | 'd' => some (.short .digit false, s)
    | 'D' => some (.short .digit true, s)
    | 's' => some (.short .space false, s)
    | 'S' => some (.short .space true, s)
    | 'w' => some (.short .word false, s)
    | 'W' => some (.short .word true, s)
    | 'a' => some (.literal '\x07' false, s)
    | 'f' => some (.literal '\x0c' false, s)
    | 't' => some (.literal '\t' false, s)
    | 'n' => some (.literal '\n' false, s)
    | 'r' => some (.literal '\r' false, s)
    | 'v' => some (.literal '\x0b' false, s)
    | 'A' => some (.assertion .startText, s)
    | 'z' => some (.assertion .endText, s)
    | 'B' => some (.assertion .notWordBoundary, s)
    | '<' => some (.assertion .wordStart, s)
    | '>' => some (.assertion .wordEnd, s)
    | 'b' => do
      let (kind, s) ← readBoundary s
      some (.assertion kind, s)
    | _ => if isEscapable c then some (.literal c false, s) else none

/-- Reads an item outside of brackets. -/
def readItem (s : Cursor) : Option (Item × Cursor) := do
  let c ← s.head
  match c with
  | '\\' => readEscape s.bump
  | '.' => some (.dot, s.bump)
  | '^' => some (.assertion .startLine, s.bump)
  | '$' => some (.assertion .endLine, s.bump)
  | _ => some (.literal c false, s.bump)

/-- Reads an item in brackets. -/
def readClassItem (s : Cursor) : Option (Item × Cursor) := do
  let c ← s.head
  if c = '\\' then readEscape s.bump else some (.literal c false, s.bump)

/-! ### Brackets -/

def namedClass? (name : List Char) : Option NamedClass :=
  match String.ofList name with
  | "alnum" => some .alnum
  | "alpha" => some .alpha
  | "ascii" => some .ascii
  | "blank" => some .blank
  | "cntrl" => some .cntrl
  | "digit" => some .digit
  | "graph" => some .graph
  | "lower" => some .lower
  | "print" => some .print
  | "punct" => some .punct
  | "space" => some .space
  | "upper" => some .upper
  | "word" => some .word
  | "xdigit" => some .xdigit
  | _ => none

/-- Reads a named class such as `[:alpha:]`; anything else is left alone. -/
def readNamedClass (s : Cursor) : Option (ClassSet × Cursor) := do
  let s ← s.take? "[:"
  let (negated, s) := if s.head = some '^' then (true, s.bump) else (false, s)
  let name := s.rest.takeWhile fun c => c ≠ ':'
  let s ← (s.withRest (s.rest.dropWhile fun c => c ≠ ':')).take? ":]"
  let kind ← namedClass? name
  some (.named kind negated, s)

def Item.toClassSet : Item → Option ClassSet
  | .literal c byte => some (.literal c byte)
  | .short kind negated => some (.short kind negated)
  | .property query negated => some (.property query negated)
  | _ => none

def Item.toLiteral : Item → Option (Char × Bool)
  | .literal c byte => some (c, byte)
  | _ => none

/-- Reads a member of a class: an item, or a range of two characters. -/
def readClassRange (s : Cursor) : Option (ClassSet × Cursor) := do
  let (first, s) ← readClassItem s
  let s := s.skipBlanks
  let c ← s.head
  let next := s.peekBlanks
  if c ≠ '-' ∨ next = some ']' ∨ next = some '-' then
    let set ← first.toClassSet
    some (set, s)
  else
    let (second, s) ← readClassItem s.bumpBlanks
    let (lo, loByte) ← first.toLiteral
    let (hi, hiByte) ← second.toLiteral
    if hi < lo then none else some (.range lo loByte hi hiByte, s)

/-- Reads the hyphens that stand for themselves at the start of a class. -/
def readHyphens : Nat → Cursor → List (Nested ClassSet) × Cursor
  | 0, s => ([], s)
  | fuel + 1, s =>
    if s.head = some '-' then
      let (items, s) := readHyphens fuel s.bumpBlanks
      (Nested.flat (.literal '-' false) :: items, s)
    else ([], s)

/-- Reads the start of a class, after the bracket: whether it is negated, and the members that
stand for themselves only there. -/
def readClassStart (s : Cursor) : Option ((Bool × List (Nested ClassSet)) × Cursor) :=
  let (negated, s) := if s.head = some '^' then (true, s.bumpBlanks) else (false, s)
  let (items, s) := readHyphens (s.rest.length + 1) s
  let (items, s) :=
    if items.isEmpty && s.head = some ']' then
      ([Nested.flat (.literal ']' false)], s.bumpBlanks)
    else (items, s)
  if s.atEnd then none else some ((negated, items), s)

/-- The members of a class, the latest first, as one set. -/
def joinMembers (members : List (Nested ClassSet)) : Nested ClassSet :=
  Nested.join .empty .union members.reverse

/-- Applies an operator that waits for its second operand. -/
def applyPending (pending : Option (SetOperator × Nested ClassSet))
    (second : Nested ClassSet) : Nested ClassSet :=
  match pending with
  | none => second
  | some (op, first) =>
    ⟨.operation op first.tree second.tree, max first.depth second.depth + 1⟩

/-- The operator that comes next, if one does. -/
def setOperator? (s : Cursor) : Option (SetOperator × Cursor) :=
  match s.take? "&&", s.take? "--", s.take? "~~" with
  | some s, _, _ => some (.intersection, s)
  | _, some s, _ => some (.difference, s)
  | _, _, some s => some (.symmetricDifference, s)
  | none, none, none => none

/-- Reads the members of a class up to and with its closing bracket.  `members` are those read
since the last operator, the latest first. -/
def readClassMembers (fuel : Nat) (members : List (Nested ClassSet))
    (pending : Option (SetOperator × Nested ClassSet)) (s : Cursor) :
    Option (Nested ClassSet × Cursor) :=
  match fuel with
  | 0 => none
  | fuel + 1 =>
    let s := s.skipBlanks
    match s.head with
    | none => none
    | some '[' =>
      match readNamedClass s with
      | some (set, s) => readClassMembers fuel (Nested.flat set :: members) pending s
      | none => do
        let ((negated, items), s) ← readClassStart s.bumpBlanks
        let (inner, s) ← readClassMembers fuel items.reverse none s
        let nested := inner.around fun set => .bracketed set negated
        readClassMembers fuel (nested :: members) pending s
    | some ']' => some (applyPending pending (joinMembers members), s.bump)
    | some _ =>
      match setOperator? s with
      | some (op, s) =>
        readClassMembers fuel [] (some (op, applyPending pending (joinMembers members))) s
      | none => do
        let (set, s) ← readClassRange s
        readClassMembers fuel (Nested.flat set :: members) pending s

/-- Reads a class in brackets. -/
def readClass (s : Cursor) : Option (Nested Tree × Cursor) := do
  let ((negated, items), s) ← readClassStart s.bumpBlanks
  let (inner, s) ← readClassMembers (s.rest.length + 1) items.reverse none s
  some (inner.around fun set => .bracketed set negated, s)

/-! ### Groups -/

def flag? (c : Char) : Option Flag :=
  match c with
  | 'i' => some .caseInsensitive
  | 'm' => some .multiLine
  | 's' => some .dotMatchesLineFeed
  | 'U' => some .swapGreed
  | 'u' => some .unicode
  | 'R' => some .crlf
  | 'x' => some .ignoreBlanks
  | _ => none

/-- Reads flags up to the colon or parenthesis that ends them, which it leaves; no flag comes
twice, and a hyphen is followed by a flag. -/
def readFlags : Nat → List FlagItem → Cursor → Option (List FlagItem × Cursor)
  | 0, _, _ => none
  | fuel + 1, items, s => do
    let c ← s.head
    if c = ':' ∨ c = ')' then
      if items.head? = some .negation then none else some (items.reverse, s)
    else
      let item ← if c = '-' then some FlagItem.negation else (flag? c).map FlagItem.flag
      if items.contains item then none else readFlags fuel (item :: items) s.bump

/-- Whether a character may stand in the name of a group. -/
def isNameChar (first : Bool) (c : Char) : Bool :=
  if first then c = '_' || Unicode.alphabeticSet.contains c
  else c = '_' || c = '.' || c = '[' || c = ']' || Unicode.alphanumericSet.contains c

/-- Reads the name of a group and the bracket after it. -/
def readGroupName (s : Cursor) : Option Cursor :=
  let name := s.rest.takeWhile fun c => c ≠ '>'
  let after := s.rest.dropWhile fun c => c ≠ '>'
  match name, after with
  | c :: cs, _ :: rest =>
    if isNameChar true c && cs.all (isNameChar false) && !s.names.contains name then
      some { s with rest := rest, names := name :: s.names }
    else none
  | _, _ => none

/-- What an opening parenthesis begins: flags for the rest of the group, or a group. -/
inductive Opening where
  | flags (items : List FlagItem)
  | group (capturing : Bool) (items : List FlagItem)

/-- Whether the text goes on with an assertion about what comes before or after. -/
def isLookAround (s : Cursor) : Bool :=
  ["?=", "?!", "?<=", "?<!"].any fun mark => mark.toList.isPrefixOf s.rest

/-- Reads what follows an opening parenthesis, up to the inside of the group. -/
def readOpening (s : Cursor) : Option (Opening × Cursor) :=
  let s := s.bump.skipBlanks
  if isLookAround s then none
  else
    match (s.take? "?P<").or (s.take? "?<") with
    | some s => (readGroupName s).map fun s => (.group true [], s)
    | none =>
      match s.take? "?" with
      | none => some (.group true [], s)
      | some s => do
        let (items, s) ← readFlags (s.rest.length + 1) [] s
        if s.head = some ')' then
          if items.isEmpty then none else some (.flags items, s.bump)
        else some (.group false items, s.bump)

/-! ### Repetitions -/

/-- What may be repeated: anything but nothing and a setting of flags. -/
def Tree.isRepeatable : Tree → Bool
  | .empty => false
  | .flags _ => false
  | _ => true

/-- Repeats the latest item. -/
def repeatLast (least : Nat) (most : Option Nat) (isLazy : Bool) (items : List (Nested Tree)) :
    Option (List (Nested Tree)) :=
  match items with
  | [] => none
  | item :: rest =>
    if item.tree.isRepeatable then
      some ((item.around fun t => .repetition t least most isLazy) :: rest)
    else none

/-- Reads the mark of a lazy repetition, if there is one. -/
def readLazyMark (s : Cursor) : Bool × Cursor :=
  if s.head = some '?' then (true, s.bump) else (false, s)

/-- Reads a counted repetition, with its braces: the least and the greatest count. -/
def readCounts (s : Cursor) : Option ((Nat × Option Nat) × Cursor) := do
  let s := s.bumpBlanks
  if s.atEnd then none
  let (least, s) := readCount s
  let c ← s.head
  let ((least, most), s) ← (
    if c = ',' then
      let s := s.bumpBlanks
      match s.head with
      | none => none
      | some '\x7d' => least.map fun n => ((n, none), s)
      | some _ =>
        let (most, s) := readCount s
        match least, most with
        | some n, some m => some ((n, some m), s)
        | _, _ => none
    else least.map fun n => ((n, some n), s) : Option ((Nat × Option Nat) × Cursor))
  if s.head ≠ some '\x7d' then none
  else if (most.getD least) < least then none
  else some ((least, most), s.bumpBlanks)

/-! ### Patterns -/

def Item.toTree : Item → Tree
  | .literal c byte => .literal c byte
  | .dot => .dot
  | .assertion kind => .assertion kind
  | .short kind negated => .short kind negated
  | .property query negated => .property query negated

/-- The items of a sequence, the latest first, as one tree. -/
def joinSequence (items : List (Nested Tree)) : Nested Tree :=
  Nested.join .empty .sequence items.reverse

/-- The branches of an alternation, the latest first, as one tree. -/
def joinBranches (branches : List (Nested Tree)) : Nested Tree :=
  Nested.join .empty .alternation branches.reverse

/-- Reads alternatives up to a closing parenthesis or the end, which it leaves.  `items` are those
of the current branch and `branches` the ones before it, the latest first. -/
def readBranches (fuel : Nat) (items branches : List (Nested Tree)) (s : Cursor) :
    Option (Nested Tree × Cursor) :=
  match fuel with
  | 0 => none
  | fuel + 1 =>
    let s := s.skipBlanks
    match s.head with
    | none => some (joinBranches (joinSequence items :: branches), s)
    | some ')' => some (joinBranches (joinSequence items :: branches), s)
    | some '|' => readBranches fuel [] (joinSequence items :: branches) s.bump
    | some '(' => do
      let (opening, inner) ← readOpening s
      match opening with
      | .flags set =>
        let ignore := (flagSetting? .ignoreBlanks true set).getD s.ignoreBlanks
        readBranches fuel (Nested.flat (.flags set) :: items) branches
          { inner with ignoreBlanks := ignore }
      | .group capturing set =>
        let ignore := (flagSetting? .ignoreBlanks true set).getD s.ignoreBlanks
        let (tree, after) ← readBranches fuel [] [] { inner with ignoreBlanks := ignore }
        if after.head ≠ some ')' then none
        else
          let group := tree.around fun t => .group capturing set t
          readBranches fuel (group :: items) branches
            { after.bump with ignoreBlanks := s.ignoreBlanks }
    | some '[' => do
      let (tree, s) ← readClass s
      readBranches fuel (tree :: items) branches s
    | some '?' => do
      let (isLazy, s) := readLazyMark s.bump
      let items ← repeatLast 0 (some 1) isLazy items
      readBranches fuel items branches s
    | some '*' => do
      let (isLazy, s) := readLazyMark s.bump
      let items ← repeatLast 0 none isLazy items
      readBranches fuel items branches s
    | some '+' => do
      let (isLazy, s) := readLazyMark s.bump
      let items ← repeatLast 1 none isLazy items
      readBranches fuel items branches s
    | some '\x7b' => do
      let ((least, most), s) ← readCounts s
      let (isLazy, s) := readLazyMark s
      let items ← repeatLast least most isLazy items
      readBranches fuel items branches s
    | some _ => do
      let (item, s) ← readItem s
      readBranches fuel (Nested.flat item.toTree :: items) branches s

/-- The deepest nesting that a pattern may have. -/
def nestingLimit : Nat := 250

/-- The tree of a pattern; `none` when the text is no pattern. -/
def Tree.ofText? (text : List Char) : Option Tree := do
  let (tree, s) ← readBranches (text.length + 1) [] [] ⟨text, false, []⟩
  if s.atEnd && tree.depth ≤ nestingLimit then some tree.tree else none

end MetricScraper.Pattern
