import MetricScraper.Pattern.Match
import MetricScraper.Pattern.Reader
import MetricScraper.Pattern.Size

/-!
# Instance filters

A filter lets an instance through when its whole name matches one pattern and does not match
another.
-/

namespace MetricScraper

namespace Pattern

/-- The expression of a pattern, if it is one and its automaton is small enough. -/
def compile? (text : List Char) : Option PatternExpression := do
  let tree ← Tree.ofText? text
  let (e, _) ← tree.expression? Flags.initial
  if PatternExpression.isAffordable e then some e else none

/-- The pattern between the start and the end of a text. -/
def anchored (pattern : String) : List Char := "^(?:".toList ++ pattern.toList ++ ")$".toList

end Pattern

/-- The two patterns of a filter. -/
inductive FilterPart where
  | whitelist
  | blacklist
  deriving DecidableEq, Repr, Inhabited

def FilterPart.word : FilterPart → String
  | .whitelist => "whitelist"
  | .blacklist => "blacklist"

/-- A choice of instances by name. -/
structure InstanceFilter where
  whitelist : Pattern.PatternExpression
  blacklist : Pattern.PatternExpression

namespace InstanceFilter

/-- The filter of two patterns, or the part whose pattern does not compile. -/
def ofPatterns (whitelist blacklist : String) : Except FilterPart InstanceFilter :=
  match Pattern.compile? (Pattern.anchored whitelist) with
  | none => .error .whitelist
  | some w =>
    match Pattern.compile? (Pattern.anchored blacklist) with
    | none => .error .blacklist
    | some b => .ok ⟨w, b⟩

/-- Whether an instance passes the filter. -/
def admits (f : InstanceFilter) (name : String) : Bool :=
  Pattern.PatternExpression.isFoundIn f.whitelist name.toList &&
    !Pattern.PatternExpression.isFoundIn f.blacklist name.toList

end InstanceFilter

end MetricScraper
