/-!
# White space

The characters of the Unicode `White_Space` property, and trimming a text by them.
-/

namespace MetricScraper.Text

/-- Membership in the Unicode `White_Space` property. -/
def isBlank (c : Char) : Bool :=
  let n := c.toNat
  (9 ≤ n && n ≤ 13) || n == 0x20 || n == 0x85 || n == 0xA0 || n == 0x1680 ||
    (0x2000 ≤ n && n ≤ 0x200A) || n == 0x2028 || n == 0x2029 || n == 0x202F ||
    n == 0x205F || n == 0x3000

theorem isBlank_comma : isBlank ',' = false := by decide

/-! ### Trimming -/

/-- The text without the blank characters before its last other one. -/
def trimEnd (cs : List Char) : List Char := (cs.reverse.dropWhile isBlank).reverse

/-- The text without leading and trailing blank characters. -/
def trim (cs : List Char) : List Char := trimEnd (cs.dropWhile isBlank)

theorem trim_nil : trim [] = [] := rfl

theorem trim_cons_blank {c : Char} (h : isBlank c = true) (cs : List Char) :
    trim (c :: cs) = trim cs := by
  simp only [trim, List.dropWhile_cons, h, if_true]

end MetricScraper.Text
