import MetricScraper.Decimal.Layout

/-!
# Number formats

Whole numbers and all other numbers are written by a number format.  Nothing is asked of it but that
what it writes can stand behind a space at the end of a line: it is not empty, and has neither a
space nor a line feed in it.
-/

namespace MetricScraper

def isValueChar (c : Char) : Bool := c != ' ' && c != '\n'

/-- A text that reaches from a space up to the end of its line. -/
structure IsValueText (text : List Char) : Prop where
  ne_nil : text ≠ []
  all : text.all isValueChar = true

/-- How numbers are written. -/
structure NumberFormat where
  whole : Int → List Char
  float : Float → List Char
  isValueText_whole : ∀ n, IsValueText (whole n)
  isValueText_float : ∀ x, IsValueText (float x)

namespace Decimal

/-! ### Layouts -/

theorem all_digitChars (n : Nat) : (digitChars n).all isValueChar = true := by
  rw [List.all_eq_true]
  intro c hc
  have hdigit : c.isDigit = true := Nat.isDigit_of_mem_toDigits (by decide) (Nat.le_refl 10) hc
  have hspace : c ≠ ' ' := by
    rintro rfl
    exact absurd hdigit (by decide)
  have hfeed : c ≠ '\n' := by
    rintro rfl
    exact absurd hdigit (by decide)
  simp [isValueChar, hspace, hfeed]

theorem digitChars_ne_nil (n : Nat) : digitChars n ≠ [] := Nat.toDigits_ne_nil

theorem all_zeros (n : Nat) : (zeros n).all isValueChar = true := by
  rw [List.all_eq_true]
  intro c hc
  rw [List.eq_of_mem_replicate hc]
  decide

theorem all_take {cs : List Char} (h : cs.all isValueChar = true) (n : Nat) :
    (cs.take n).all isValueChar = true := by
  rw [List.all_eq_true] at h ⊢
  exact fun c hc => h c (List.mem_of_mem_take hc)

theorem all_drop {cs : List Char} (h : cs.all isValueChar = true) (n : Nat) :
    (cs.drop n).all isValueChar = true := by
  rw [List.all_eq_true] at h ⊢
  exact fun c hc => h c (List.mem_of_mem_drop hc)

/-- The digits of a mantissa have a point behind the first one, if there are others. -/
theorem all_mantissa {cs : List Char} (h : cs.all isValueChar = true) :
    (match cs with
      | [] => []
      | [c] => [c]
      | c :: cs => c :: '.' :: cs).all isValueChar = true := by
  have hpoint : isValueChar '.' = true := by decide
  split
  · rfl
  · exact h
  · rename_i c cs _
    rw [List.all_cons, Bool.and_eq_true] at h
    simp only [List.all_cons, h.1, hpoint, h.2, Bool.and_self]

theorem Layout.all_write (l : Layout) (d : Numeral) : (l.write d).all isValueChar = true := by
  have hds := all_digitChars d.digits
  have hmarks : ['.', '0', 'e', '-', '+'].all isValueChar = true := by decide
  simp only [List.all_cons, Bool.and_eq_true] at hmarks
  obtain ⟨hpoint, hzero, he, hminus, hplus, -⟩ := hmarks
  simp only [Layout.write]
  split
  · -- positional form
    split
    · have hsuffix : (if l.wholeSuffix then ['.', '0'] else []).all isValueChar = true := by
        split <;> simp [hpoint, hzero]
      simp only [List.all_append, hds, all_zeros, hsuffix, Bool.and_self]
    · split
      · simp only [List.all_append, List.all_cons, all_take hds, all_drop hds, hpoint,
          Bool.and_self]
      · simp only [List.all_append, List.all_cons, hds, all_zeros, hpoint, hzero, Bool.and_self]
  · -- exponent form
    have hsign : (if (↑(digitChars d.digits).length + d.exponent - 1 : Int) < 0 then ['-']
        else if l.plusSign then ['+'] else []).all isValueChar = true := by
      split
      · simp [hminus]
      · split <;> simp [hplus]
    have hmantissa := all_mantissa hds
    simp only [List.all_append, List.all_cons, he, hsign, all_digitChars, Bool.and_true]
    exact hmantissa

theorem Layout.write_ne_nil (l : Layout) (d : Numeral) : l.write d ≠ [] := by
  have hds := digitChars_ne_nil d.digits
  simp only [Layout.write]
  split
  · split
    · simp [hds]
    · split <;> simp
  · simp

theorem Layout.isValueText_writeFloat (l : Layout) (x : Float) : IsValueText (l.writeFloat x) := by
  have hsign : (if isNegative x then ['-'] else []).all isValueChar = true := by
    split <;> decide
  simp only [Layout.writeFloat]
  split
  · have hzero : ('0' :: if l.wholeSuffix then ['.', '0'] else []).all isValueChar = true := by
      split <;> decide
    constructor
    · simp
    · rw [List.all_append, hsign, hzero, Bool.and_self]
  · constructor
    · simp [l.write_ne_nil]
    · rw [List.all_append, hsign, l.all_write, Bool.and_self]

end Decimal

namespace NumberFormat
open Decimal

def wholeText (n : Int) : List Char := (if n < 0 then ['-'] else []) ++ digitChars n.natAbs

theorem isValueText_wholeText (n : Int) : IsValueText (wholeText n) := by
  have hsign : (if n < 0 then ['-'] else []).all isValueChar = true := by
    split <;> decide
  unfold wholeText
  constructor
  · simp [digitChars_ne_nil]
  · rw [List.all_append, hsign, all_digitChars, Bool.and_self]

/-- Positional up to twenty-one places before the point and five zeros after it. -/
def floatLayout : Layout := ⟨-5, 21, true, false⟩

/-- The digits of a whole number, and of any other the fewest that read back. -/
def shortest : NumberFormat where
  whole := wholeText
  float := floatLayout.writeFloat
  isValueText_whole := isValueText_wholeText
  isValueText_float := floatLayout.isValueText_writeFloat

end NumberFormat

end MetricScraper
