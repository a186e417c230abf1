import MetricScraper.Unicode.Classes

/-!
# Quoted text

How a message shows a text that it was given: in double quotes, with everything that could be
mistaken for something else, or not be seen at all, escaped.
-/

namespace MetricScraper.Text

/-- The hexadecimal digits of a number, without leading zeros. -/
def hexText (n : Nat) : List Char := Nat.toDigits 16 n

/-- Whether a character is shown by its number: it has no printed form, or joins the character
before it. -/
def isShownByNumber (c : Char) : Bool :=
  if 0x20 ≤ c.toNat && c.toNat < 0x7F then false
  else Unicode.unprintableSet.contains c || Unicode.extendingSet.contains c

/-- One character of a quoted text. -/
def quoteChar (c : Char) : List Char :=
  if c = '"' then ['\\', '"']
  else if c = '\\' then ['\\', '\\']
  else if c = '\n' then ['\\', 'n']
  else if c = '\r' then ['\\', 'r']
  else if c = '\t' then ['\\', 't']
  else if c.toNat = 0 then ['\\', '0']
  else if isShownByNumber c then '\\' :: 'u' :: '\x7b' :: hexText c.toNat ++ ['\x7d']
  else [c]

/-- A text in double quotes, with quotes, backslashes and unprintable characters escaped. -/
def quote (text : String) : String :=
  String.ofList ('"' :: text.toList.flatMap quoteChar ++ ['"'])

end MetricScraper.Text
