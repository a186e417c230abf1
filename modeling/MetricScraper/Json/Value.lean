import MetricScraper.Decimal.Layout

/-!
# JSON values

Values with exact whole numbers where they fit in 64 bits, and their shortest text: no blanks, and
the members of an object in ascending order of their names.
-/

namespace MetricScraper.Json

inductive Number where
  | unsigned (n : UInt64)
  /-- A negative whole number that fits in 64 bits. -/
  | negative (magnitude : Nat)
  | float (x : Float)
  deriving DecidableEq, Inhabited

def Number.toFloat : Number → Float
  | .unsigned n => n.toFloat
  | .negative magnitude => -(UInt64.ofNat magnitude).toFloat
  | .float x => x

/-- A value whose objects have members of different names, in ascending order. -/
inductive Value where
  | null
  | bool (b : Bool)
  | number (n : Number)
  | string (s : String)
  | array (items : List Value)
  | object (members : List (String × Value))
  deriving Inhabited

/-- Adds a member to those of an object; it replaces one of the same name. -/
def insertMember {α : Type} (name : String) (value : α) :
    List (String × α) → List (String × α)
  | [] => [(name, value)]
  | (n, v) :: rest =>
    if name < n then (name, value) :: (n, v) :: rest
    else if name = n then (name, value) :: rest
    else (n, v) :: insertMember name value rest

/-- Members in ascending order of their names, each once; the last of a name counts. -/
def sortMembers {α : Type} (members : List (String × α)) : List (String × α) :=
  members.foldl (fun sorted m => insertMember m.1 m.2 sorted) []

/-! ### Text -/

/-- Floats are written positionally from five zeros after the point up to sixteen places. -/
def floatLayout : Decimal.Layout := ⟨-4, 16, true, true⟩

def Number.text : Number → List Char
  | .unsigned n => Decimal.digitChars n.toNat
  | .negative magnitude => '-' :: Decimal.digitChars magnitude
  | .float x => floatLayout.writeFloat x

/-- The two hexadecimal digits of a number below 256. -/
def twoDigits (n : Nat) : List Char :=
  let digit (d : Nat) : Char := Nat.digitChar d
  [digit (n / 16), digit (n % 16)]

def escapeChar (c : Char) : List Char :=
  if c = '"' then ['\\', '"']
  else if c = '\\' then ['\\', '\\']
  else if c = '\x08' then ['\\', 'b']
  else if c = '\x0c' then ['\\', 'f']
  else if c = '\n' then ['\\', 'n']
  else if c = '\r' then ['\\', 'r']
  else if c = '\t' then ['\\', 't']
  else if c.toNat < 0x20 then '\\' :: 'u' :: '0' :: '0' :: twoDigits c.toNat
  else [c]

def stringText (s : String) : List Char := '"' :: s.toList.flatMap escapeChar ++ ['"']

mutual

/-- The text of a value, without blanks. -/
def Value.text : Value → List Char
  | .null => "null".toList
  | .bool b => (if b then "true" else "false").toList
  | .number n => n.text
  | .string s => stringText s
  | .array [] => "[]".toList
  | .array (item :: rest) => '[' :: item.text ++ itemsText rest ++ [']']
  | .object [] => ['\x7b', '\x7d']
  | .object ((name, value) :: rest) =>
    '\x7b' :: stringText name ++ ':' :: value.text ++ membersText rest ++ ['\x7d']

def itemsText : List Value → List Char
  | [] => []
  | item :: rest => ',' :: item.text ++ itemsText rest

def membersText : List (String × Value) → List Char
  | [] => []
  | (name, value) :: rest =>
    ',' :: stringText name ++ ':' :: value.text ++ membersText rest

end

end MetricScraper.Json
