/-!
# Attribute tables of disks

A disk reports its attributes as a table of slots of twelve bytes: a flag, a byte that must be
zero, the attribute id at offset 3, the normalized value at 6, the worst one at 7, and up to five
bytes of raw value from 8 on.
-/

namespace MetricScraper.Disk

/-- The length of a slot. -/
def slotLength : Nat := 12

/-- The number of bytes kept of a raw value. -/
def rawLength : Nat := 5

/-- A decoded attribute. -/
structure Attribute where
  id : UInt8
  normalized : UInt8
  worst : UInt8
  /-- The raw value, of the bytes that the id defines. -/
  raw : UInt64
  /-- All raw bytes, zero where there are none. -/
  rawBytes : List UInt8
  deriving DecidableEq, Repr, Inhabited

/-- A slot that was passed over because its second byte is not zero. -/
structure UnexpectedFlag where
  offset : Nat
  value : UInt8
  deriving DecidableEq, Repr, Inhabited

def UnexpectedFlag.message (s : UnexpectedFlag) : String :=
  "unexpected flag " ++ toString s.value.toNat ++ " in attribute record at offset " ++
    toString s.offset

/-- What a table holds: its attributes and the slots passed over, both in table order. -/
structure Decoded where
  attributes : List Attribute
  skipped : List UnexpectedFlag
  deriving DecidableEq, Repr, Inhabited

/-- The number of raw bytes that an attribute id defines. -/
def rawWidth (id : UInt8) : Nat :=
  if id = 4 ∨ id = 9 ∨ id = 193 ∨ id = 195 ∨ id = 200 ∨ id = 225 ∨ id = 241 ∨ id = 242 ∨ id = 246
  then 5
  else if id = 194 then 1
  else 2

theorem rawWidth_le (id : UInt8) : rawWidth id ≤ rawLength := by
  simp only [rawWidth, rawLength]
  split
  · omega
  · split <;> omega

/-- The number that bytes write, the least significant first. -/
def littleEndian (bytes : List UInt8) : UInt64 :=
  bytes.foldr (fun b n => n * 256 + b.toUInt64) 0

/-- What one slot contributes. -/
inductive Slot where
  | attribute (a : Attribute)
  | skipped (s : UnexpectedFlag)
  | inactive
  deriving DecidableEq, Repr, Inhabited

/-- The attribute of an active slot that starts `bytes`, whatever follows the slot. -/
def attributeOf (bytes : List UInt8) : Attribute :=
  let byte (i : Nat) : UInt8 := bytes.getD i 0
  let id := byte 3
  let rawBytes := (List.range rawLength).map fun i => byte (8 + i)
  ⟨id, byte 6, byte 7, littleEndian (rawBytes.take (rawWidth id)), rawBytes⟩

/-- Whether a slot with this flag is in use: the flag of the first slot may say so by 16. -/
def isActive (offset : Nat) (flag : UInt8) : Bool := flag = 0 || (flag = 16 && offset = 0)

/-- The slot at the start of `bytes`, which lies `offset` bytes into the table. -/
def slotAt (offset : Nat) (bytes : List UInt8) : Slot :=
  let check := bytes.getD 1 0
  if isActive offset (bytes.getD 0 0) then
    if check ≠ 0 then .skipped ⟨offset, check⟩
    else if bytes.getD 3 0 = 0 then .inactive
    else .attribute (attributeOf bytes)
  else .inactive

/-- The slots of a table from `offset` on; a partial slot at the end is none. -/
def slotsFrom (offset : Nat) (bytes : List UInt8) : List Slot :=
  if bytes.length < slotLength then []
  else slotAt offset bytes :: slotsFrom (offset + slotLength) (bytes.drop slotLength)
termination_by bytes.length
decreasing_by
  simp only [List.length_drop, slotLength] at *
  omega

def Slot.attribute? : Slot → Option Attribute
  | .attribute a => some a
  | _ => none

def Slot.skipped? : Slot → Option UnexpectedFlag
  | .skipped s => some s
  | _ => none

/-- Decodes an attribute table. -/
def decode (bytes : List UInt8) : Decoded :=
  let slots := slotsFrom 0 bytes
  ⟨slots.filterMap Slot.attribute?, slots.filterMap Slot.skipped?⟩

/-- The number of bytes of a slot that is in use but cut off by the end of the table. -/
def cutOff (bytes : List UInt8) : Nat :=
  let offset := bytes.length / slotLength * slotLength
  match bytes.drop offset with
  | [] => 0
  | flag :: rest => if isActive offset flag then rest.length + 1 else 0

end MetricScraper.Disk
