import Mathlib.Data.List.Forall2
import Mathlib.Data.Nat.Digits.Lemmas
import MetricScraper.Disk.AttributeTable

/-!
# What an attribute table holds

A table is read slot by slot.  Here the slots are found by number in the table as a whole: what
`decode` yields for a slot is said by the bytes at the slot's place and, for a fifth raw byte, by
the byte after it.
-/

namespace MetricScraper.Disk

variable {bytes : List UInt8} {k : Nat}

/-! ### Numbers -/

theorem ofDigits_lt (bytes : List UInt8) :
    Nat.ofDigits 256 (bytes.map UInt8.toNat) < 256 ^ bytes.length := by
  have h := Nat.ofDigits_lt_base_pow_length (b := 256) (l := bytes.map UInt8.toNat) (by omega) (by
    intro digit hdigit
    obtain ⟨b, -, rfl⟩ := List.mem_map.mp hdigit
    exact b.toNat_lt)
  rwa [List.length_map] at h

theorem toNat_littleEndian (h : bytes.length ≤ 8) :
    (littleEndian bytes).toNat = Nat.ofDigits 256 (bytes.map UInt8.toNat) := by
  induction bytes with
  | nil => rfl
  | cons b rest ih =>
    rw [List.length_cons] at h
    have hrest := ih (by omega)
    have hlt := ofDigits_lt rest
    have hpow : 256 ^ rest.length ≤ 256 ^ 7 := Nat.pow_le_pow_right (by omega) (by omega)
    have hb := b.toNat_lt
    have hcons : littleEndian (b :: rest) = littleEndian rest * 256 + b.toUInt64 := rfl
    rw [hcons, List.map_cons, Nat.ofDigits_cons, ← hrest]
    rw [← hrest] at hlt
    simp only [UInt64.toNat_add, UInt64.toNat_mul, UInt8.toNat_toUInt64, UInt64.reduceToNat]
    omega

/-! ### Slots by number -/

/-- The slot of this number. -/
def slotOf (bytes : List UInt8) (k : Nat) : Slot := slotAt (12 * k) (bytes.drop (12 * k))

theorem slotsFrom_eq (offset : Nat) (bytes : List UInt8) :
    slotsFrom offset bytes =
      (List.range (bytes.length / 12)).map fun k =>
        slotAt (offset + 12 * k) (bytes.drop (12 * k)) := by
  induction offset, bytes using slotsFrom.induct with
  | case1 offset bytes h =>
    rw [slotLength] at h
    rw [slotsFrom, slotLength, if_pos h, Nat.div_eq_of_lt h]
    rfl
  | case2 offset bytes h ih =>
    rw [slotLength] at h ih
    have hlen : bytes.length / 12 = (bytes.drop 12).length / 12 + 1 := by
      rw [List.length_drop]
      omega
    rw [slotsFrom, slotLength, if_neg h, ih, hlen, List.range_succ_eq_map, List.map_cons,
      List.map_map]
    congr 1
    refine List.map_congr_left fun k _ => ?_
    have hoffset : offset + 12 + 12 * k = offset + 12 * k.succ := by omega
    have hdrop : 12 + 12 * k = 12 * k.succ := by omega
    rw [Function.comp_apply, List.drop_drop, hoffset, hdrop]

theorem attributes_decode (bytes : List UInt8) :
    (decode bytes).attributes =
      (List.range (bytes.length / 12)).filterMap fun k => (slotOf bytes k).attribute? := by
  simp only [decode, slotsFrom_eq, List.filterMap_map, Nat.zero_add]
  rfl

theorem skipped_decode (bytes : List UInt8) :
    (decode bytes).skipped =
      (List.range (bytes.length / 12)).filterMap fun k => (slotOf bytes k).skipped? := by
  simp only [decode, slotsFrom_eq, List.filterMap_map, Nat.zero_add]
  rfl

/-! ### What the bytes say -/

/-- The slot of this number is whole and in use. -/
structure Active (bytes : List UInt8) (k : Nat) : Prop where
  whole : 12 * k + 12 ≤ bytes.length
  flag : bytes[12 * k]? = some 0 ∨ (bytes[12 * k]? = some 16 ∧ k = 0)

/-- The slot of this number is that of an attribute. -/
structure Holds (bytes : List UInt8) (k : Nat) : Prop extends Active bytes k where
  check : bytes[12 * k + 1]? = some 0
  id : bytes[12 * k + 3]? ≠ some 0

/-- The attribute in the slot of this number. -/
structure Recorded (bytes : List UInt8) (k : Nat) (a : Attribute) : Prop extends
    Holds bytes k where
  id_eq : bytes[12 * k + 3]? = some a.id
  normalized_eq : bytes[12 * k + 6]? = some a.normalized
  worst_eq : bytes[12 * k + 7]? = some a.worst
  rawBytes_eq : a.rawBytes = (List.range 5).map fun i => (bytes[12 * k + 8 + i]?).getD 0
  raw_eq : a.raw.toNat = Nat.ofDigits 256 ((a.rawBytes.take (rawWidth a.id)).map UInt8.toNat)

/-- The slot of this number is passed over. -/
structure PassedOver (bytes : List UInt8) (k : Nat) : Prop extends Active bytes k where
  check : bytes[12 * k + 1]? ≠ some 0

/-- The report of the slot of this number. -/
structure Reported (bytes : List UInt8) (k : Nat) (s : UnexpectedFlag) : Prop extends
    PassedOver bytes k where
  offset_eq : s.offset = 12 * k
  value_eq : bytes[12 * k + 1]? = some s.value

theorem getD_drop (bytes : List UInt8) (offset i : Nat) :
    (bytes.drop offset).getD i 0 = (bytes[offset + i]?).getD 0 := by
  rw [List.getD_eq_getElem?_getD, List.getElem?_drop]

theorem getElem?_eq_some_getD {i : Nat} (h : i < bytes.length) :
    bytes[i]? = some ((bytes[i]?).getD 0) := by
  rw [List.getElem?_eq_getElem h, Option.getD_some]

theorem active_iff (h : 12 * k + 12 ≤ bytes.length) :
    isActive (12 * k) ((bytes[12 * k]?).getD 0) = true ↔ Active bytes k := by
  have hflag : bytes[12 * k]? = some ((bytes[12 * k]?).getD 0) :=
    getElem?_eq_some_getD (by omega)
  generalize (bytes[12 * k]?).getD 0 = flag at hflag
  rw [isActive, Bool.or_eq_true, Bool.and_eq_true, decide_eq_true_iff, decide_eq_true_iff,
    decide_eq_true_iff]
  constructor
  · intro hact
    refine ⟨h, ?_⟩
    rw [hflag, Option.some.injEq, Option.some.injEq]
    exact hact.imp_right fun h16 => ⟨h16.1, by omega⟩
  · rintro ⟨-, hact⟩
    rw [hflag, Option.some.injEq, Option.some.injEq] at hact
    exact hact.imp_right fun h16 => ⟨h16.1, by omega⟩

theorem recorded_attributeOf (h : Holds bytes k) :
    Recorded bytes k (attributeOf (bytes.drop (12 * k))) := by
  have hlen := h.whole
  simp only [attributeOf, getD_drop, rawLength]
  refine { h with
    id_eq := getElem?_eq_some_getD (by omega)
    normalized_eq := getElem?_eq_some_getD (by omega)
    worst_eq := getElem?_eq_some_getD (by omega)
    rawBytes_eq := ?_
    raw_eq := toNat_littleEndian ?_ }
  · exact List.map_congr_left fun i _ => by rw [Nat.add_assoc]
  · rw [List.length_take, List.length_map, List.length_range]
    omega

/-- What a slot can be: its bytes say which of the three it is. -/
theorem slotOf_cases (h : 12 * k + 12 ≤ bytes.length) :
    (∃ a, Recorded bytes k a ∧ slotOf bytes k = .attribute a) ∨
      (∃ s, Reported bytes k s ∧ slotOf bytes k = .skipped s) ∨
        (¬ Holds bytes k ∧ ¬ PassedOver bytes k ∧ slotOf bytes k = .inactive) := by
  have hcheck : bytes[12 * k + 1]? = some ((bytes[12 * k + 1]?).getD 0) :=
    getElem?_eq_some_getD (by omega)
  have hid : bytes[12 * k + 3]? = some ((bytes[12 * k + 3]?).getD 0) :=
    getElem?_eq_some_getD (by omega)
  simp only [slotOf, slotAt, getD_drop, Nat.add_zero]
  split
  · rename_i hact
    rw [active_iff h] at hact
    split
    · rename_i hne
      have hpassed : PassedOver bytes k := by
        refine ⟨hact, ?_⟩
        rw [hcheck]
        exact fun heq => hne (Option.some.inj heq)
      exact Or.inr (Or.inl ⟨_, ⟨hpassed, rfl, hcheck⟩, rfl⟩)
    · rename_i hzero
      rw [ne_eq, not_not] at hzero
      rw [hzero] at hcheck
      split
      · rename_i hid0
        rw [hid0] at hid
        exact Or.inr (Or.inr ⟨fun hh => hh.id hid, fun hp => hp.check hcheck, rfl⟩)
      · rename_i hid0
        have hholds : Holds bytes k := by
          refine ⟨hact, hcheck, ?_⟩
          rw [hid]
          exact fun heq => hid0 (Option.some.inj heq)
        exact Or.inl ⟨_, recorded_attributeOf hholds, rfl⟩
  · rename_i hact
    rw [active_iff h] at hact
    exact Or.inr (Or.inr ⟨fun hh => hact hh.toActive, fun hp => hact hp.toActive, rfl⟩)

theorem Recorded.unique {a a' : Attribute} (h : Recorded bytes k a) (h' : Recorded bytes k a') :
    a = a' := by
  have hid : a.id = a'.id := Option.some.inj (h.id_eq.symm.trans h'.id_eq)
  have hnormalized : a.normalized = a'.normalized :=
    Option.some.inj (h.normalized_eq.symm.trans h'.normalized_eq)
  have hworst : a.worst = a'.worst := Option.some.inj (h.worst_eq.symm.trans h'.worst_eq)
  have hbytes : a.rawBytes = a'.rawBytes := h.rawBytes_eq.trans h'.rawBytes_eq.symm
  have hraw : a.raw = a'.raw := by
    rw [← UInt64.toNat_inj, h.raw_eq, h'.raw_eq, hid, hbytes]
  cases a
  cases a'
  simp_all only

theorem Reported.unique {s s' : UnexpectedFlag} (h : Reported bytes k s)
    (h' : Reported bytes k s') : s = s' := by
  have hoffset : s.offset = s'.offset := h.offset_eq.trans h'.offset_eq.symm
  have hvalue : s.value = s'.value := Option.some.inj (h.value_eq.symm.trans h'.value_eq)
  cases s
  cases s'
  simp_all only

theorem attribute?_eq_some_iff (h : 12 * k + 12 ≤ bytes.length) {a : Attribute} :
    (slotOf bytes k).attribute? = some a ↔ Recorded bytes k a := by
  rcases slotOf_cases h with ⟨a', ha', hslot⟩ | ⟨s, hs, hslot⟩ | ⟨hno, -, hslot⟩
  · rw [hslot, Slot.attribute?, Option.some.injEq]
    exact ⟨fun heq => heq ▸ ha', fun ha => ha'.unique ha⟩
  · rw [hslot]
    exact ⟨nofun, fun ha => absurd ha.check hs.toPassedOver.check⟩
  · rw [hslot]
    exact ⟨nofun, fun ha => absurd ha.toHolds hno⟩

theorem skipped?_eq_some_iff (h : 12 * k + 12 ≤ bytes.length) {s : UnexpectedFlag} :
    (slotOf bytes k).skipped? = some s ↔ Reported bytes k s := by
  rcases slotOf_cases h with ⟨a, ha, hslot⟩ | ⟨s', hs', hslot⟩ | ⟨-, hno, hslot⟩
  · rw [hslot]
    exact ⟨nofun, fun hs => absurd ha.toHolds.check hs.toPassedOver.check⟩
  · rw [hslot, Slot.skipped?, Option.some.injEq]
    exact ⟨fun heq => heq ▸ hs', fun hs => hs'.unique hs⟩
  · rw [hslot]
    exact ⟨nofun, fun hs => absurd hs.toPassedOver hno⟩

theorem exists_recorded_iff : (∃ a, Recorded bytes k a) ↔ Holds bytes k :=
  ⟨fun ⟨_, h⟩ => h.toHolds, fun h => ⟨_, recorded_attributeOf h⟩⟩

theorem exists_reported_iff : (∃ s, Reported bytes k s) ↔ PassedOver bytes k := by
  constructor
  · rintro ⟨s, hs⟩
    exact hs.toPassedOver
  · intro h
    have hlen := h.whole
    exact ⟨⟨12 * k, _⟩, h, rfl, getElem?_eq_some_getD (by omega)⟩

/-! ### Slots in order -/

theorem forall₂_filterMap {α β : Type} {f : α → Option β} {R : α → β → Prop} {l : List α}
    (h : ∀ x ∈ l, ∀ y, f x = some y → R x y) :
    List.Forall₂ R (l.filter fun x => (f x).isSome) (l.filterMap f) := by
  induction l with
  | nil => exact .nil
  | cons x l ih =>
    have hrest := ih fun x' hx' => h x' (List.mem_cons_of_mem _ hx')
    cases hx : f x with
    | none => simpa [hx] using hrest
    | some y => simpa [hx] using ⟨h x List.mem_cons_self y hx, hrest⟩

/-- The slots that yield something of a kind, in ascending order, each with what it yields. -/
theorem exists_slots {β : Type} {f : Nat → Option β} {R : Nat → β → Prop}
    (hf : ∀ {k}, 12 * k + 12 ≤ bytes.length → ∀ {y}, f k = some y ↔ R k y)
    (hR : ∀ {k y}, R k y → 12 * k + 12 ≤ bytes.length) :
    ∃ ks : List Nat, ks.Pairwise (· < ·) ∧ (∀ k, k ∈ ks ↔ ∃ y, R k y) ∧
      List.Forall₂ R ks ((List.range (bytes.length / 12)).filterMap f) := by
  have hrange : ∀ {k}, k ∈ List.range (bytes.length / 12) ↔ 12 * k + 12 ≤ bytes.length := by
    intro k
    rw [List.mem_range]
    omega
  refine ⟨_, List.pairwise_lt_range.filter _, ?_, forall₂_filterMap ?_⟩
  · intro k
    rw [List.mem_filter, hrange, Option.isSome_iff_exists]
    constructor
    · rintro ⟨hk, y, hy⟩
      exact ⟨y, (hf hk).mp hy⟩
    · rintro ⟨y, hy⟩
      exact ⟨hR hy, y, (hf (hR hy)).mpr hy⟩
  · intro k hk y
    exact (hf (hrange.mp hk)).mp

theorem Recorded.raw_lt {a : Attribute} (h : Recorded bytes k a) :
    a.raw.toNat < 2 ^ (8 * rawWidth a.id) := by
  have hlen : (a.rawBytes.take (rawWidth a.id)).length ≤ rawWidth a.id := List.length_take_le _ _
  calc a.raw.toNat
    _ < 256 ^ (a.rawBytes.take (rawWidth a.id)).length := h.raw_eq ▸ ofDigits_lt _
    _ ≤ 256 ^ rawWidth a.id := Nat.pow_le_pow_right (by omega) hlen
    _ = 2 ^ (8 * rawWidth a.id) := by rw [Nat.pow_mul]

/-! ### Reading -/

/-- The slot that lies `offset` bytes into a table, with every byte looked up in the table: there
is none if one of them lies past the end. -/
def readSlot? (bytes : List UInt8) (offset : Nat) : Option Slot := do
  let check ← bytes[offset + 1]?
  if check ≠ 0 then return .skipped ⟨offset, check⟩
  let id ← bytes[offset + 3]?
  if id = 0 then return .inactive
  let normalized ← bytes[offset + 6]?
  let worst ← bytes[offset + 7]?
  let rawBytes := (List.range rawLength).map fun i => (bytes[offset + 8 + i]?).getD 0
  if rawWidth id ≤ rawBytes.length then
    return .attribute ⟨id, normalized, worst, littleEndian (rawBytes.take (rawWidth id)), rawBytes⟩
  else none

def Decoded.push (d : Decoded) : Slot → Decoded
  | .attribute a => { d with attributes := d.attributes ++ [a] }
  | .skipped s => { d with skipped := d.skipped ++ [s] }
  | .inactive => d

/-- Reads a table from `offset` on, byte by byte: the flag comes before the length, and a slot that
is cut off ends the table. -/
def readFrom? (bytes : List UInt8) (offset : Nat) (d : Decoded) : Option Decoded :=
  if offset < bytes.length then do
    let flag ← bytes[offset]?
    if isActive offset flag then
      if bytes.length - offset < slotLength then return d
      else readFrom? bytes (offset + slotLength) (d.push (← readSlot? bytes offset))
    else readFrom? bytes (offset + slotLength) d
  else some d
termination_by bytes.length - offset
decreasing_by
  all_goals
    simp only [slotLength] at *
    omega

theorem readSlot?_eq (h : Active bytes k) : readSlot? bytes (12 * k) = some (slotOf bytes k) := by
  have hlen := h.whole
  have hat : ∀ {i}, i < 12 → bytes[12 * k + i]? = some ((bytes[12 * k + i]?).getD 0) :=
    fun hi => getElem?_eq_some_getD (by omega)
  have hact : isActive (12 * k) ((bytes[12 * k]?).getD 0) = true := (active_iff hlen).mpr h
  have hwidth : ∀ id, rawWidth id ≤ 5 := rawWidth_le
  rw [readSlot?, hat (i := 1) (by omega), hat (i := 3) (by omega), hat (i := 6) (by omega),
    hat (i := 7) (by omega)]
  simp only [slotOf, slotAt, attributeOf, getD_drop, Nat.add_zero, hact, if_true, rawLength,
    List.length_map, List.length_range, hwidth, Nat.add_assoc]
  simp only [Option.bind_eq_bind, Option.bind_some, Option.pure_def]
  split
  · rfl
  · split <;> rfl

theorem slotOf_of_not_active (h : 12 * k + 12 ≤ bytes.length) (hact : ¬ Active bytes k) :
    slotOf bytes k = .inactive := by
  rcases slotOf_cases h with ⟨a, ha, -⟩ | ⟨s, hs, -⟩ | ⟨-, -, hslot⟩
  · exact absurd ha.toActive hact
  · exact absurd hs.toActive hact
  · exact hslot

theorem foldl_push (d : Decoded) (slots : List Slot) :
    slots.foldl Decoded.push d =
      ⟨d.attributes ++ slots.filterMap Slot.attribute?,
        d.skipped ++ slots.filterMap Slot.skipped?⟩ := by
  induction slots generalizing d with
  | nil => simp
  | cons s slots ih =>
    rw [List.foldl_cons, ih]
    cases s <;> simp [Decoded.push, List.filterMap_cons, Slot.attribute?, Slot.skipped?]

/-- Reading from a slot on adds the slots that are left. -/
theorem readFrom?_eq {n : Nat} (h : bytes.length ≤ 12 * (k + n)) (d : Decoded) :
    readFrom? bytes (12 * k) d =
      some (((List.range' k (bytes.length / 12 - k)).map (slotOf bytes)).foldl Decoded.push d) := by
  induction n generalizing k d with
  | zero =>
    have hnone : bytes.length / 12 - k = 0 := by omega
    rw [readFrom?, if_neg (by omega), hnone]
    rfl
  | succ n ih =>
    by_cases hend : 12 * k < bytes.length
    · have hflag := getElem?_eq_some_getD hend
      rw [readFrom?, if_pos hend, hflag, slotLength]
      simp only [Option.bind_eq_bind, Option.bind_some, Option.pure_def]
      have hnext : 12 * k + 12 = 12 * (k + 1) := by omega
      by_cases hlen : 12 * k + 12 ≤ bytes.length
      · have hleft : bytes.length / 12 - k = (bytes.length / 12 - (k + 1)) + 1 := by omega
        rw [hleft, List.range'_succ, List.map_cons, List.foldl_cons, hnext]
        by_cases hact : Active bytes k
        · rw [if_pos ((active_iff hlen).mpr hact), if_neg (by omega), readSlot?_eq hact,
            Option.bind_some, ih (by omega)]
        · rw [if_neg (mt (active_iff hlen).mp hact), slotOf_of_not_active hlen hact,
            ih (by omega)]
          rfl
      · have hnone : bytes.length / 12 - k = 0 := by omega
        have hnone' : bytes.length / 12 - (k + 1) = 0 := by omega
        rw [hnone]
        split
        · rw [if_pos (by omega)]
          rfl
        · rw [hnext, ih (by omega), hnone']
          rfl
    · have hnone : bytes.length / 12 - k = 0 := by omega
      rw [readFrom?, if_neg hend, hnone]
      rfl

theorem readFrom?_eq_decode (bytes : List UInt8) :
    readFrom? bytes 0 ⟨[], []⟩ = some (decode bytes) := by
  have hlen : bytes.length ≤ 12 * (0 + bytes.length) := by omega
  have h := readFrom?_eq hlen ⟨[], []⟩
  rw [Nat.mul_zero] at h
  rw [h, foldl_push, Nat.sub_zero, ← List.range_eq_range', List.filterMap_map,
    List.filterMap_map, List.nil_append, List.nil_append]
  exact congrArg₂ (fun attributes skipped => some (Decoded.mk attributes skipped))
    (attributes_decode bytes).symm (skipped_decode bytes).symm

/-! ### What follows the last slot -/

theorem slotOf_congr {bytes' : List UInt8}
    (h : ∀ i, i ≤ 12 → (bytes[12 * k + i]?).getD 0 = (bytes'[12 * k + i]?).getD 0) :
    slotOf bytes k = slotOf bytes' k := by
  have hraw : (List.range 5).map (fun i => (bytes[12 * k + (8 + i)]?).getD 0) =
      (List.range 5).map fun i => (bytes'[12 * k + (8 + i)]?).getD 0 := by
    refine List.map_congr_left fun i hi => h (8 + i) ?_
    rw [List.mem_range] at hi
    omega
  simp only [slotOf, slotAt, attributeOf, getD_drop, rawLength]
  rw [h 0 (by omega), h 1 (by omega), h 3 (by omega), h 6 (by omega), h 7 (by omega), hraw]

/-- Two tables with the same bytes in the slot of this number. -/
def Agree (bytes bytes' : List UInt8) (k : Nat) : Prop :=
  ∀ i, i < 12 → bytes[12 * k + i]? = bytes'[12 * k + i]?

variable {bytes' : List UInt8}

theorem Agree.symm (h : Agree bytes bytes' k) : Agree bytes' bytes k :=
  fun i hi => (h i hi).symm

theorem Agree.whole (h : Agree bytes bytes' k) (hlen : 12 * k + 12 ≤ bytes.length) :
    12 * k + 12 ≤ bytes'.length := by
  have hlast := h 11 (by omega)
  rw [List.getElem?_eq_getElem (by omega), eq_comm, List.getElem?_eq_some_iff] at hlast
  obtain ⟨hlen', -⟩ := hlast
  omega

theorem Active.congr (h : Active bytes k) (hsame : Agree bytes bytes' k) : Active bytes' k :=
  ⟨hsame.whole h.whole, hsame 0 (by omega) ▸ h.flag⟩

theorem Holds.congr (h : Holds bytes k) (hsame : Agree bytes bytes' k) : Holds bytes' k :=
  ⟨h.toActive.congr hsame, hsame 1 (by omega) ▸ h.check, hsame 3 (by omega) ▸ h.id⟩

theorem Reported.congr {s : UnexpectedFlag} (h : Reported bytes k s)
    (hsame : Agree bytes bytes' k) : Reported bytes' k s :=
  ⟨⟨h.toActive.congr hsame, hsame 1 (by omega) ▸ h.check⟩, h.offset_eq,
    hsame 1 (by omega) ▸ h.value_eq⟩

/-- Two attributes that are alike up to the fifth raw byte. -/
structure Attribute.Alike (a a' : Attribute) : Prop where
  id : a.id = a'.id
  normalized : a.normalized = a'.normalized
  worst : a.worst = a'.worst
  rawBytes : a.rawBytes.take 4 = a'.rawBytes.take 4
  raw : rawWidth a.id < 5 → a.raw = a'.raw

theorem Recorded.alike {a a' : Attribute} (h : Recorded bytes k a) (h' : Recorded bytes' k a')
    (hsame : Agree bytes bytes' k) : a.Alike a' := by
  have hid : a.id = a'.id := by
    rw [← Option.some.injEq, ← h.id_eq, ← h'.id_eq, hsame 3 (by omega)]
  have hbytes : a.rawBytes.take 4 = a'.rawBytes.take 4 := by
    rw [h.rawBytes_eq, h'.rawBytes_eq, ← List.map_take, ← List.map_take, List.take_range]
    refine List.map_congr_left fun i hi => ?_
    rw [List.mem_range] at hi
    rw [Nat.add_assoc, hsame (8 + i) (by omega)]
  refine ⟨hid, ?_, ?_, hbytes, ?_⟩
  · rw [← Option.some.injEq, ← h.normalized_eq, ← h'.normalized_eq, hsame 6 (by omega)]
  · rw [← Option.some.injEq, ← h.worst_eq, ← h'.worst_eq, hsame 7 (by omega)]
  · intro hwidth
    have htake := congrArg (List.take (rawWidth a.id)) hbytes
    rw [List.take_take, List.take_take, Nat.min_eq_left (by omega)] at htake
    rw [← UInt64.toNat_inj, h.raw_eq, h'.raw_eq, ← hid, htake]

/-- Two slots with the same bytes yield an attribute both, and these are alike, or yield none. -/
theorem attribute?_of_agree (h : 12 * k + 12 ≤ bytes.length) (hsame : Agree bytes bytes' k) :
    ((slotOf bytes k).attribute? = none ∧ (slotOf bytes' k).attribute? = none) ∨
      ∃ a a', (slotOf bytes k).attribute? = some a ∧ (slotOf bytes' k).attribute? = some a' ∧
        Recorded bytes k a ∧ Recorded bytes' k a' ∧ a.Alike a' := by
  have h' : 12 * k + 12 ≤ bytes'.length := hsame.whole h
  by_cases hholds : Holds bytes k
  · obtain ⟨a, ha⟩ := exists_recorded_iff.mpr hholds
    obtain ⟨a', ha'⟩ := exists_recorded_iff.mpr (hholds.congr hsame)
    exact Or.inr ⟨a, a', (attribute?_eq_some_iff h).mpr ha, (attribute?_eq_some_iff h').mpr ha',
      ha, ha', ha.alike ha' hsame⟩
  · refine Or.inl ⟨?_, ?_⟩
    · refine Option.eq_none_iff_forall_ne_some.mpr fun a ha => hholds ?_
      exact ((attribute?_eq_some_iff h).mp ha).toHolds
    · refine Option.eq_none_iff_forall_ne_some.mpr fun a ha => hholds ?_
      exact ((attribute?_eq_some_iff h').mp ha).toHolds.congr hsame.symm

section Tails

variable {table tail tail' : List UInt8}

theorem agree_append (h : 12 * k + 12 ≤ table.length) :
    Agree (table ++ tail) (table ++ tail') k := by
  intro i hi
  rw [List.getElem?_append_left (by omega), List.getElem?_append_left (by omega)]

theorem getD_append_end : ((table ++ tail)[table.length]?).getD 0 = tail.headD 0 := by
  rw [List.getElem?_append_right (by omega), Nat.sub_self, ← List.head?_eq_getElem?,
    List.headD_eq_head?_getD]

/-- Of the bytes that follow the slots, a slot sees the first one at most, and only the last
slot does. -/
theorem slotOf_append (h : 12 * k + 12 ≤ table.length)
    (hsee : 12 * k + 12 = table.length → tail.headD 0 = tail'.headD 0) :
    slotOf (table ++ tail) k = slotOf (table ++ tail') k := by
  refine slotOf_congr fun i hi => ?_
  by_cases hlt : 12 * k + i < table.length
  · rw [List.getElem?_append_left hlt, List.getElem?_append_left hlt]
  · have hend : 12 * k + i = table.length := by omega
    rw [hend, getD_append_end, getD_append_end]
    exact hsee (by omega)

/-- The attributes of a table with one tail or another: those of the last slot may differ. -/
theorem attributes_append (h : 12 ∣ table.length) (ht : tail.length < 12)
    (ht' : tail'.length < 12) :
    (decode (table ++ tail)).attributes = (decode (table ++ tail')).attributes ∨
      ∃ k front a a', 12 * k + 12 = table.length ∧
        (decode (table ++ tail)).attributes = front ++ [a] ∧
        (decode (table ++ tail')).attributes = front ++ [a'] ∧
        Recorded (table ++ tail) k a ∧ Recorded (table ++ tail') k a' ∧ a.Alike a' := by
  have hlen : (table ++ tail).length / 12 = table.length / 12 := by
    rw [List.length_append]
    omega
  have hlen' : (table ++ tail').length / 12 = table.length / 12 := by
    rw [List.length_append]
    omega
  rw [attributes_decode, attributes_decode, hlen, hlen']
  obtain ⟨n, hn⟩ := h
  rw [hn, Nat.mul_div_cancel_left n (by omega)]
  cases n with
  | zero => exact Or.inl rfl
  | succ m =>
    have hfront : ∀ k ∈ List.range m, (slotOf (table ++ tail) k).attribute? =
        (slotOf (table ++ tail') k).attribute? := by
      intro k hk
      rw [List.mem_range] at hk
      rw [slotOf_append (by omega) fun hend => by omega]
    have hagree : Agree (table ++ tail) (table ++ tail') m := agree_append (by omega)
    rw [List.range_succ, List.filterMap_append, List.filterMap_append,
      List.filterMap_congr hfront]
    rcases attribute?_of_agree (by rw [List.length_append]; omega) hagree with
      ⟨hlast, hlast'⟩ | ⟨a, a', hlast, hlast', ha, ha', halike⟩
    · refine Or.inl ?_
      simp only [List.filterMap_cons, List.filterMap_nil, hlast, hlast']
    · refine Or.inr ⟨m, (List.range m).filterMap fun k => (slotOf (table ++ tail') k).attribute?,
        a, a', by omega, ?_, ?_, ha, ha', halike⟩
      · simp only [List.filterMap_cons, List.filterMap_nil, hlast]
      · simp only [List.filterMap_cons, List.filterMap_nil, hlast']

theorem skipped_append (h : 12 ∣ table.length) (ht : tail.length < 12) (ht' : tail'.length < 12) :
    (decode (table ++ tail)).skipped = (decode (table ++ tail')).skipped := by
  have hlen : (table ++ tail).length / 12 = (table ++ tail').length / 12 := by
    rw [List.length_append, List.length_append]
    omega
  rw [skipped_decode, skipped_decode, ← hlen]
  refine List.filterMap_congr fun k hk => Option.ext fun s => ?_
  rw [List.mem_range, List.length_append] at hk
  have hk : 12 * k + 12 ≤ table.length := by omega
  rw [skipped?_eq_some_iff (by rw [List.length_append]; omega),
    skipped?_eq_some_iff (by rw [List.length_append]; omega)]
  exact ⟨fun hs => hs.congr (agree_append hk), fun hs => hs.congr (agree_append hk)⟩

/-- The first of the bytes that follow the slots is the only one that matters. -/
theorem decode_append (h : 12 ∣ table.length) (ht : tail.length < 12) (ht' : tail'.length < 12)
    (hhead : tail.headD 0 = tail'.headD 0) : decode (table ++ tail) = decode (table ++ tail') := by
  have hlen : (table ++ tail).length / 12 = (table ++ tail').length / 12 := by
    rw [List.length_append, List.length_append]
    omega
  have hattributes :
      (decode (table ++ tail)).attributes = (decode (table ++ tail')).attributes := by
    rw [attributes_decode, attributes_decode, ← hlen]
    refine List.filterMap_congr fun k hk => ?_
    rw [List.mem_range, List.length_append] at hk
    rw [slotOf_append (by omega) fun _ => hhead]
  calc decode (table ++ tail)
    _ = ⟨(decode (table ++ tail)).attributes, (decode (table ++ tail)).skipped⟩ := rfl
    _ = ⟨(decode (table ++ tail')).attributes, (decode (table ++ tail')).skipped⟩ := by
      rw [hattributes, skipped_append h ht ht']
    _ = decode (table ++ tail') := rfl

end Tails

/-- A table is read within its bounds and decodes to the attributes of the slots that hold one,
and to the slots that are passed over, in order.  Bytes that follow the last slot yield nothing and
show in the fifth raw byte of its attribute, by the first of them, and nowhere else. -/
theorem decode_by_slots (bytes : List UInt8) :
    readFrom? bytes 0 ⟨[], []⟩ = some (decode bytes) ∧
    (∃ ks : List Nat, ks.Pairwise (· < ·) ∧ (∀ k, k ∈ ks ↔ Holds bytes k) ∧
      List.Forall₂ (Recorded bytes) ks (decode bytes).attributes) ∧
    (∃ ks : List Nat, ks.Pairwise (· < ·) ∧ (∀ k, k ∈ ks ↔ PassedOver bytes k) ∧
      List.Forall₂ (Reported bytes) ks (decode bytes).skipped) ∧
    (∀ a ∈ (decode bytes).attributes,
      a.raw.toNat < 2 ^ (8 * rawWidth a.id) ∧ 2 ^ (8 * rawWidth a.id) ≤ 2 ^ 40) ∧
    ∀ table tail tail', bytes = table ++ tail → 12 ∣ table.length → tail.length < 12 →
      tail'.length < 12 →
        (decode (table ++ tail')).skipped = (decode bytes).skipped ∧
        (tail'.headD 0 = tail.headD 0 → decode (table ++ tail') = decode bytes) ∧
        ((decode (table ++ tail')).attributes = (decode bytes).attributes ∨
          ∃ k front a a', 12 * k + 12 = table.length ∧
            (decode (table ++ tail')).attributes = front ++ [a'] ∧
            (decode bytes).attributes = front ++ [a] ∧
            Recorded (table ++ tail') k a' ∧ Recorded bytes k a ∧ a'.Alike a) := by
  obtain ⟨ks, hks, hmem, hall⟩ := exists_slots (R := Recorded bytes) attribute?_eq_some_iff
    fun h => h.whole
  obtain ⟨ks', hks', hmem', hall'⟩ := exists_slots (R := Reported bytes) skipped?_eq_some_iff
    fun h => h.whole
  rw [← attributes_decode] at hall
  rw [← skipped_decode] at hall'
  refine ⟨readFrom?_eq_decode bytes, ⟨ks, hks, fun k => ?_, hall⟩,
    ⟨ks', hks', fun k => ?_, hall'⟩, ?_, ?_⟩
  · rw [hmem, exists_recorded_iff]
  · rw [hmem', exists_reported_iff]
  · intro a ha
    rw [attributes_decode, List.mem_filterMap] at ha
    obtain ⟨k, hk, ha⟩ := ha
    rw [List.mem_range] at hk
    have hrec := (attribute?_eq_some_iff (by omega)).mp ha
    have hwidth : rawWidth a.id ≤ 5 := rawWidth_le a.id
    exact ⟨hrec.raw_lt, Nat.pow_le_pow_right (by omega) (by omega)⟩
  · rintro table tail tail' rfl h ht ht'
    refine ⟨skipped_append h ht' ht, decode_append h ht' ht, ?_⟩
    rcases attributes_append h ht' ht with heq | ⟨k, front, a', a, hlast⟩
    · exact Or.inl heq
    · exact Or.inr ⟨k, front, a, a', hlast⟩

/-- A slot of five raw bytes, followed by the fifth of them and one more byte, or by nothing. -/
theorem decode_by_slots_cut_off :
    let table : List UInt8 := [0, 0, 0, 9, 0, 0, 100, 99, 1, 2, 3, 4]
    decode (table ++ [5]) = decode (table ++ [5, 16]) ∧
      (decode (table ++ [])).skipped = (decode (table ++ [5, 16])).skipped ∧
      (decode (table ++ [5, 16])).attributes =
        [⟨9, 100, 99, 1 + 256 * (2 + 256 * (3 + 256 * (4 + 256 * 5))), [1, 2, 3, 4, 5]⟩] ∧
      (decode (table ++ [])).attributes =
        [⟨9, 100, 99, 1 + 256 * (2 + 256 * (3 + 256 * 4)), [1, 2, 3, 4, 0]⟩] := by
  intro table
  obtain ⟨-, -, -, -, htail⟩ := decode_by_slots (table ++ [5, 16])
  have hone := htail table [5, 16] [5] rfl (by decide) (by decide) (by decide)
  have hnone := htail table [5, 16] [] rfl (by decide) (by decide) (by decide)
  refine ⟨hone.2.1 rfl, hnone.1, ?_, ?_⟩
  · rw [attributes_decode]
    decide
  · rw [attributes_decode]
    decide

end MetricScraper.Disk
