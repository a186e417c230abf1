import MetricScraper.Proofs.Pattern.Items
import Mathlib.Data.List.TakeWhile

/-!
# Brackets before a closing parenthesis

A class ends with its own bracket, and there is none behind the text: brackets that are open at the
end of the text are refused with the parenthesis behind them as without it.
-/

namespace MetricScraper.Pattern

open Cursor

variable {s s' s₁ : Cursor}

/-! ### Fixed texts -/

theorem isPrefixOf_append_closing {text : List Char} (htext : ')' ∉ text) (rest : List Char) :
    text.isPrefixOf (rest ++ closing) = text.isPrefixOf rest := by
  induction text generalizing rest with
  | nil => simp
  | cons c text ih =>
    have hc : c ≠ ')' := fun h => htext (h ▸ List.mem_cons_self)
    have hrest : ')' ∉ text := fun h => htext (List.mem_cons_of_mem c h)
    cases rest with
    | nil => simp [closing, List.isPrefixOf, hc]
    | cons d rest => simp [List.isPrefixOf, ih hrest]

theorem take?_eq_some {text : String} (h : s.take? text = some s₁) :
    s₁ = { s with rest := s.rest.drop text.length } := by
  unfold Cursor.take? at h
  split at h
  · cases h
    rfl
  · cases h

theorem take?_past {text : String} (htext : 0 < text.length) (h : s.take? text = some s₁) :
    s₁.Past s := by
  obtain ⟨k, hk⟩ := Nat.exists_eq_add_of_lt htext
  have hdrop : s.rest.drop text.length = s.rest.tail.drop k := by
    rw [hk, ← List.drop_one, List.drop_drop]
    congr 1
    omega
  rw [take?_eq_some h, Past, hdrop]
  exact List.drop_suffix k _

/-- A text without parentheses comes next in both or in none. -/
theorem take?_rel (text : String) (htext : ')' ∉ text.toList) (hs : Trails s s') :
    Option.Rel (Trails) (s.take? text) (s'.take? text) := by
  cases hs with
  | behind =>
    have hstarts := isPrefixOf_append_closing htext s.rest
    unfold Cursor.take? Cursor.extend
    simp only [hstarts]
    split
    · rename_i h
      have hle : text.length ≤ s.rest.length := by
        rw [← String.length_toList]
        exact (List.isPrefixOf_iff_prefix.mp h).length_le
      rw [List.drop_append_of_le_length hle]
      exact .some .behind
    · exact .none
  | lost hnil =>
    cases htake : s.take? text with
    | none => exact .none
    | some x =>
      rw [take?_eq_some htake]
      exact .some (.lost (by simp [hnil]))

/-- What is made of two cursors that trail each other agrees if it does so for each pair. -/
theorem agree_bind_rel {α : Type} {P : α → Cursor → Prop} {r r' : Option Cursor}
    {g g' : Cursor → Option (α × Cursor)} (h : Option.Rel (Trails) r r')
    (hg : ∀ x x', r = some x → r' = some x' → Trails x x' → Agree P (g x) (g' x')) :
    Agree P (r.bind g) (r'.bind g') := by
  cases h with
  | some ht => exact hg _ _ rfl rfl ht
  | none => exact .none P

theorem head?_append_closing {d : Char} (hd : d ≠ ')') (l : List Char) :
    (l ++ closing).head? = some d ↔ l.head? = some d := by
  cases l with
  | nil => simp [closing, hd.symm]
  | cons c l => simp

theorem peekBlanks_iff (hs : Trails s s') (hne : s.rest ≠ []) {d : Char} (hd : d ≠ ')') :
    s'.peekBlanks = some d ↔ s.peekBlanks = some d := by
  have htail : (s.rest ++ closing).tail = s.rest.tail ++ closing :=
    List.tail_append_of_ne_nil hne
  rw [hs.of_ne_nil hne]
  unfold Cursor.peekBlanks
  simp only [Cursor.extend, Cursor.bump, Cursor.peek, Cursor.head, htail]
  split
  · rw [dropWhile_append_closing (by decide)]
    cases s.rest.tail.dropWhile Text.isBlank with
    | nil => simp [closing, hd.symm]
    | cons c cs =>
      by_cases hc : c = '#'
      · subst hc
        simp only [List.cons_append]
        rw [dropWhile_append_closing (by decide)]
        exact head?_append_closing hd _
      · simp [hc]
  · exact head?_append_closing hd _

/-! ### Classes by name -/

/-- Reads the name of a class and what ends it. -/
def readClassName (negated : Bool) (s : Cursor) : Option (ClassSet × Cursor) :=
  ((s.withRest (s.rest.dropWhile fun c => c ≠ ':')).take? ":]").bind fun x =>
    (namedClass? (s.rest.takeWhile fun c => c ≠ ':')).map fun kind => (.named kind negated, x)

theorem readNamedClass_eq (s : Cursor) :
    readNamedClass s = (s.take? "[:").bind fun s =>
      if s.head = some '^' then readClassName true s.bump else readClassName false s := by
  unfold readNamedClass readClassName
  cases s.take? "[:" with
  | none => rfl
  | some x =>
    simp only [Option.bind_eq_bind, Option.bind_some, Option.map_eq_bind]
    split <;> rfl

theorem readClassName_after {negated : Bool} {set : ClassSet}
    (h : readClassName negated s = some (set, s₁)) : s₁.After s := by
  obtain ⟨x, hx, h⟩ := Option.bind_eq_some_iff.mp h
  obtain ⟨kind, -, heq⟩ := Option.map_eq_some_iff.mp h
  cases heq
  exact (take?_past (by decide) hx).after.trans (List.dropWhile_suffix _)

theorem readNamedClass_past {set : ClassSet} (h : readNamedClass s = some (set, s₁)) :
    s₁.Past s := by
  rw [readNamedClass_eq] at h
  obtain ⟨x, hx, h⟩ := Option.bind_eq_some_iff.mp h
  have hpast := take?_past (by decide) hx
  split at h
  · exact ((readClassName_after h).trans (bump_past x).after).trans_past hpast
  · exact (readClassName_after h).trans_past hpast

theorem takeWhile_append_of_mem {d : Char} {l : List Char} (h : d ∈ l) (rest : List Char) :
    (l ++ rest).takeWhile (fun c => c ≠ d) = l.takeWhile (fun c => c ≠ d) ∧
      (l ++ rest).dropWhile (fun c => c ≠ d) = l.dropWhile (fun c => c ≠ d) ++ rest := by
  induction l with
  | nil => cases h
  | cons c l ih =>
    by_cases hc : c = d
    · simp [hc]
    · have hmem : d ∈ l := by
        rcases List.mem_cons.mp h with heq | hmem
        · exact absurd heq.symm hc
        · exact hmem
      obtain ⟨htake, hdrop⟩ := ih hmem
      simp only [List.cons_append, List.takeWhile_cons, List.dropWhile_cons, hc, ne_eq,
        not_false_eq_true, decide_true, if_true]
      exact ⟨congrArg (c :: ·) htake, hdrop⟩

theorem dropWhile_eq_nil_of_not_mem {d : Char} {l : List Char} (h : d ∉ l) :
    l.dropWhile (fun c => c ≠ d) = [] := by
  refine List.dropWhile_eq_nil_iff.mpr ?_
  intro c hc
  exact decide_eq_true fun heq => h (heq ▸ hc)

theorem agree_readClassName (negated : Bool) (hs : Trails s s') :
    Agree Never (readClassName negated s) (readClassName negated s') := by
  have hempty : ∀ {x : Cursor}, ':' ∉ x.rest → readClassName negated x = none := by
    intro x hx
    unfold readClassName
    rw [dropWhile_eq_nil_of_not_mem hx]
    rfl
  cases hs with
  | behind =>
    by_cases hmem : ':' ∈ s.rest
    · obtain ⟨htake, hdrop⟩ := takeWhile_append_of_mem hmem closing
      unfold readClassName
      have hrest : (s.extend closing).rest = s.rest ++ closing := rfl
      rw [hrest, htake, hdrop]
      refine agree_bind_rel (take?_rel _ (by decide) .behind) ?_
      intro x x' _ _ ht
      cases namedClass? (s.rest.takeWhile fun c => c ≠ ':') with
      | none => exact .none _
      | some kind => exact .both _ ht
    · have hmem' : ':' ∉ (s.extend closing).rest := by
        intro h
        rcases List.mem_append.mp h with h | h
        · exact hmem h
        · exact not_mem_closing (by decide) (by decide) h
      rw [hempty hmem, hempty hmem']
      exact .none _
  | lost hnil =>
    rw [hempty (by simp [hnil])]
    exact .none _

theorem agree_readNamedClass (hs : Trails s s') :
    Agree Never (readNamedClass s) (readNamedClass s') := by
  rw [readNamedClass_eq, readNamedClass_eq]
  refine agree_bind_rel (take?_rel _ (by decide) hs) ?_
  intro x x' _ _ ht
  by_cases hcaret : x.head = some '^'
  · rw [if_pos hcaret, if_pos (ht.head hcaret)]
    exact agree_readClassName true (ht.bump (ne_nil_of_head hcaret))
  · rw [if_neg hcaret, if_neg fun h => hcaret ((ht.head_iff (by decide)).mp h)]
    exact agree_readClassName false ht

/-! ### Ranges -/

/-- Reads what follows the first character of a range, or leaves it. -/
def readRangeEnd (first : Item) (s : Cursor) : Option (ClassSet × Cursor) :=
  s.head.bind fun c =>
    if c ≠ '-' ∨ s.peekBlanks = some ']' ∨ s.peekBlanks = some '-' then
      first.toClassSet.map fun set => (set, s)
    else
      (readClassItem s.bumpBlanks).bind fun p =>
        first.toLiteral.bind fun lo =>
          p.1.toLiteral.bind fun hi =>
            if hi.1 < lo.1 then none else some (.range lo.1 lo.2 hi.1 hi.2, p.2)

theorem readClassRange_eq (s : Cursor) :
    readClassRange s = (readClassItem s).bind fun p => readRangeEnd p.1 p.2.skipBlanks := by
  unfold readClassRange readRangeEnd
  simp only [Option.map_eq_bind]
  rfl

theorem readRangeEnd_after {first : Item} {set : ClassSet}
    (h : readRangeEnd first s = some (set, s₁)) : s₁.After s := by
  obtain ⟨c, -, h⟩ := Option.bind_eq_some_iff.mp h
  split at h
  · obtain ⟨x, -, heq⟩ := Option.map_eq_some_iff.mp h
    cases heq
    exact .refl _
  · simp only [Option.bind_eq_some_iff] at h
    obtain ⟨⟨second, x⟩, hx, lo, -, hi, -, h⟩ := h
    split at h
    · cases h
    · cases h
      exact (readClassItem_past hx).after.trans (bumpBlanks_past s).after

theorem readClassRange_past {set : ClassSet} (h : readClassRange s = some (set, s₁)) :
    s₁.Past s := by
  rw [readClassRange_eq] at h
  obtain ⟨⟨first, x⟩, hx, h⟩ := Option.bind_eq_some_iff.mp h
  exact ((readRangeEnd_after h).trans (skipBlanks_after x)).trans_past (readClassItem_past hx)

/-- No assertion is a member of a class. -/
theorem readRangeEnd_assertion (kind : Assertion) (s : Cursor) :
    readRangeEnd (.assertion kind) s = none := by
  unfold readRangeEnd
  cases s.head with
  | none => rfl
  | some c =>
    rw [Option.bind_some]
    split
    · rfl
    · cases readClassItem s.bumpBlanks <;> rfl

theorem agree_readRangeEnd (first : Item) (hs : Trails s s') :
    Agree Within (readRangeEnd first s) (readRangeEnd first s') := by
  refine agree_of_head hs ?_ ?_
    (fun hclose set x h => within_of_after (readRangeEnd_after h) hclose) ?_
  · intro hc
    simp [readRangeEnd, hc]
  · intro hc
    simp [readRangeEnd, hc]
  · intro c hc hc'
    have hne := ne_nil_of_head hc
    have hbracket := peekBlanks_iff (d := ']') hs hne (by decide)
    have hhyphen := peekBlanks_iff (d := '-') hs hne (by decide)
    simp only [readRangeEnd, hc, hc', Option.bind_some, hbracket, hhyphen]
    split
    · cases first.toClassSet with
      | none => exact .none _
      | some set => exact .both set hs
    · refine (agree_readClassItem (hs.bumpBlanks hne)).bind ?_ ?_
      · intro second x x' _ _ ht
        cases first.toLiteral with
        | none => exact .none _
        | some lo =>
          cases second.toLiteral with
          | none => exact .none _
          | some hi =>
            simp only [Option.bind_some]
            split
            · exact .none _
            · exact .both _ ht
      · intro second x _ hP set x₁ h
        simp only [Option.bind_eq_some_iff] at h
        obtain ⟨lo, -, hi, hhi, h⟩ := h
        split at h
        · cases h
        · cases h
          rcases hP with hbeyond | ⟨rfl, -⟩
          · exact hbeyond.within
          · cases hhi

theorem agree_readClassRange (hs : Trails s s') :
    Agree Within (readClassRange s) (readClassRange s') := by
  rw [readClassRange_eq, readClassRange_eq]
  refine (agree_readClassItem hs).bind ?_ ?_
  · intro first x x' _ _ ht
    exact agree_readRangeEnd first ht.skipBlanks
  · intro first x _ hP set x₁ h
    rcases hP with hbeyond | ⟨rfl, -⟩
    · have hafter := (readRangeEnd_after h).trans (skipBlanks_after x)
      have hleft : Beyond set x₁ := hbeyond.after hafter
      exact hleft.within
    · rw [readRangeEnd_assertion] at h
      cases h

/-! ### The start of a class -/

/-- Reads the caret that negates a class. -/
def readCaret (s : Cursor) : Bool × Cursor :=
  if s.head = some '^' then (true, s.bumpBlanks) else (false, s)

/-- Reads a bracket that stands for itself because no hyphens stand before it. -/
def readFirstBracket (p : List (Nested ClassSet) × Cursor) : List (Nested ClassSet) × Cursor :=
  if p.1.isEmpty && p.2.head = some ']' then
    ([Nested.flat (.literal ']' false)], p.2.bumpBlanks)
  else p

/-- Reads the members that stand for themselves only at the start of a class. -/
def readFirstMembers (s : Cursor) : List (Nested ClassSet) × Cursor :=
  readFirstBracket (readHyphens (s.rest.length + 1) s)

theorem readClassStart_eq (s : Cursor) :
    readClassStart s =
      if (readFirstMembers (readCaret s).2).2.atEnd then none
      else some (((readCaret s).1, (readFirstMembers (readCaret s).2).1),
        (readFirstMembers (readCaret s).2).2) := by
  rfl

theorem readHyphens_eq (fuel : Nat) (s : Cursor) :
    readHyphens fuel s =
      ((readWhile (fun c => c = '-') fuel s).1.map fun _ => Nested.flat (.literal '-' false),
        (readWhile (fun c => c = '-') fuel s).2) := by
  induction fuel generalizing s with
  | zero => rfl
  | succ fuel ih =>
    simp only [readHyphens, readWhile, ih]
    cases hc : s.head with
    | none => rfl
    | some c => by_cases hhyphen : c = '-' <;> simp [hhyphen]

theorem readHyphens_after (fuel : Nat) (s : Cursor) : (readHyphens fuel s).2.After s := by
  rw [readHyphens_eq]
  exact readWhile_after _ fuel s

theorem readFirstMembers_after (s : Cursor) : (readFirstMembers s).2.After s := by
  unfold readFirstMembers readFirstBracket
  split
  · exact (bumpBlanks_past _).after.trans (readHyphens_after _ s)
  · exact readHyphens_after _ s

theorem readCaret_after (s : Cursor) : (readCaret s).2.After s := by
  unfold readCaret
  split
  · exact (bumpBlanks_past s).after
  · exact .refl s

theorem readClassStart_after {p : Bool × List (Nested ClassSet)}
    (h : readClassStart s = some (p, s₁)) : s₁.After s := by
  rw [readClassStart_eq] at h
  split at h
  · cases h
  · cases h
    exact (readFirstMembers_after _).trans (readCaret_after s)

theorem trails_readFirstMembers (hs : Trails s s') :
    (readFirstMembers s').1 = (readFirstMembers s).1 ∧
      Trails (readFirstMembers s).2 (readFirstMembers s').2 := by
  obtain ⟨heq, ht⟩ := trails_readWhile (p := fun c => c = '-') (by decide) _ _ hs
    (Nat.lt_succ_self _) (Nat.lt_succ_self _)
  simp only [readFirstMembers, readFirstBracket, readHyphens_eq, heq,
    ht.head_iff (c := ']') (by decide)]
  split
  · rename_i hbracket
    simp only [Bool.and_eq_true, decide_eq_true_eq] at hbracket
    exact ⟨rfl, ht.bumpBlanks (ne_nil_of_head hbracket.2)⟩
  · exact ⟨rfl, ht⟩

theorem trails_readCaret (hs : Trails s s') :
    (readCaret s').1 = (readCaret s).1 ∧ Trails (readCaret s).2 (readCaret s').2 := by
  simp only [readCaret, hs.head_iff (c := '^') (by decide)]
  split
  · rename_i hcaret
    exact ⟨rfl, hs.bumpBlanks (ne_nil_of_head hcaret)⟩
  · exact ⟨rfl, hs⟩

theorem agree_readClassStart (hs : Trails s s') :
    Agree Within (readClassStart s) (readClassStart s') := by
  obtain ⟨hcaret, ht⟩ := trails_readCaret hs
  obtain ⟨hmembers, htm⟩ := trails_readFirstMembers ht
  rw [readClassStart_eq, readClassStart_eq, hcaret, hmembers]
  by_cases hend : (readFirstMembers (readCaret s).2).2.rest = []
  · have hhead : (readFirstMembers (readCaret s).2).2.head = none := by
      rw [Cursor.head, hend]
      rfl
    rw [if_pos (by simp [Cursor.atEnd, hend])]
    refine .astray ?_
    intro p x h
    split at h
    · cases h
    · rename_i hend'
      cases h
      rcases htm.head_of_none hhead with hnone | hclose
      · have hnil := List.head?_eq_none_iff.mp hnone
        exact absurd (by simp [Cursor.atEnd, hnil]) hend'
      · rw [Within, hclose]
  · have hend' := htm.ne_nil hend
    rw [if_neg (by simp [Cursor.atEnd, hend]), if_neg (by simp [Cursor.atEnd, hend'])]
    exact .both _ htm

/-! ### Members -/

theorem setOperator?_past {op : SetOperator} (h : setOperator? s = some (op, s₁)) :
    s₁.Past s := by
  unfold setOperator? at h
  split at h
  · rename_i htake
    cases h
    exact take?_past (by decide) htake
  · rename_i htake _
    cases h
    exact take?_past (by decide) htake
  · rename_i htake _ _
    cases h
    exact take?_past (by decide) htake
  · cases h

theorem agree_setOperator? (hs : Trails s s') :
    Agree Never (setOperator? s) (setOperator? s') := by
  have hand := take?_rel "&&" (by decide) hs
  have hminus := take?_rel "--" (by decide) hs
  have htilde := take?_rel "~~" (by decide) hs
  unfold setOperator?
  generalize s.take? "&&" = a, s'.take? "&&" = a', s.take? "--" = b, s'.take? "--" = b',
    s.take? "~~" = c, s'.take? "~~" = c' at hand hminus htilde
  cases hand with
  | some ht => exact .both _ ht
  | none =>
    cases hminus with
    | some ht => exact .both _ ht
    | none =>
      cases htilde with
      | some ht => exact .both _ ht
      | none => exact .none _

/-- The members of a class end with its bracket. -/
theorem readClassMembers_bracket {fuel : Nat} {members : List (Nested ClassSet)}
    {pending : Option (SetOperator × Nested ClassSet)} {set : Nested ClassSet}
    (h : readClassMembers fuel members pending s = some (set, s₁)) :
    ∃ x : Cursor, x.After s.skipBlanks ∧ x.head = some ']' ∧ s₁ = x.bump := by
  induction fuel generalizing members pending s set s₁ with
  | zero => cases h
  | succ fuel ih =>
    -- the bracket is found by the reading that goes on from a later cursor
    have hlater : ∀ {members pending} {y : Cursor}, y.After s.skipBlanks →
        readClassMembers fuel members pending y = some (set, s₁) →
          ∃ x : Cursor, x.After s.skipBlanks ∧ x.head = some ']' ∧ s₁ = x.bump := by
      intro members pending y hy h
      obtain ⟨x, hx, hbracket, heq⟩ := ih h
      exact ⟨x, hx.trans ((skipBlanks_after y).trans hy), hbracket, heq⟩
    simp only [readClassMembers] at h
    split at h
    · cases h
    · split at h
      · rename_i hnamed
        exact hlater (readNamedClass_past hnamed).after h
      · simp only [Option.bind_eq_bind, Option.bind_eq_some_iff] at h
        obtain ⟨⟨p, y⟩, hstart, ⟨inner, z⟩, hinner, h⟩ := h
        obtain ⟨x, hx, -, rfl⟩ := ih hinner
        have hy := (readClassStart_after hstart).trans (bumpBlanks_past s.skipBlanks).after
        exact hlater ((bump_past x).after.trans (hx.trans ((skipBlanks_after y).trans hy))) h
    · rename_i hbracket
      cases h
      exact ⟨s.skipBlanks, .refl _, hbracket, rfl⟩
    · split at h
      · rename_i hop
        exact hlater (setOperator?_past hop).after h
      · simp only [Option.bind_eq_bind, Option.bind_eq_some_iff] at h
        obtain ⟨⟨set', y⟩, hrange, h⟩ := h
        exact hlater (readClassRange_past hrange).after h

theorem readClassMembers_past {fuel : Nat} {members : List (Nested ClassSet)}
    {pending : Option (SetOperator × Nested ClassSet)} {set : Nested ClassSet}
    (h : readClassMembers fuel members pending s = some (set, s₁)) : s₁.Past s := by
  obtain ⟨x, hx, -, rfl⟩ := readClassMembers_bracket h
  exact (bump_past x).trans_after (hx.trans (skipBlanks_after s))

/-- No class ends behind the text. -/
theorem readClassMembers_within {α : Type} {a : α} {fuel : Nat} {members : List (Nested ClassSet)}
    {pending : Option (SetOperator × Nested ClassSet)} {set : Nested ClassSet}
    (hs : Within a s) (h : readClassMembers fuel members pending s = some (set, s₁)) : False := by
  obtain ⟨x, hx, hbracket, -⟩ := readClassMembers_bracket h
  have hmem : ']' ∈ closing := hs.subset ((skipBlanks_after s).subset (mem_of_after hx hbracket))
  exact not_mem_closing (by decide) (by decide) hmem

theorem agree_readClassMembers (fuel fuel' : Nat) (members : List (Nested ClassSet))
    (pending : Option (SetOperator × Nested ClassSet)) (hs : Trails s s')
    (hfuel : s.rest.length < fuel) (hfuel' : s'.rest.length < fuel') :
    Agree Never (readClassMembers fuel members pending s)
      (readClassMembers fuel' members pending s') := by
  induction fuel generalizing fuel' members pending s s' with
  | zero => omega
  | succ fuel ih =>
    cases fuel' with
    | zero => omega
    | succ fuel' =>
      have ht := hs.skipBlanks
      have hle := (skipBlanks_after s).length_le
      have hle' := (skipBlanks_after s').length_le
      refine agree_of_head ht ?_ ?_ ?_ ?_
      · intro hc
        simp [readClassMembers, hc]
      · intro hc
        simp [readClassMembers, hc]
      · intro hclose set x h
        obtain ⟨y, hy, hbracket, -⟩ := readClassMembers_bracket h
        have hmem := mem_of_after hy hbracket
        rw [hclose] at hmem
        exact not_mem_closing (by decide) (by decide) hmem
      · intro c hc hc'
        have hne := ne_nil_of_head hc
        have hne' := ht.ne_nil hne
        -- whatever is read first, the members after it are read alike
        have hnext : ∀ {members pending} {x x' : Cursor}, x.Past s.skipBlanks →
            x'.Past s'.skipBlanks → Trails x x' →
            Agree Never (readClassMembers fuel members pending x)
              (readClassMembers fuel' members pending x') := by
          intro members pending x x' hx hx' htx
          have hlt := hx.length_lt hne
          have hlt' := hx'.length_lt hne'
          exact ih fuel' _ _ htx (by omega) (by omega)
        simp only [readClassMembers, hc, hc']
        split
        · cases ‹some c = none›
        · rcases same_of_agree (agree_readNamedClass ht) with
            ⟨hnamed, hnamed'⟩ | ⟨set, x, x', hnamed, hnamed', htx⟩
          · rw [hnamed, hnamed']
            refine (agree_readClassStart (ht.bumpBlanks hne)).bind ?_ ?_
            · intro p x x' hstart hstart' htx
              have hx := (readClassStart_after hstart).trans_past (bumpBlanks_past s.skipBlanks)
              have hx' := (readClassStart_after hstart').trans_past (bumpBlanks_past s'.skipBlanks)
              refine (hnext hx hx' htx).bind ?_ ?_
              · intro inner y y' hinner hinner' hty
                have hy := (readClassMembers_past hinner).after.trans_past hx
                have hy' := (readClassMembers_past hinner').after.trans_past hx'
                exact hnext hy hy' hty
              · intro inner y _ hP
                exact hP.elim
            · intro p x _ hP set y h
              obtain ⟨⟨inner, z⟩, hinner, -⟩ := Option.bind_eq_some_iff.mp h
              exact readClassMembers_within hP hinner
          · rw [hnamed, hnamed']
            exact hnext (readNamedClass_past hnamed) (readNamedClass_past hnamed') htx
        · exact .both _ (ht.bump hne)
        · rcases same_of_agree (agree_setOperator? ht) with
            ⟨hop, hop'⟩ | ⟨op, x, x', hop, hop', htx⟩
          · rw [hop, hop']
            refine (agree_readClassRange ht).bind ?_ ?_
            · intro set x x' hrange hrange' htx
              exact hnext (readClassRange_past hrange) (readClassRange_past hrange') htx
            · intro set x _ hP set' y h
              exact readClassMembers_within hP h
          · rw [hop, hop']
            exact hnext (setOperator?_past hop) (setOperator?_past hop') htx

/-! ### Classes -/

theorem readClass_past {tree : Nested Tree} (h : readClass s = some (tree, s₁)) : s₁.Past s := by
  simp only [readClass, Option.bind_eq_bind, Option.bind_eq_some_iff] at h
  obtain ⟨⟨p, x⟩, hstart, ⟨inner, y⟩, hinner, heq⟩ := h
  cases heq
  have hx := (readClassStart_after hstart).trans_past (bumpBlanks_past s)
  exact (readClassMembers_past hinner).after.trans_past hx

theorem agree_readClass (hs : Trails s s') (hne : s.rest ≠ []) :
    Agree Never (readClass s) (readClass s') := by
  refine (agree_readClassStart (hs.bumpBlanks hne)).bind ?_ ?_
  · intro p x x' _ _ ht
    refine (agree_readClassMembers _ _ _ _ ht (Nat.lt_succ_self _) (Nat.lt_succ_self _)).bind ?_ ?_
    · intro inner y y' _ _ hty
      exact .both _ hty
    · intro inner y _ hP
      exact hP.elim
  · intro p x _ hP tree y h
    obtain ⟨⟨inner, z⟩, hinner, -⟩ := Option.bind_eq_some_iff.mp h
    exact readClassMembers_within hP hinner

end MetricScraper.Pattern
