import MetricScraper.Proofs.Pattern.Cursor

/-!
# Items before a closing parenthesis

The readers of numbers, properties, escapes and single items, each with what it leaves and with what
it makes of two cursors of which the one trails the other.
-/

namespace MetricScraper.Pattern

open Cursor

variable {s s' s₁ : Cursor}

/-! ### Reading on and on -/

/-- Reads characters that have a property. -/
def readWhile (p : Char → Bool) : Nat → Cursor → List Char × Cursor
  | 0, s => ([], s)
  | fuel + 1, s =>
    match s.head with
    | some c =>
      if p c then
        let (cs, s) := readWhile p fuel s.bumpBlanks
        (c :: cs, s)
      else ([], s)
    | none => ([], s)

theorem readWhile_after (p : Char → Bool) (fuel : Nat) (s : Cursor) :
    (readWhile p fuel s).2.After s := by
  induction fuel generalizing s with
  | zero => exact .refl s
  | succ fuel ih =>
    unfold readWhile
    split
    · split
      · exact (ih _).trans (bumpBlanks_past s).after
      · exact .refl s
    · exact .refl s

theorem trails_readWhile {p : Char → Bool} (hp : p ')' = false) (fuel fuel' : Nat)
    (hs : Trails s s') (hfuel : s.rest.length < fuel) (hfuel' : s'.rest.length < fuel') :
    (readWhile p fuel' s').1 = (readWhile p fuel s).1 ∧
      Trails (readWhile p fuel s).2 (readWhile p fuel' s').2 := by
  induction fuel generalizing fuel' s s' with
  | zero => omega
  | succ fuel ih =>
    cases fuel' with
    | zero => omega
    | succ fuel' =>
      cases hc : s.head with
      | none =>
        have hend : readWhile p (fuel + 1) s = ([], s) := by simp [readWhile, hc]
        have hend' : readWhile p (fuel' + 1) s' = ([], s') := by
          rcases hs.head_of_none hc with hc' | hclose
          · simp [readWhile, hc']
          · have hc' : s'.head = some ')' := by rw [Cursor.head, hclose]; rfl
            simp [readWhile, hc', hp]
        rw [hend, hend']
        exact ⟨rfl, hs⟩
      | some c =>
        have hne := ne_nil_of_head hc
        simp only [readWhile, hc, hs.head hc]
        split
        · have hlt := (bumpBlanks_past s).length_lt hne
          have hlt' := (bumpBlanks_past s').length_lt (hs.ne_nil hne)
          obtain ⟨heq, ht⟩ := ih fuel' (hs.bumpBlanks hne) (by omega) (by omega)
          exact ⟨congrArg (c :: ·) heq, ht⟩
        · exact ⟨rfl, hs⟩

/-- Reads what characters stand for, up to a closing brace, which it leaves. -/
def readToBrace {α : Type} (f : Char → Option α) : Nat → Cursor → Option (List α × Cursor)
  | 0, _ => none
  | fuel + 1, s =>
    s.head.bind fun c =>
      if c = '\x7d' then some ([], s)
      else
        (f c).bind fun a =>
          (readToBrace f fuel s.bumpBlanks).bind fun p => some (a :: p.1, p.2)

theorem readToBrace_spec {α : Type} {f : Char → Option α} {fuel : Nat} {as : List α}
    (h : readToBrace f fuel s = some (as, s₁)) : s₁.After s ∧ s₁.head = some '\x7d' := by
  induction fuel generalizing s as with
  | zero => cases h
  | succ fuel ih =>
    obtain ⟨c, hc, h⟩ := Option.bind_eq_some_iff.mp h
    split at h
    · rename_i hbrace
      cases h
      exact ⟨.refl _, hbrace ▸ hc⟩
    · simp only [Option.bind_eq_some_iff] at h
      obtain ⟨a, ha, ⟨as', s₂⟩, hrest, heq⟩ := h
      cases heq
      obtain ⟨hafter, hbrace⟩ := ih hrest
      exact ⟨hafter.trans (bumpBlanks_past s).after, hbrace⟩

/-- A reader that leaves a closing brace finds none behind the text. -/
theorem brace_not_closing (hs : s.rest <:+ closing) : ¬ (s₁.After s ∧ s₁.head = some '\x7d') := by
  intro h
  have hmem : '\x7d' ∈ closing := hs.subset (mem_of_after h.1 h.2)
  exact not_mem_closing (by decide) (by decide) hmem

theorem agree_readToBrace {α : Type} (f : Char → Option α) (fuel fuel' : Nat) (hs : Trails s s')
    (hfuel : s.rest.length < fuel) (hfuel' : s'.rest.length < fuel') :
    Agree Never (readToBrace f fuel s) (readToBrace f fuel' s') := by
  induction fuel generalizing fuel' s s' with
  | zero => omega
  | succ fuel ih =>
    cases fuel' with
    | zero => omega
    | succ fuel' =>
      refine agree_of_head hs ?_ ?_ ?_ ?_
      · intro hc
        simp [readToBrace, hc]
      · intro hc
        simp [readToBrace, hc]
      · intro hclose as x h
        exact brace_not_closing (by rw [hclose]) (readToBrace_spec h)
      · intro c hc hc'
        have hne := ne_nil_of_head hc
        simp only [readToBrace, hc, hc', Option.bind_some]
        split
        · exact .both [] hs
        · cases f c with
          | none => exact .none _
          | some a =>
            have hlt := (bumpBlanks_past s).length_lt hne
            have hlt' := (bumpBlanks_past s').length_lt (hs.ne_nil hne)
            refine (ih fuel' (hs.bumpBlanks hne) (by omega) (by omega)).bind ?_ ?_
            · intro as x x' _ _ ht
              exact .both (a :: as) ht
            · intro as x _ hP
              exact hP.elim

/-! ### Hexadecimal numbers -/

theorem readHexDigits_after {k : Nat} {ds : List Nat} (h : readHexDigits k s = some (ds, s₁)) :
    s₁.After s := by
  induction k generalizing s ds with
  | zero =>
    cases h
    exact .refl _
  | succ k ih =>
    simp only [readHexDigits, Option.bind_eq_bind, Option.bind_eq_some_iff] at h
    obtain ⟨c, hc, d, hd, ⟨ds', s₂⟩, hrest, heq⟩ := h
    cases heq
    exact (ih hrest).trans (bumpBlanks_past s).after

theorem agree_readHexDigits (k : Nat) (hs : Trails s s') :
    Agree Beyond (readHexDigits k s) (readHexDigits k s') := by
  induction k generalizing s s' with
  | zero => exact .both [] hs
  | succ k ih =>
    refine agree_of_head hs ?_ ?_ ?_ ?_
    · intro hc
      simp [readHexDigits, hc]
    · intro hc
      simp [readHexDigits, hc]
    · intro hclose ds s₁ h
      refine beyond_of_past ?_ hclose
      simp only [readHexDigits, Option.bind_eq_bind, Option.bind_eq_some_iff] at h
      obtain ⟨c, hc, d, hd, ⟨ds', s₂⟩, hrest, heq⟩ := h
      cases heq
      exact (readHexDigits_after hrest).trans_past (bumpBlanks_past s')
    · intro c hc hc'
      simp only [readHexDigits, hc, hc', Option.bind_eq_bind, Option.bind_some]
      cases Unicode.CharSet.hexDigit? c with
      | none => exact .none _
      | some d =>
        refine (ih (hs.bumpBlanks (ne_nil_of_head hc))).bind ?_ ?_
        · intro ds x x' _ _ ht
          exact .both (d :: ds) ht
        · intro ds x _ hP b x₁ hb
          cases hb
          exact hP

theorem readHexBraces_eq (fuel : Nat) (s : Cursor) :
    readHexBraces fuel s = readToBrace Unicode.CharSet.hexDigit? fuel s := by
  induction fuel generalizing s with
  | zero => rfl
  | succ fuel ih =>
    simp only [readHexBraces, readToBrace, ih]
    rfl

theorem readHex_past {x : Char × Bool} (h : readHex s = some (x, s₁)) : s₁.Past s := by
  simp only [readHex, Option.bind_eq_bind, Option.bind_eq_some_iff] at h
  obtain ⟨kind, hkind, h⟩ := h
  split at h
  · simp only [Option.bind_eq_some_iff] at h
    obtain ⟨⟨ds, s₂⟩, hds, h⟩ := h
    split at h
    · cases h
    · simp only [Option.bind_eq_some_iff] at h
      obtain ⟨c, hc, heq⟩ := h
      cases heq
      rw [readHexBraces_eq] at hds
      have hread := (readToBrace_spec hds).1.trans (bumpBlanks_past _).after
      exact ((bumpBlanks_past s₂).after.trans hread).trans_past (bumpBlanks_past s)
  · simp only [Option.bind_eq_some_iff] at h
    obtain ⟨⟨ds, s₂⟩, hds, c, hc, heq⟩ := h
    cases heq
    exact (readHexDigits_after hds).trans_past (bumpBlanks_past s)

theorem agree_readHex (hs : Trails s s') : Agree Beyond (readHex s) (readHex s') := by
  refine agree_of_head hs ?_ ?_ (fun hclose x s₁ h => beyond_of_past (readHex_past h) hclose) ?_
  · intro hc
    simp [readHex, hc]
  · intro hc
    simp [readHex, hc]
  · intro kind hc hc'
    have ht := hs.bumpBlanks (ne_nil_of_head hc)
    simp only [readHex, hc, hc', Option.bind_eq_bind, Option.bind_some]
    by_cases hbrace : s.bumpBlanks.head = some '\x7b'
    · have hne := ne_nil_of_head hbrace
      rw [if_pos hbrace, if_pos (ht.head hbrace)]
      rw [readHexBraces_eq, readHexBraces_eq]
      have hagree := agree_readToBrace Unicode.CharSet.hexDigit? _ _ (ht.bumpBlanks hne)
        (Nat.lt_succ_self _) (Nat.lt_succ_self _)
      refine hagree.bind ?_ ?_
      · intro ds x x' hds _ htx
        have hx := ne_nil_of_head (readToBrace_spec hds).2
        dsimp only
        split
        · exact .none _
        · cases charOfHex? ds with
          | none => exact .none _
          | some c => exact .both (c, false) (htx.bumpBlanks hx)
      · intro ds x _ hP
        exact hP.elim
    · rw [if_neg hbrace, if_neg fun h => hbrace ((ht.head_iff (by decide)).mp h)]
      refine (agree_readHexDigits _ ht).bind ?_ ?_
      · intro ds x x' _ _ htx
        cases hchar : charOfHex? ds with
        | none => simpa [hchar] using Agree.none Beyond
        | some c => simpa [hchar] using Agree.both (c, decide (kind = 'x')) htx
      · intro ds x _ hP b x₁ hb
        simp only [Option.bind_eq_some_iff] at hb
        obtain ⟨c, -, heq⟩ := hb
        cases heq
        exact hP

/-! ### Counts -/

theorem readCountDigits_eq (fuel : Nat) (s : Cursor) :
    readCountDigits fuel s = readWhile (fun c => '0' ≤ c ∧ c ≤ '9') fuel s := by
  induction fuel generalizing s with
  | zero => rfl
  | succ fuel ih =>
    rw [readCountDigits, readWhile]
    cases s.head with
    | none => rfl
    | some c => simp only [ih, decide_eq_true_eq]

theorem skipWhite_after (s : Cursor) : (skipWhite s).After s := List.dropWhile_suffix _

theorem trails_skipWhite (hs : Trails s s') : Trails (skipWhite s) (skipWhite s') := by
  cases hs with
  | behind =>
    have hdrop : (s.rest ++ closing).dropWhile Text.isBlank =
        s.rest.dropWhile Text.isBlank ++ closing := dropWhile_append_closing (by decide) _
    have heq : skipWhite (s.extend closing) = (skipWhite s).extend closing := by
      simp [skipWhite, Cursor.extend, Cursor.withRest, hdrop]
    rw [heq]
    exact .behind
  | lost hnil => exact .lost (by simp [skipWhite, Cursor.withRest, hnil])

theorem readCount_after (s : Cursor) : (readCount s).2.After s := by
  have hwhite := (readWhile_after (fun c => '0' ≤ c ∧ c ≤ '9') ((skipWhite s).rest.length + 1)
    (skipWhite s)).trans (skipWhite_after s)
  rw [← readCountDigits_eq] at hwhite
  exact (skipBlanks_after _).trans ((skipWhite_after _).trans hwhite)

theorem trails_readCount (hs : Trails s s') :
    (readCount s').1 = (readCount s).1 ∧ Trails (readCount s).2 (readCount s').2 := by
  obtain ⟨heq, ht⟩ := trails_readWhile (p := fun c => '0' ≤ c ∧ c ≤ '9') (by decide) _ _
    (trails_skipWhite hs) (Nat.lt_succ_self _) (Nat.lt_succ_self _)
  rw [← readCountDigits_eq, ← readCountDigits_eq] at heq ht
  refine ⟨?_, (trails_skipWhite ht).skipBlanks⟩
  simp only [readCount, heq]

/-- The second count in braces, or the closing brace in its place. -/
def readSecondCount (least : Option Nat) (s : Cursor) : Option ((Nat × Option Nat) × Cursor) :=
  match s.head with
  | none => none
  | some '\x7d' => least.map fun n => ((n, none), s)
  | some _ =>
    let (most, s) := readCount s
    match least, most with
    | some n, some m => some ((n, some m), s)
    | _, _ => none

/-- Both counts in braces, from what follows the first one. -/
def readCountPair (least : Option Nat) (c : Char) (s : Cursor) :
    Option ((Nat × Option Nat) × Cursor) :=
  if c = ',' then readSecondCount least s.bumpBlanks else least.map fun n => ((n, some n), s)

/-- The closing brace after counts that fit together. -/
def closeCounts (p : (Nat × Option Nat) × Cursor) : Option ((Nat × Option Nat) × Cursor) :=
  if p.2.head ≠ some '\x7d' then none
  else if (p.1.2.getD p.1.1) < p.1.1 then none
  else some (p.1, p.2.bumpBlanks)

theorem readCounts_eq (s : Cursor) :
    readCounts s =
      if s.bumpBlanks.atEnd then none
      else (readCount s.bumpBlanks).2.head.bind fun c =>
        (readCountPair (readCount s.bumpBlanks).1 c (readCount s.bumpBlanks).2).bind
          closeCounts := by
  rfl

theorem readSecondCount_after {least : Option Nat} {p : Nat × Option Nat}
    (h : readSecondCount least s = some (p, s₁)) : s₁.After s := by
  unfold readSecondCount at h
  split at h
  · cases h
  · obtain ⟨m, -, heq⟩ := Option.map_eq_some_iff.mp h
    cases heq
    exact .refl _
  · dsimp only at h
    split at h
    · cases h
      exact readCount_after _
    · cases h

theorem readCountPair_after {least : Option Nat} {c : Char} {p : Nat × Option Nat}
    (h : readCountPair least c s = some (p, s₁)) : s₁.After s := by
  unfold readCountPair at h
  split at h
  · exact (readSecondCount_after h).trans (bumpBlanks_past s).after
  · obtain ⟨m, -, heq⟩ := Option.map_eq_some_iff.mp h
    cases heq
    exact .refl _

theorem closeCounts_eq_some {p q : (Nat × Option Nat) × Cursor} (h : closeCounts p = some q) :
    p.2.head = some '\x7d' ∧ q.2 = p.2.bumpBlanks := by
  unfold closeCounts at h
  split at h
  · cases h
  · rename_i hbrace
    split at h
    · cases h
    · cases h
      exact ⟨not_not.mp hbrace, rfl⟩

/-- Counts end with a closing brace, after the first of them. -/
theorem readCounts_spec {p : Nat × Option Nat} (h : readCounts s = some (p, s₁)) :
    ∃ x : Cursor, x.After (readCount s.bumpBlanks).2 ∧ x.head = some '\x7d' ∧
      s₁ = x.bumpBlanks := by
  rw [readCounts_eq] at h
  split at h
  · cases h
  · simp only [Option.bind_eq_some_iff] at h
    obtain ⟨c, hc, ⟨q, x⟩, hq, h⟩ := h
    obtain ⟨hbrace, hbump⟩ := closeCounts_eq_some h
    exact ⟨x, readCountPair_after hq, hbrace, hbump⟩

theorem readCounts_past {p : Nat × Option Nat} (h : readCounts s = some (p, s₁)) : s₁.Past s := by
  obtain ⟨x, hafter, -, rfl⟩ := readCounts_spec h
  have hcount := hafter.trans (readCount_after _)
  exact ((bumpBlanks_past x).after.trans hcount).trans_past (bumpBlanks_past s)

/-- There are no counts where no closing brace follows. -/
theorem readCounts_closing (hs : (readCount s.bumpBlanks).2.rest <:+ closing) :
    readCounts s = none := by
  rw [Option.eq_none_iff_forall_not_mem]
  rintro ⟨p, s₁⟩ h
  obtain ⟨x, hafter, hbrace, -⟩ := readCounts_spec h
  exact brace_not_closing hs ⟨hafter, hbrace⟩

theorem agree_readSecondCount (least : Option Nat) (hs : Trails s s') :
    Agree Within (readSecondCount least s) (readSecondCount least s') := by
  refine agree_of_head hs ?_ ?_
    (fun hclose p x h => within_of_after (readSecondCount_after h) hclose) ?_
  · intro hc
    simp [readSecondCount, hc]
  · intro hc
    simp [readSecondCount, hc]
  · intro c hc hc'
    obtain ⟨hcount, ht⟩ := trails_readCount hs
    by_cases hbrace : c = '\x7d'
    · subst hbrace
      cases least with
      | none => simpa [readSecondCount, hc, hc'] using Agree.none Within
      | some m => simpa [readSecondCount, hc, hc'] using Agree.both (m, none) hs
    · simp only [readSecondCount, hc, hc', hcount]
      split
      · exact .both _ ht
      · exact .none _

theorem agree_readCountPair (least : Option Nat) {c : Char} (hs : Trails s s')
    (hc : s.head = some c) :
    Agree Within (readCountPair least c s) (readCountPair least c s') := by
  unfold readCountPair
  split
  · exact agree_readSecondCount least (hs.bumpBlanks (ne_nil_of_head hc))
  · cases least with
    | none => exact .none _
    | some m => exact .both (m, some m) hs

theorem agree_closeCounts {p : Nat × Option Nat} (hs : Trails s s') :
    Agree Never (closeCounts (p, s)) (closeCounts (p, s')) := by
  unfold closeCounts
  by_cases hbrace : s.head = some '\x7d'
  · have hbrace' := hs.head hbrace
    have ht := hs.bumpBlanks (ne_nil_of_head hbrace)
    simp only [hbrace, hbrace', ne_eq, not_true_eq_false, if_false]
    split
    · exact .none _
    · exact .both p ht
  · have hbrace' : s'.head ≠ some '\x7d' := fun h => hbrace ((hs.head_iff (by decide)).mp h)
    rw [if_pos hbrace, if_pos hbrace']
    exact .none _

theorem agree_readCounts (hs : Trails s s') (hne : s.rest ≠ []) :
    Agree Never (readCounts s) (readCounts s') := by
  have hend : ∀ {x : Cursor}, (readCount x.bumpBlanks).2.head = none → readCounts x = none := by
    intro x hc
    rw [readCounts_eq, hc]
    split <;> rfl
  have hmore : ∀ {x : Cursor} {c : Char}, (readCount x.bumpBlanks).2.head = some c →
      readCounts x =
        (readCountPair (readCount x.bumpBlanks).1 c (readCount x.bumpBlanks).2).bind
          closeCounts := by
    intro x c hc
    have hrest := List.ne_nil_of_mem (mem_of_after (readCount_after _) hc)
    rw [readCounts_eq, hc, if_neg (by simpa [Cursor.atEnd] using hrest)]
    rfl
  obtain ⟨hcount, ht⟩ := trails_readCount (hs.bumpBlanks hne)
  cases hc : (readCount s.bumpBlanks).2.head with
  | none =>
    rw [hend hc]
    rcases ht.head_of_none hc with hc' | hclose
    · rw [hend hc']
      exact .none _
    · rw [readCounts_closing (by rw [hclose])]
      exact .none _
  | some c =>
    rw [hmore hc, hmore (ht.head hc), hcount]
    refine (agree_readCountPair _ ht hc).bind ?_ ?_
    · intro p x x' _ _ htx
      exact agree_closeCounts htx
    · intro p x _ hP q x₁ hq
      exact brace_not_closing hP ⟨.refl _, (closeCounts_eq_some hq).1⟩

/-! ### Properties -/

theorem readPropertyName_eq (fuel : Nat) (s : Cursor) :
    readPropertyName fuel s = readToBrace some fuel s := by
  induction fuel generalizing s with
  | zero => rfl
  | succ fuel ih =>
    simp only [readPropertyName, readToBrace, ih]
    rfl

/-- Reads what stands for a property, after its letter. -/
def readPropertyText (negated : Bool) (s : Cursor) : Option ((PropertyQuery × Bool) × Cursor) :=
  s.head.bind fun c =>
    if c = '\x7b' then
      (readToBrace some (s.bumpBlanks.rest.length + 1) s.bumpBlanks).bind fun p =>
        some (((propertyQuery p.1).1, negated != (propertyQuery p.1).2), p.2.bump)
    else if c = '\\' then none
    else some ((.named [c], negated), s.bumpBlanks)

theorem readProperty_eq (s : Cursor) :
    readProperty s = s.head.bind fun letter =>
      readPropertyText (decide (letter = 'P')) s.bumpBlanks := by
  unfold readProperty
  simp only [readPropertyName_eq]
  rfl

theorem readPropertyText_past {negated : Bool} {q : PropertyQuery × Bool}
    (h : readPropertyText negated s = some (q, s₁)) : s₁.Past s := by
  simp only [readPropertyText, Option.bind_eq_some_iff] at h
  obtain ⟨c, hc, h⟩ := h
  split at h
  · simp only [Option.bind_eq_some_iff] at h
    obtain ⟨⟨cs, s₂⟩, hcs, heq⟩ := h
    cases heq
    have hread := (readToBrace_spec hcs).1
    exact ((bump_past s₂).after.trans hread).trans_past (bumpBlanks_past s)
  · split at h
    · cases h
    · cases h
      exact bumpBlanks_past s

theorem readProperty_past {q : PropertyQuery × Bool} (h : readProperty s = some (q, s₁)) :
    s₁.Past s := by
  rw [readProperty_eq] at h
  obtain ⟨letter, -, h⟩ := Option.bind_eq_some_iff.mp h
  exact (readPropertyText_past h).after.trans_past (bumpBlanks_past s)

theorem agree_readPropertyText (negated : Bool) (hs : Trails s s') :
    Agree Beyond (readPropertyText negated s) (readPropertyText negated s') := by
  refine agree_of_head hs ?_ ?_
    (fun hclose q s₁ h => beyond_of_past (readPropertyText_past h) hclose) ?_
  · intro hc
    simp [readPropertyText, hc]
  · intro hc
    simp [readPropertyText, hc]
  · intro c hc hc'
    have ht := hs.bumpBlanks (ne_nil_of_head hc)
    simp only [readPropertyText, hc, hc', Option.bind_some]
    split
    · have hagree := agree_readToBrace some _ _ ht (Nat.lt_succ_self _) (Nat.lt_succ_self _)
      refine hagree.bind ?_ ?_
      · intro cs x x' hcs _ htx
        exact .both _ (htx.bump (ne_nil_of_head (readToBrace_spec hcs).2))
      · intro cs x _ hP
        exact hP.elim
    · split
      · exact .none _
      · exact .both _ ht

theorem agree_readProperty (hs : Trails s s') :
    Agree Beyond (readProperty s) (readProperty s') := by
  refine agree_of_head hs ?_ ?_
    (fun hclose q s₁ h => beyond_of_past (readProperty_past h) hclose) ?_
  · intro hc
    simp [readProperty, hc]
  · intro hc
    simp [readProperty, hc]
  · intro letter hc hc'
    rw [readProperty_eq, readProperty_eq, hc, hc']
    exact agree_readPropertyText _ (hs.bumpBlanks (ne_nil_of_head hc))

/-! ### Word boundaries -/

theorem readBoundaryName_eq (fuel : Nat) (s : Cursor) :
    readBoundaryName fuel s = readWhile isBoundaryChar fuel s := by
  induction fuel generalizing s with
  | zero => rfl
  | succ fuel ih =>
    rw [readBoundaryName, readWhile]
    cases s.head with
    | none => rfl
    | some c => simp only [ih]

/-- The word boundary of a name. -/
def boundaryOf? (name : List Char) : Option Assertion :=
  match String.ofList name with
  | "start" => some .wordStart
  | "end" => some .wordEnd
  | "start-half" => some .wordStartHalf
  | "end-half" => some .wordEndHalf
  | _ => none

theorem readBoundary_eq (s : Cursor) :
    readBoundary s =
      if s.head ≠ some '\x7b' then some (.wordBoundary, s)
      else
        match s.bumpBlanks.head with
        | none => none
        | some c =>
          if !isBoundaryChar c then some (.wordBoundary, s)
          else
            let p := readWhile isBoundaryChar (s.bumpBlanks.rest.length + 1) s.bumpBlanks
            if p.2.head ≠ some '\x7d' then none
            else (boundaryOf? p.1).map fun kind => (kind, p.2.bump) := by
  unfold readBoundary
  simp only [readBoundaryName_eq]
  by_cases hbrace : s.head = some '\x7b'
  · rw [if_neg (not_not.mpr hbrace), if_neg (not_not.mpr hbrace)]
    cases s.bumpBlanks.head with
    | none => rfl
    | some c =>
      dsimp only
      generalize readWhile isBoundaryChar (s.bumpBlanks.rest.length + 1) s.bumpBlanks = p
      congr 2
      unfold boundaryOf?
      split <;> simp_all
  · rw [if_pos hbrace, if_pos hbrace]

theorem readBoundary_after {kind : Assertion} (h : readBoundary s = some (kind, s₁)) :
    s₁.After s := by
  rw [readBoundary_eq] at h
  split at h
  · cases h
    exact .refl _
  · split at h
    · cases h
    · split at h
      · cases h
        exact .refl _
      · dsimp only at h
        split at h
        · cases h
        · obtain ⟨k, -, heq⟩ := Option.map_eq_some_iff.mp h
          cases heq
          have hname := readWhile_after isBoundaryChar (s.bumpBlanks.rest.length + 1) s.bumpBlanks
          exact (bump_past _).after.trans (hname.trans (bumpBlanks_past s).after)

/-- A brace stands next that begins no counts. -/
structure Stuck (s : Cursor) : Prop where
  head : s.head = some '\x7b'
  counts : readCounts s = none

/-- Behind a word boundary a brace at the end of the text is an error, and one before the
parenthesis is left to be read as the start of counts, which it is not. -/
theorem agree_readBoundary (hs : Trails s s') :
    Agree (fun kind x => kind = .wordBoundary ∧ Stuck x) (readBoundary s) (readBoundary s') := by
  rw [readBoundary_eq, readBoundary_eq]
  by_cases hbrace : s.head = some '\x7b'
  · have hbrace' := hs.head hbrace
    have hne := ne_nil_of_head hbrace
    have ht := hs.bumpBlanks hne
    rw [if_neg (not_not.mpr hbrace), if_neg (not_not.mpr hbrace')]
    cases hc : s.bumpBlanks.head with
    | none =>
      refine .astray ?_
      intro kind x h
      rcases ht.head_of_none hc with hc' | hclose
      · rw [hc'] at h
        cases h
      · have hc' : s'.bumpBlanks.head = some ')' := by rw [Cursor.head, hclose]; rfl
        have hchar : isBoundaryChar ')' = false := by decide
        rw [hc'] at h
        simp only [hchar, Bool.not_false, if_true] at h
        cases h
        have hcount : (readCount s'.bumpBlanks).2.rest <:+ closing := by
          have hafter := readCount_after s'.bumpBlanks
          rwa [After, hclose] at hafter
        exact ⟨rfl, hbrace', readCounts_closing hcount⟩
    | some c =>
      rw [ht.head hc]
      dsimp only
      split
      · exact .both Assertion.wordBoundary hs
      · obtain ⟨hname, htn⟩ := trails_readWhile (p := isBoundaryChar) (by decide) _ _ ht
          (Nat.lt_succ_self _) (Nat.lt_succ_self _)
        rw [hname]
        by_cases hend :
            (readWhile isBoundaryChar (s.bumpBlanks.rest.length + 1) s.bumpBlanks).2.head =
              some '\x7d'
        · rw [if_neg (not_not.mpr hend), if_neg (not_not.mpr (htn.head hend))]
          cases boundaryOf? _ with
          | none => exact .none _
          | some kind => exact .both kind (htn.bump (ne_nil_of_head hend))
        · rw [if_pos hend, if_pos fun h => hend ((htn.head_iff (by decide)).mp h)]
          exact .none _
  · rw [if_pos hbrace, if_pos fun h => hbrace ((hs.head_iff (by decide)).mp h)]
    exact .both Assertion.wordBoundary hs

/-! ### Escapes and items -/

/-- What a backslash and a single letter stand for. -/
def letterEscape? (c : Char) : Option Item := (readEscape ⟨[c], false, []⟩).map Prod.fst

theorem readEscape_eq (s : Cursor) :
    readEscape s = s.head.bind fun c =>
      if c = 'x' ∨ c = 'u' ∨ c = 'U' then
        (readHex s).map fun p => (Item.literal p.1.1 p.1.2, p.2)
      else if c = 'p' ∨ c = 'P' then
        (readProperty s).map fun p => (Item.property p.1.1 p.1.2, p.2)
      else if c = 'b' then (readBoundary s.bump).map fun p => (Item.assertion p.1, p.2)
      else (letterEscape? c).map fun item => (item, s.bump) := by
  unfold letterEscape? readEscape
  cases s.head with
  | none => rfl
  | some c =>
    simp only [Cursor.head, List.head?_cons, Option.bind_eq_bind, Option.bind_some]
    by_cases hhex : c = 'x' ∨ c = 'u' ∨ c = 'U'
    · have hdigit : c.isDigit = false := by rcases hhex with rfl | rfl | rfl <;> decide
      rw [if_neg (by simp [hdigit]), if_pos hhex, if_pos hhex]
      cases readHex s <;> rfl
    · by_cases hprop : c = 'p' ∨ c = 'P'
      · have hdigit : c.isDigit = false := by rcases hprop with rfl | rfl <;> decide
        rw [if_neg (by simp [hdigit]), if_neg hhex, if_pos hprop, if_neg hhex, if_pos hprop]
        cases readProperty s <;> rfl
      · by_cases hbound : c = 'b'
        · subst hbound
          rw [if_neg (by decide), if_neg hhex, if_neg hprop, if_neg hhex, if_neg hprop, if_pos rfl]
          cases readBoundary s.bump <;> rfl
        · simp only [hhex, hprop, hbound, if_false]
          split
          · rfl
          · split
            all_goals try rfl
            · exact absurd rfl hbound
            · split <;> rfl

theorem readEscape_past {item : Item} (h : readEscape s = some (item, s₁)) : s₁.Past s := by
  rw [readEscape_eq] at h
  obtain ⟨c, -, h⟩ := Option.bind_eq_some_iff.mp h
  split at h
  · obtain ⟨p, hp, heq⟩ := Option.map_eq_some_iff.mp h
    cases heq
    exact readHex_past hp
  · split at h
    · obtain ⟨p, hp, heq⟩ := Option.map_eq_some_iff.mp h
      cases heq
      exact readProperty_past hp
    · split at h
      · obtain ⟨p, hp, heq⟩ := Option.map_eq_some_iff.mp h
        cases heq
        exact (readBoundary_after hp).trans_past (bump_past s)
      · obtain ⟨item, -, heq⟩ := Option.map_eq_some_iff.mp h
        cases heq
        exact bump_past _

/-- What is left of the longer text is behind the parenthesis, or an unfinished word boundary. -/
def BeyondItem (item : Item) (s : Cursor) : Prop :=
  Beyond item s ∨ (item = .assertion .wordBoundary ∧ Stuck s)

theorem agree_readEscape (hs : Trails s s') :
    Agree BeyondItem (readEscape s) (readEscape s') := by
  refine agree_of_head hs ?_ ?_
    (fun hclose item x h => Or.inl (beyond_of_past (readEscape_past h) hclose)) ?_
  · intro hc
    rw [readEscape_eq, hc]
    rfl
  · intro hc
    rw [readEscape_eq, hc]
    rfl
  · intro c hc hc'
    rw [readEscape_eq, readEscape_eq, hc, hc', Option.bind_some, Option.bind_some]
    have hbump := hs.bump (ne_nil_of_head hc)
    split
    · refine (agree_readHex hs).map (fun p => Item.literal p.1 p.2) ?_
      intro p x hP
      exact Or.inl hP
    · split
      · refine (agree_readProperty hs).map (fun p => Item.property p.1 p.2) ?_
        intro p x hP
        exact Or.inl hP
      · split
        · refine (agree_readBoundary hbump).map Item.assertion ?_
          rintro kind x ⟨rfl, hstuck⟩
          exact Or.inr ⟨rfl, hstuck⟩
        · cases letterEscape? c with
          | none => exact .none _
          | some item => exact .both item hbump

theorem readItem_past {item : Item} (h : readItem s = some (item, s₁)) : s₁.Past s := by
  simp only [readItem, Option.bind_eq_bind, Option.bind_eq_some_iff] at h
  obtain ⟨c, -, h⟩ := h
  split at h
  · exact (readEscape_past h).after.trans_past (bump_past s)
  all_goals
    cases h
    exact bump_past _

theorem agree_readItem (hs : Trails s s') (hne : s.rest ≠ []) :
    Agree BeyondItem (readItem s) (readItem s') := by
  obtain ⟨c, cs, hrest⟩ := List.exists_cons_of_ne_nil hne
  have hc : s.head = some c := by rw [Cursor.head, hrest]; rfl
  have hbump := hs.bump hne
  simp only [readItem, hc, hs.head hc, Option.bind_eq_bind, Option.bind_some]
  split
  · exact agree_readEscape hbump
  all_goals exact .both _ hbump

theorem readClassItem_past {item : Item} (h : readClassItem s = some (item, s₁)) :
    s₁.Past s := by
  simp only [readClassItem, Option.bind_eq_bind, Option.bind_eq_some_iff] at h
  obtain ⟨c, -, h⟩ := h
  split at h
  · exact (readEscape_past h).after.trans_past (bump_past s)
  · cases h
    exact bump_past _

theorem agree_readClassItem (hs : Trails s s') :
    Agree BeyondItem (readClassItem s) (readClassItem s') := by
  refine agree_of_head hs ?_ ?_
    (fun hclose item x h => Or.inl (beyond_of_past (readClassItem_past h) hclose)) ?_
  · intro hc
    simp [readClassItem, hc]
  · intro hc
    simp [readClassItem, hc]
  · intro c hc hc'
    have hbump := hs.bump (ne_nil_of_head hc)
    simp only [readClassItem, hc, hc', Option.bind_eq_bind, Option.bind_some]
    split
    · exact agree_readEscape hbump
    · exact .both _ hbump

end MetricScraper.Pattern
