import MetricScraper.Proofs.Pattern.Brackets

/-!
# Patterns before a closing parenthesis

A pattern that leaves nothing unread is read in the same way before a closing parenthesis, up to the
parenthesis.  What is no pattern is read past the parenthesis, if at all.
-/

namespace MetricScraper.Pattern

open Cursor

variable {s s' s₁ s₂ : Cursor}

/-! ### Flags -/

/-- The part of a flag group that a character stands for. -/
def flagItem? (c : Char) : Option FlagItem :=
  if c = '-' then some .negation else (flag? c).map .flag

theorem readFlags_succ (fuel : Nat) (items : List FlagItem) (s : Cursor) :
    readFlags (fuel + 1) items s = s.head.bind fun c =>
      if c = ':' ∨ c = ')' then
        if items.head? = some .negation then none else some (items.reverse, s)
      else
        (flagItem? c).bind fun item =>
          if items.contains item then none else readFlags fuel (item :: items) s.bump := by
  rw [readFlags, Option.bind_eq_bind]
  congr 1
  funext c
  unfold flagItem?
  split
  · rfl
  · split <;> rfl

/-- What is left begins with the end of the flags. -/
theorem readFlags_spec {fuel : Nat} {items set : List FlagItem}
    (h : readFlags fuel items s = some (set, s₁)) :
    s₁.After s ∧ (s₁.head = some ':' ∨ s₁.head = some ')') := by
  induction fuel generalizing items s with
  | zero => cases h
  | succ fuel ih =>
    rw [readFlags_succ] at h
    obtain ⟨c, hc, h⟩ := Option.bind_eq_some_iff.mp h
    split at h
    · rename_i hend
      split at h
      · cases h
      · cases h
        refine ⟨.refl _, ?_⟩
        rcases hend with rfl | rfl
        · exact Or.inl hc
        · exact Or.inr hc
    · obtain ⟨item, -, h⟩ := Option.bind_eq_some_iff.mp h
      split at h
      · cases h
      · obtain ⟨hafter, hend⟩ := ih h
        exact ⟨hafter.trans (bump_past s).after, hend⟩

theorem agree_readFlags (fuel fuel' : Nat) (items : List FlagItem) (hs : Trails s s')
    (hfuel : s.rest.length < fuel) (hfuel' : s'.rest.length < fuel') :
    Agree Within (readFlags fuel items s) (readFlags fuel' items s') := by
  induction fuel generalizing fuel' items s s' with
  | zero => omega
  | succ fuel ih =>
    cases fuel' with
    | zero => omega
    | succ fuel' =>
      refine agree_of_head hs ?_ ?_
        (fun hclose set x h => within_of_after (readFlags_spec h).1 hclose) ?_
      · intro hc
        rw [readFlags_succ, hc]
        rfl
      · intro hc
        rw [readFlags_succ, hc]
        rfl
      · intro c hc hc'
        have hne := ne_nil_of_head hc
        rw [readFlags_succ, readFlags_succ, hc, hc', Option.bind_some, Option.bind_some]
        split
        · split
          · exact .none _
          · exact .both _ hs
        · cases flagItem? c with
          | none => exact .none _
          | some item =>
            simp only [Option.bind_some]
            split
            · exact .none _
            · have hlt := (bump_past s).length_lt hne
              have hlt' := (bump_past s').length_lt (hs.ne_nil hne)
              exact ih fuel' _ (hs.bump hne) (by omega) (by omega)

/-! ### Openings -/

theorem readGroupName_after (h : readGroupName s = some s₁) : s₁.After s := by
  unfold readGroupName at h
  dsimp only at h
  split at h
  · rename_i c cs d rest hname hafter
    split at h
    · cases h
      have hsuffix := List.dropWhile_suffix (l := s.rest) (fun c => decide (c ≠ '>'))
      rw [hafter] at hsuffix
      exact (List.suffix_cons d rest).trans hsuffix
    · cases h
  · cases h

theorem readGroupName_rel (hs : Trails s s') :
    Option.Rel Trails (readGroupName s) (readGroupName s') := by
  have hunnamed : ∀ {x : Cursor}, '>' ∉ x.rest → readGroupName x = none := by
    intro x hx
    unfold readGroupName
    rw [dropWhile_eq_nil_of_not_mem hx]
    cases x.rest.takeWhile (fun c => c ≠ '>') <;> rfl
  cases hs with
  | behind =>
    by_cases hmem : '>' ∈ s.rest
    · obtain ⟨htake, hdrop⟩ := takeWhile_append_of_mem hmem closing
      have hrest : (s.extend closing).rest = s.rest ++ closing := rfl
      have hnames : (s.extend closing).names = s.names := rfl
      simp only [readGroupName, hrest, hnames, htake, hdrop]
      cases hname : s.rest.takeWhile (fun c => c ≠ '>') with
      | nil => exact .none
      | cons c cs =>
        cases hafter : s.rest.dropWhile (fun c => c ≠ '>') with
        | nil =>
          have hall := List.dropWhile_eq_nil_iff.mp hafter '>' hmem
          simp at hall
        | cons d rest =>
          simp only [List.cons_append]
          by_cases hvalid : (isNameChar true c && cs.all (isNameChar false) &&
              !s.names.contains (c :: cs)) = true
          · rw [if_pos hvalid, if_pos hvalid]
            exact .some Trails.behind
          · rw [if_neg hvalid, if_neg hvalid]
            exact .none
    · have hmem' : '>' ∉ (s.extend closing).rest := by
        intro h
        rcases List.mem_append.mp h with h | h
        · exact hmem h
        · exact not_mem_closing (by decide) (by decide) h
      rw [hunnamed hmem, hunnamed hmem']
      exact .none
  | lost hnil =>
    rw [hunnamed (by simp [hnil])]
    exact .none

theorem rel_or {a a' b b' : Option Cursor} (h : Option.Rel Trails a a')
    (h' : Option.Rel Trails b b') : Option.Rel Trails (a.or b) (a'.or b') := by
  cases h with
  | some ht => exact .some ht
  | none => exact h'

theorem agree_map_rel {α : Type} {P : α → Cursor → Prop} {r r' : Option Cursor} (a : α)
    (h : Option.Rel Trails r r') : Agree P (r.map fun x => (a, x)) (r'.map fun x => (a, x)) := by
  cases h with
  | some ht => exact .both a ht
  | none => exact .none P

theorem isLookAround_eq (hs : Trails s s') : isLookAround s' = isLookAround s := by
  cases hs with
  | behind =>
    have hstarts : ∀ {text : List Char}, ')' ∉ text →
        text.isPrefixOf (s.extend closing).rest = text.isPrefixOf s.rest :=
      fun htext => isPrefixOf_append_closing htext s.rest
    simp only [isLookAround, List.any_cons, List.any_nil]
    rw [hstarts (by decide), hstarts (by decide), hstarts (by decide), hstarts (by decide)]
  | lost => rfl

/-- What flags begin: the rest of the group, or a group. -/
def endFlags (p : List FlagItem × Cursor) : Option (Opening × Cursor) :=
  if p.2.head = some ')' then
    if p.1.isEmpty then none else some (.flags p.1, p.2.bump)
  else some (.group false p.1, p.2.bump)

/-- Reads the flags of a group, or takes the group to be without any. -/
def readGroupFlags (s : Cursor) : Option (Opening × Cursor) :=
  match s.take? "?" with
  | none => some (.group true [], s)
  | some s => (readFlags (s.rest.length + 1) [] s).bind endFlags

theorem readOpening_eq (s : Cursor) :
    readOpening s =
      if isLookAround s.bump.skipBlanks then none
      else
        match (s.bump.skipBlanks.take? "?P<").or (s.bump.skipBlanks.take? "?<") with
        | some x => (readGroupName x).map fun y => (.group true [], y)
        | none => readGroupFlags s.bump.skipBlanks := by
  rfl

theorem endFlags_past {set : List FlagItem} {opening : Opening}
    (h : endFlags (set, s) = some (opening, s₁)) : s₁.Past s := by
  unfold endFlags at h
  split at h
  · split at h
    · cases h
    · cases h
      exact bump_past _
  · cases h
    exact bump_past _

theorem readGroupFlags_after {opening : Opening}
    (h : readGroupFlags s = some (opening, s₁)) : s₁.After s := by
  unfold readGroupFlags at h
  split at h
  · cases h
    exact .refl _
  · rename_i x hx
    obtain ⟨⟨set, y⟩, hflags, hend⟩ := Option.bind_eq_some_iff.mp h
    have hy := (readFlags_spec hflags).1.trans (take?_past (by decide) hx).after
    exact (endFlags_past hend).after.trans hy

theorem readOpening_past {opening : Opening} (h : readOpening s = some (opening, s₁)) :
    s₁.Past s := by
  have hskip : s.bump.skipBlanks.Past s := (skipBlanks_after _).trans_past (bump_past s)
  rw [readOpening_eq] at h
  split at h
  · cases h
  · split at h
    · rename_i x hx
      obtain ⟨y, hy, heq⟩ := Option.map_eq_some_iff.mp h
      cases heq
      have hmark : x.After s.bump.skipBlanks := by
        rcases Option.or_eq_some_iff.mp hx with hx | ⟨-, hx⟩
        · exact (take?_past (by decide) hx).after
        · exact (take?_past (by decide) hx).after
      exact ((readGroupName_after hy).trans hmark).trans_past hskip
    · exact (readGroupFlags_after h).trans_past hskip

theorem agree_readGroupFlags (hs : Trails s s') :
    Agree Beyond (readGroupFlags s) (readGroupFlags s') := by
  have htake := take?_rel "?" (by decide) hs
  unfold readGroupFlags
  generalize s.take? "?" = r, s'.take? "?" = r' at htake
  cases htake with
  | none => exact .both _ hs
  | some ht =>
    refine (agree_readFlags _ _ [] ht (Nat.lt_succ_self _) (Nat.lt_succ_self _)).bind ?_ ?_
    · intro set x x' hflags _ htx
      unfold endFlags
      rcases (readFlags_spec hflags).2 with hc | hc
      · rw [if_neg (by simp [hc]), if_neg (by simp [htx.head hc])]
        exact .both _ (htx.bump (ne_nil_of_head hc))
      · rw [if_pos hc, if_pos (htx.head hc)]
        split
        · exact .none _
        · exact .both _ (htx.bump (ne_nil_of_head hc))
    · intro set x _ hP opening y h
      exact hP.past (endFlags_past h)

theorem agree_readOpening (hs : Trails s s') (hne : s.rest ≠ []) :
    Agree Beyond (readOpening s) (readOpening s') := by
  have ht := (hs.bump hne).skipBlanks
  have hlong := take?_rel "?P<" (by decide) ht
  have hshort := take?_rel "?<" (by decide) ht
  rw [readOpening_eq, readOpening_eq, isLookAround_eq ht]
  split
  · exact .none _
  · have hmark := rel_or hlong hshort
    generalize (s.bump.skipBlanks.take? "?P<").or (s.bump.skipBlanks.take? "?<") = r,
      (s'.bump.skipBlanks.take? "?P<").or (s'.bump.skipBlanks.take? "?<") = r' at hmark
    cases hmark with
    | none => exact agree_readGroupFlags ht
    | some hx => exact agree_map_rel (Opening.group true []) (readGroupName_rel hx)

/-! ### Branches -/

/-- Reads the mark of a lazy repetition, and repeats the latest item. -/
def readRepetition (least : Nat) (most : Option Nat) (items : List (Nested Tree)) (s : Cursor) :
    Option (List (Nested Tree) × Cursor) :=
  (repeatLast least most (readLazyMark s).1 items).map fun items => (items, (readLazyMark s).2)

theorem readLazyMark_after (s : Cursor) : (readLazyMark s).2.After s := by
  unfold readLazyMark
  split
  · exact (bump_past s).after
  · exact .refl s

theorem readRepetition_after {least : Nat} {most : Option Nat} {items items' : List (Nested Tree)}
    (h : readRepetition least most items s = some (items', s₁)) : s₁.After s := by
  obtain ⟨a, -, heq⟩ := Option.map_eq_some_iff.mp h
  cases heq
  exact readLazyMark_after s

theorem agree_readRepetition (least : Nat) (most : Option Nat) (items : List (Nested Tree))
    (hs : Trails s s') :
    Agree Never (readRepetition least most items s) (readRepetition least most items s') := by
  have hmark : (readLazyMark s').1 = (readLazyMark s).1 ∧
      Trails (readLazyMark s).2 (readLazyMark s').2 := by
    simp only [readLazyMark, hs.head_iff (c := '?') (by decide)]
    split
    · rename_i hlazy
      exact ⟨rfl, hs.bump (ne_nil_of_head hlazy)⟩
    · exact ⟨rfl, hs⟩
  unfold readRepetition
  rw [hmark.1]
  cases repeatLast least most (readLazyMark s).1 items with
  | none => exact .none _
  | some items => exact .both items hmark.2

/-- The cursor in a part of the pattern where blanks count, or do not. -/
def Cursor.ignoring (s : Cursor) (ignore : Bool) : Cursor := { s with ignoreBlanks := ignore }

theorem ignoring_after (s : Cursor) (ignore : Bool) : (s.ignoring ignore).After s :=
  List.suffix_rfl

theorem Trails.ignoring (h : Trails s s') (ignore : Bool) :
    Trails (s.ignoring ignore) (s'.ignoring ignore) := by
  cases h with
  | behind => exact .behind
  | lost hnil => exact .lost hnil

/-- Whether blanks are passed over under some flags. -/
def ignores (set : List FlagItem) (ignore : Bool) : Bool :=
  (flagSetting? .ignoreBlanks true set).getD ignore

/-- Reads the rest of a group and the parenthesis that ends it, and what comes after it. -/
def closeGroup (fuel : Nat) (items branches : List (Nested Tree)) (ignore capturing : Bool)
    (set : List FlagItem) (p : Nested Tree × Cursor) : Option (Nested Tree × Cursor) :=
  if p.2.head ≠ some ')' then none
  else
    readBranches fuel ((p.1.around fun t => .group capturing set t) :: items) branches
      (p.2.bump.ignoring ignore)

/-- Reads a group, or the rest of one after a setting of flags; `ignore` says whether blanks are
passed over around it. -/
def readGroup (fuel : Nat) (items branches : List (Nested Tree)) (ignore : Bool)
    (p : Opening × Cursor) : Option (Nested Tree × Cursor) :=
  match p.1 with
  | .flags set =>
    readBranches fuel (Nested.flat (.flags set) :: items) branches
      (p.2.ignoring (ignores set ignore))
  | .group capturing set =>
    (readBranches fuel [] [] (p.2.ignoring (ignores set ignore))).bind
      (closeGroup fuel items branches ignore capturing set)

theorem readBranches_succ (fuel : Nat) (items branches : List (Nested Tree)) (s : Cursor) :
    readBranches (fuel + 1) items branches s =
      match s.skipBlanks.head with
      | none => some (joinBranches (joinSequence items :: branches), s.skipBlanks)
      | some ')' => some (joinBranches (joinSequence items :: branches), s.skipBlanks)
      | some '|' => readBranches fuel [] (joinSequence items :: branches) s.skipBlanks.bump
      | some '(' =>
        (readOpening s.skipBlanks).bind (readGroup fuel items branches s.skipBlanks.ignoreBlanks)
      | some '[' =>
        (readClass s.skipBlanks).bind fun p => readBranches fuel (p.1 :: items) branches p.2
      | some '?' =>
        (readRepetition 0 (some 1) items s.skipBlanks.bump).bind fun p =>
          readBranches fuel p.1 branches p.2
      | some '*' =>
        (readRepetition 0 none items s.skipBlanks.bump).bind fun p =>
          readBranches fuel p.1 branches p.2
      | some '+' =>
        (readRepetition 1 none items s.skipBlanks.bump).bind fun p =>
          readBranches fuel p.1 branches p.2
      | some '\x7b' =>
        (readCounts s.skipBlanks).bind fun p =>
          (readRepetition p.1.1 p.1.2 items p.2).bind fun q => readBranches fuel q.1 branches q.2
      | some _ =>
        (readItem s.skipBlanks).bind fun p =>
          readBranches fuel (Nested.flat p.1.toTree :: items) branches p.2 := by
  rw [readBranches]
  dsimp only
  congr 1
  all_goals simp only [readRepetition, Option.bind_map, Function.comp_def, Option.bind_eq_bind]

/-- The cursor is behind the branches that were to be read: at a parenthesis or the end. -/
structure Cursor.Ends (s₁ s : Cursor) : Prop where
  after : s₁.After s
  head : s₁.head = none ∨ s₁.head = some ')'

theorem Cursor.Ends.trans_after (h : s₂.Ends s₁) (h' : s₁.After s) : s₂.Ends s :=
  ⟨h.after.trans h', h.head⟩

theorem readGroup_ends {fuel : Nat} {items branches : List (Nested Tree)} {ignore : Bool}
    {opening : Opening} {tree : Nested Tree}
    (hread : ∀ {items branches} {x x₁ : Cursor} {tree},
      readBranches fuel items branches x = some (tree, x₁) → x₁.Ends x)
    (h : readGroup fuel items branches ignore (opening, s) = some (tree, s₁)) : s₁.Ends s := by
  cases opening with
  | flags set => exact (hread h).trans_after (ignoring_after s _)
  | group capturing set =>
    obtain ⟨⟨inner, x⟩, hinner, hclose⟩ := Option.bind_eq_some_iff.mp h
    have hx := (hread hinner).trans_after (ignoring_after s _)
    unfold closeGroup at hclose
    split at hclose
    · cases hclose
    · have hrest := (hread hclose).trans_after (ignoring_after x.bump ignore)
      exact hrest.trans_after ((bump_past x).after.trans hx.after)

theorem readBranches_ends {fuel : Nat} {items branches : List (Nested Tree)} {tree : Nested Tree}
    (h : readBranches fuel items branches s = some (tree, s₁)) : s₁.Ends s := by
  induction fuel generalizing items branches s tree s₁ with
  | zero => cases h
  | succ fuel ih =>
    have hskip := skipBlanks_after s
    -- after what is read first the reading goes on from a later cursor
    have hlater : ∀ {items branches} {y : Cursor}, y.After s.skipBlanks →
        readBranches fuel items branches y = some (tree, s₁) → s₁.Ends s := by
      intro items branches y hy h
      exact (ih h).trans_after (hy.trans hskip)
    have hrepeat : ∀ {least most} {y : Cursor}, y.After s.skipBlanks →
        ((readRepetition least most items y).bind fun p =>
          readBranches fuel p.1 branches p.2) = some (tree, s₁) → s₁.Ends s := by
      intro least most y hy h
      obtain ⟨⟨items', z⟩, hz, h⟩ := Option.bind_eq_some_iff.mp h
      exact hlater ((readRepetition_after hz).trans hy) h
    rw [readBranches_succ] at h
    split at h
    · rename_i hc
      cases h
      exact ⟨hskip, Or.inl hc⟩
    · rename_i hc
      cases h
      exact ⟨hskip, Or.inr hc⟩
    · exact hlater (bump_past _).after h
    · obtain ⟨⟨opening, x⟩, hopening, h⟩ := Option.bind_eq_some_iff.mp h
      exact (readGroup_ends ih h).trans_after ((readOpening_past hopening).after.trans hskip)
    · obtain ⟨p, hclass, h⟩ := Option.bind_eq_some_iff.mp h
      exact hlater (readClass_past hclass).after h
    · exact hrepeat (bump_past _).after h
    · exact hrepeat (bump_past _).after h
    · exact hrepeat (bump_past _).after h
    · obtain ⟨p, hcounts, h⟩ := Option.bind_eq_some_iff.mp h
      exact hrepeat (readCounts_past hcounts).after h
    · obtain ⟨p, hitem, h⟩ := Option.bind_eq_some_iff.mp h
      exact hlater (readItem_past hitem).after h

theorem readGroup_fuel {fuel fuel' : Nat} (items branches : List (Nested Tree)) (ignore : Bool)
    (opening : Opening)
    (hread : ∀ {items branches} {x : Cursor}, x.After s →
      readBranches fuel items branches x = readBranches fuel' items branches x) :
    readGroup fuel items branches ignore (opening, s) =
      readGroup fuel' items branches ignore (opening, s) := by
  cases opening with
  | flags set => exact hread (ignoring_after s _)
  | group capturing set =>
    unfold readGroup
    dsimp only
    rw [← hread (ignoring_after s _)]
    refine Option.bind_congr ?_
    rintro ⟨inner, x⟩ hx
    have hafter := (readBranches_ends hx).after.trans (ignoring_after s _)
    have hlater := (ignoring_after x.bump ignore).trans ((bump_past x).after.trans hafter)
    unfold closeGroup
    rw [hread hlater]

/-- Steps beyond the length of the text make no difference. -/
theorem readBranches_fuel (fuel fuel' : Nat) (items branches : List (Nested Tree)) (s : Cursor)
    (hfuel : s.rest.length < fuel) (hfuel' : s.rest.length < fuel') :
    readBranches fuel items branches s = readBranches fuel' items branches s := by
  induction fuel generalizing fuel' items branches s with
  | zero => omega
  | succ fuel ih =>
    cases fuel' with
    | zero => omega
    | succ fuel' =>
      rw [readBranches_succ, readBranches_succ]
      cases hc : s.skipBlanks.head with
      | none => rfl
      | some c =>
        have hnext : ∀ {items branches} {x : Cursor}, x.Past s.skipBlanks →
            readBranches fuel items branches x = readBranches fuel' items branches x := by
          intro items branches x hx
          have hle := (skipBlanks_after s).length_le
          have hlt := hx.length_lt (ne_nil_of_head hc)
          exact ih fuel' items branches x (by omega) (by omega)
        have hrepeat : ∀ {least most} {x : Cursor}, x.Past s.skipBlanks →
            ((readRepetition least most items x).bind fun p =>
              readBranches fuel p.1 branches p.2) =
            (readRepetition least most items x).bind fun p =>
              readBranches fuel' p.1 branches p.2 := by
          intro least most x hx
          refine Option.bind_congr ?_
          intro p hp
          exact hnext ((readRepetition_after hp).trans_past hx)
        split
        · rfl
        · rfl
        · exact hnext (bump_past _)
        · refine Option.bind_congr ?_
          rintro ⟨opening, x⟩ hx
          refine readGroup_fuel items branches s.skipBlanks.ignoreBlanks opening ?_
          intro items branches y hy
          exact hnext (hy.trans_past (readOpening_past hx))
        · refine Option.bind_congr ?_
          intro p hp
          exact hnext (readClass_past hp)
        · exact hrepeat (bump_past _)
        · exact hrepeat (bump_past _)
        · exact hrepeat (bump_past _)
        · refine Option.bind_congr ?_
          intro p hp
          exact hrepeat (readCounts_past hp)
        · refine Option.bind_congr ?_
          intro p hp
          exact hnext (readItem_past hp)

/-! ### Agreement -/

/-- Behind the parenthesis there is no other one. -/
theorem Beyond.head_ne {α : Type} {a : α} (h : Beyond a s) : s.head ≠ some ')' := by
  intro hc
  have hmem : ')' ∈ ['$'] := h.subset (mem_of_after (.refl s) hc)
  simp at hmem

/-- Nothing is read from a brace that begins no counts. -/
theorem Stuck.readBranches {fuel : Nat} {items branches : List (Nested Tree)} (h : Stuck s) :
    readBranches fuel items branches s = none := by
  cases fuel with
  | zero => rfl
  | succ fuel =>
    have hskip : s.skipBlanks = s := by
      obtain ⟨cs, hcs⟩ := List.head?_eq_some_iff.mp h.head
      unfold Cursor.skipBlanks
      split
      · rw [hcs, dropBlanks_cons_of_not_blank (by decide) (by decide), ← hcs]
      · rfl
    rw [readBranches_succ, hskip, h.head]
    simp only [h.counts, Option.bind_none]

theorem agree_readGroup {fuel fuel' : Nat} (items branches : List (Nested Tree)) (ignore : Bool)
    (opening : Opening) (hs : Trails s s')
    (hread : ∀ {items branches} {x x' : Cursor}, x.After s → x'.After s' → Trails x x' →
      Agree Beyond (readBranches fuel items branches x) (readBranches fuel' items branches x')) :
    Agree Beyond (readGroup fuel items branches ignore (opening, s))
      (readGroup fuel' items branches ignore (opening, s')) := by
  cases opening with
  | flags set =>
    exact hread (ignoring_after s _) (ignoring_after s' _) (hs.ignoring _)
  | group capturing set =>
    refine (hread (ignoring_after s _) (ignoring_after s' _) (hs.ignoring _)).bind ?_ ?_
    · intro inner x x' hx hx' ht
      have hend := readBranches_ends hx
      have hend' := readBranches_ends hx'
      unfold closeGroup
      rcases hend.head with hc | hc
      · -- the group is not closed in the first text, and by the parenthesis in the second one
        rw [if_pos (by simp [hc])]
        refine .astray ?_
        intro tree y h
        split at h
        · cases h
        · rename_i hclosed
          rcases ht.head_of_none hc with hc' | hclose
          · exact absurd (by simp [hc']) hclosed
          · have hpast := (ignoring_after x'.bump ignore).trans_past (bump_past x')
            exact beyond_of_past ((readBranches_ends h).after.trans_past hpast) hclose
      · have hlater := (bump_past x).after.trans (hend.after.trans (ignoring_after s _))
        have hlater' := (bump_past x').after.trans (hend'.after.trans (ignoring_after s' _))
        rw [if_neg (by simp [hc]), if_neg (by simp [ht.head hc])]
        exact hread ((ignoring_after _ _).trans hlater) ((ignoring_after _ _).trans hlater')
          ((ht.bump (ne_nil_of_head hc)).ignoring ignore)
    · intro inner x _ hP tree y h
      unfold closeGroup at h
      rw [if_pos hP.head_ne] at h
      cases h

theorem agree_readBranches (fuel fuel' : Nat) (items branches : List (Nested Tree))
    (hs : Trails s s') (hfuel : s.rest.length < fuel) (hfuel' : s'.rest.length < fuel') :
    Agree Beyond (readBranches fuel items branches s) (readBranches fuel' items branches s') := by
  induction fuel generalizing fuel' items branches s s' with
  | zero => omega
  | succ fuel ih =>
    cases fuel' with
    | zero => omega
    | succ fuel' =>
      have ht := hs.skipBlanks
      have hle := (skipBlanks_after s).length_le
      have hle' := (skipBlanks_after s').length_le
      cases hc : s.skipBlanks.head with
      | none =>
        have hend : readBranches (fuel + 1) items branches s =
            some (joinBranches (joinSequence items :: branches), s.skipBlanks) := by
          rw [readBranches_succ, hc]
        have hend' : readBranches (fuel' + 1) items branches s' =
            some (joinBranches (joinSequence items :: branches), s'.skipBlanks) := by
          rcases ht.head_of_none hc with hc' | hclose
          · rw [readBranches_succ, hc']
          · have hc' : s'.skipBlanks.head = some ')' := by rw [Cursor.head, hclose]; rfl
            rw [readBranches_succ, hc']
            rfl
        rw [hend, hend']
        exact .both _ ht
      | some c =>
        have hne := ne_nil_of_head hc
        have hne' := ht.ne_nil hne
        -- whatever is read first, what comes after it is read alike
        have hnext : ∀ {items branches} {x x' : Cursor}, x.Past s.skipBlanks →
            x'.Past s'.skipBlanks → Trails x x' →
            Agree Beyond (readBranches fuel items branches x)
              (readBranches fuel' items branches x') := by
          intro items branches x x' hx hx' htx
          have hlt := hx.length_lt hne
          have hlt' := hx'.length_lt hne'
          exact ih fuel' _ _ htx (by omega) (by omega)
        have hrepeat : ∀ {least most} {x x' : Cursor}, x.Past s.skipBlanks →
            x'.Past s'.skipBlanks → Trails x x' →
            Agree Beyond
              ((readRepetition least most items x).bind fun p => readBranches fuel p.1 branches p.2)
              ((readRepetition least most items x').bind fun p =>
                readBranches fuel' p.1 branches p.2) := by
          intro least most x x' hx hx' htx
          refine (agree_readRepetition least most items htx).bind ?_ ?_
          · intro items' y y' hy hy' hty
            exact hnext ((readRepetition_after hy).trans_past hx)
              ((readRepetition_after hy').trans_past hx') hty
          · intro items' y _ hP
            exact hP.elim
        rw [readBranches_succ, readBranches_succ, hc, ht.head hc]
        split
        · cases ‹some c = none›
        · exact .both _ ht
        · exact hnext (bump_past _) (bump_past _) (ht.bump hne)
        · rw [ht.ignoreBlanks_eq]
          refine (agree_readOpening ht hne).bind ?_ ?_
          · intro opening x x' hx hx' htx
            refine agree_readGroup items branches s.skipBlanks.ignoreBlanks opening htx ?_
            intro items branches y y' hy hy' hty
            exact hnext (hy.trans_past (readOpening_past hx))
              (hy'.trans_past (readOpening_past hx')) hty
          · intro opening x _ hP tree y h
            exact hP.after (readGroup_ends readBranches_ends h).after
        · refine (agree_readClass ht hne).bind ?_ ?_
          · intro tree x x' hx hx' htx
            exact hnext (readClass_past hx) (readClass_past hx') htx
          · intro tree x _ hP
            exact hP.elim
        · exact hrepeat (bump_past _) (bump_past _) (ht.bump hne)
        · exact hrepeat (bump_past _) (bump_past _) (ht.bump hne)
        · exact hrepeat (bump_past _) (bump_past _) (ht.bump hne)
        · refine (agree_readCounts ht hne).bind ?_ ?_
          · intro counts x x' hx hx' htx
            exact hrepeat (readCounts_past hx) (readCounts_past hx') htx
          · intro counts x _ hP
            exact hP.elim
        · refine (agree_readItem ht hne).bind ?_ ?_
          · intro item x x' hx hx' htx
            exact hnext (readItem_past hx) (readItem_past hx') htx
          · intro item x _ hP tree y h
            rcases hP with hbeyond | ⟨-, hstuck⟩
            · exact hbeyond.after (readBranches_ends h).after
            · rw [hstuck.readBranches] at h
              cases h

end MetricScraper.Pattern
