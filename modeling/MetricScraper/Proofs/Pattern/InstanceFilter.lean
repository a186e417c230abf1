import MetricScraper.Proofs.Pattern.Branches
import MetricScraper.Proofs.Pattern.Matching
import MetricScraper.Registry.Builtin

/-!
# Whole names

The two patterns of a filter are put between the ends of a text as texts, before they are read.  For
a pattern that closes no group but its own this is what it looks like: it has to go through the
whole name.  There is one exception, a pattern that ends in a comment, which takes the end of its
group in.
-/

namespace MetricScraper

namespace Pattern

open Cursor

/-! ### Patterns on their own -/

/-- Reads a text as a pattern, up to a parenthesis that closes nothing. -/
def read? (text : List Char) : Option (Nested Tree × Cursor) :=
  readBranches (text.length + 1) [] [] ⟨text, false, []⟩

/-- A parenthesis of the text closes nothing that the text has opened. -/
def overcloses (text : List Char) : Bool := (read? text).any fun p => !p.2.atEnd

/-- The text is read to its end. -/
def isComplete (text : List Char) : Bool := (read? text).any fun p => p.2.atEnd

/-- A comment at the end of a pattern takes in what stands behind the pattern. -/
def endsInComment (text : List Char) : Bool := isComplete text && isComplete (text ++ closing)

/-- What a text means on its own, if it is a pattern, however large it is. -/
def meaning? (text : List Char) : Option PatternExpression :=
  (read? text).bind fun p =>
    if p.2.atEnd then (p.1.tree.expression? Flags.initial).map Prod.fst else none

variable {text : List Char}

/-! ### The text behind the group -/

theorem readBranches_dollar (fuel : Nat) (items : List (Nested Tree)) (names : List (List Char)) :
    readBranches (fuel + 2) items [] ⟨['$'], false, names⟩ =
      some (joinSequence (Nested.flat (.assertion .endLine) :: items), ⟨[], false, names⟩) := by
  rfl

theorem readBranches_anchored (fuel : Nat) (text : List Char) :
    readBranches (fuel + 2) [] [] ⟨"^(?:".toList ++ text, false, []⟩ =
      (readBranches fuel [] [] ⟨text, false, []⟩).bind
        (closeGroup fuel [Nested.flat (.assertion .startLine)] [] false false []) := by
  rfl

/-- What the parenthesis behind a pattern closes is the group before it, unless a comment has taken
it in. -/
theorem closeGroup_of_not_overcloses (fuel : Nat) (items : List (Nested Tree))
    (htext : overcloses text = false) (hfuel : text.length + 2 < fuel) :
    ((readBranches fuel [] [] ⟨text ++ closing, false, []⟩).bind
        (closeGroup fuel items [] false false [])) =
      if endsInComment text then none
      else (read? text).bind fun p =>
        readBranches fuel ((p.1.around fun t => .group false [] t) :: items) []
          ⟨['$'], false, p.2.names⟩ := by
  have hlength : (text ++ closing).length = text.length + 2 := List.length_append
  rw [← hlength] at hfuel
  have hagree : Agree Beyond (read? text) (readBranches fuel [] [] ⟨text ++ closing, false, []⟩) :=
    agree_readBranches _ _ [] [] .behind (Nat.lt_succ_self _) hfuel
  have hsame : read? (text ++ closing) = readBranches fuel [] [] ⟨text ++ closing, false, []⟩ :=
    readBranches_fuel _ _ [] [] _ (Nat.lt_succ_self _) hfuel
  unfold endsInComment isComplete
  unfold overcloses at htext
  rw [hsame]
  generalize read? text = r, readBranches fuel [] [] ⟨text ++ closing, false, []⟩ = r' at *
  cases hagree with
  | both tree ht =>
    rename_i x x'
    have hnil : x.rest = [] := by simpa [Cursor.atEnd] using htext
    cases ht with
    | behind =>
      have hrest : (x.extend closing).rest = closing := by simp [Cursor.extend, hnil]
      have hopen : (x.extend closing).head = some ')' := by rw [Cursor.head, hrest]; rfl
      have hafter : (x.extend closing).bump.ignoring false = ⟨['$'], false, x.names⟩ := by
        rw [Cursor.ignoring, Cursor.bump, hrest]
        rfl
      have hmore : (x.extend closing).atEnd = false := by rw [Cursor.atEnd, hrest]; rfl
      simp [closeGroup, hopen, hafter, hmore]
    | lost _ =>
      have hend : x.head = none := by rw [Cursor.head, hnil]; rfl
      simp [closeGroup, Cursor.atEnd, hnil, hend]
  | astray hbeyond =>
    have hopen : r'.bind (closeGroup fuel items [] false false []) = none := by
      rw [Option.bind_eq_none_iff]
      intro p hp
      unfold closeGroup
      exact if_pos (hbeyond p.1 p.2 hp).head_ne
    simp [hopen]

/-- A tree in a group between the start and the end of a text. -/
def Tree.between (t : Tree) : Tree :=
  .sequence (.assertion .startLine) (.sequence (.group false [] t) (.assertion .endLine))

theorem Tree.expression?_between (t : Tree) :
    t.between.expression? Flags.initial =
      (t.expression? Flags.initial).map fun p => (p.1.between, Flags.initial) := by
  have hflags : Flags.initial.update [] = Flags.initial := rfl
  unfold Tree.between
  simp only [Tree.expression?, Option.bind_eq_bind, Option.bind_some, hflags]
  cases t.expression? Flags.initial with
  | none => rfl
  | some p => rfl

theorem joinSequence_between (t : Nested Tree) :
    joinSequence [Nested.flat (.assertion .endLine), t.around fun t => .group false [] t,
      Nested.flat (.assertion .startLine)] = ⟨t.tree.between, t.depth + 2⟩ := by
  simp [joinSequence, Nested.join, Nested.maxDepth, Nested.flat, Nested.around, Tree.between]

/-- The text of a pattern between the ends of a text has the tree of the pattern between them. -/
theorem ofText?_anchored (pattern : String) (hp : overcloses pattern.toList = false) :
    Tree.ofText? (anchored pattern) =
      if endsInComment pattern.toList then none
      else (read? pattern.toList).bind fun p =>
        if p.1.depth + 2 ≤ nestingLimit then some p.1.tree.between else none := by
  have htext : anchored pattern = "^(?:".toList ++ (pattern.toList ++ closing) := by
    simp [anchored, closing]
  have hlength : (anchored pattern).length + 1 = pattern.toList.length + 5 + 2 := by
    rw [htext]
    simp [closing]
  unfold Tree.ofText?
  rw [hlength, htext, readBranches_anchored, closeGroup_of_not_overcloses _ _ hp (by omega)]
  split
  · rfl
  · cases read? pattern.toList with
    | none => rfl
    | some p =>
      have hdollar := readBranches_dollar (pattern.toList.length + 3)
        [p.1.around fun t => .group false [] t, Nested.flat (.assertion .startLine)] p.2.names
      rw [Option.bind_some, Option.bind_some, hdollar, joinSequence_between]
      simp [Cursor.atEnd]

/-! ### Patterns within the limits -/

/-- How deeply a pattern nests. -/
def depth (text : List Char) : Nat := ((read? text).map fun p => p.1.depth).getD 0

theorem compile?_eq (text : List Char) :
    compile? text = (Tree.ofText? text).bind fun tree =>
      ((tree.expression? Flags.initial).map Prod.fst).filter PatternExpression.isAffordable := by
  unfold compile?
  congr 1
  funext tree
  cases tree.expression? Flags.initial with
  | none => rfl
  | some p => rfl

/-- The limits leave room for a pattern between the ends of a text. -/
structure Fits (text : List Char) (e : PatternExpression) : Prop where
  depth_le : depth text + 2 ≤ nestingLimit
  affordable : e.between.isAffordable = true

/-- Between the ends of a text a pattern means what it means on its own, unless it ends in a
comment; then it means nothing. -/
theorem compile?_anchored_eq_some_iff (pattern : String) (hp : overcloses pattern.toList = false)
    (e' : PatternExpression) :
    compile? (anchored pattern) = some e' ↔
      ∃ e, e' = e.between ∧ meaning? pattern.toList = some e ∧
        endsInComment pattern.toList = false ∧ Fits pattern.toList e := by
  have hmeaning : meaning? pattern.toList = (read? pattern.toList).bind fun p =>
      (p.1.tree.expression? Flags.initial).map Prod.fst := by
    unfold overcloses at hp
    unfold meaning?
    cases hread : read? pattern.toList with
    | none => rfl
    | some p =>
      have hend : p.2.atEnd = true := by simpa [hread] using hp
      simp [hend]
  rw [compile?_eq, ofText?_anchored pattern hp, hmeaning]
  by_cases hcomment : endsInComment pattern.toList = true
  · simp [hcomment]
  · cases hread : read? pattern.toList with
    | none => simp
    | some p =>
      have hdepth : depth pattern.toList = p.1.depth := by simp [depth, hread]
      rw [if_neg hcomment, Option.bind_some, Option.bind_some]
      constructor
      · intro h
        obtain ⟨tree, htree, h⟩ := Option.bind_eq_some_iff.mp h
        split at htree
        · rename_i hle
          cases htree
          rw [Tree.expression?_between, Option.map_map, Option.filter_eq_some_iff] at h
          obtain ⟨⟨q, hq, rfl⟩, haffordable⟩ := And.imp_left Option.map_eq_some_iff.mp h
          refine ⟨q.1, rfl, by rw [hq]; rfl, Bool.not_eq_true _ ▸ hcomment, ?_, haffordable⟩
          rw [hdepth]
          exact hle
        · cases htree
      · intro h
        obtain ⟨e, rfl, he, -, hfits⟩ := h
        obtain ⟨q, hq, rfl⟩ := Option.map_eq_some_iff.mp he
        have hle := hfits.depth_le
        rw [hdepth] at hle
        rw [if_pos hle, Option.bind_some, Tree.expression?_between, hq]
        exact Option.filter_eq_some_iff.mpr ⟨rfl, hfits.affordable⟩

end Pattern

namespace InstanceFilter

open Pattern

/-- A filter takes a pattern that has a meaning, does not end in a comment, and fits. -/
def Takes (pattern : String) (e : PatternExpression) : Prop :=
  meaning? pattern.toList = some e ∧ endsInComment pattern.toList = false ∧
    Fits pattern.toList e

/-- What is made of two patterns: a filter by whole names if it takes both of them, and the refusal
of the first one that it does not take else. -/
structure Anchors (whitelist blacklist : String) (made : Except ConfigError InstanceFilter) :
    Prop where
  whitelist_refused :
    made = .error (.invalidPattern .whitelist whitelist) ↔ ¬ ∃ w, Takes whitelist w
  blacklist_refused :
    made = .error (.invalidPattern .blacklist blacklist) ↔
      (∃ w, Takes whitelist w) ∧ ¬ ∃ b, Takes blacklist b
  succeeds : (∃ f, made = .ok f) ↔ (∃ w, Takes whitelist w) ∧ ∃ b, Takes blacklist b
  admits_iff : ∀ f, made = .ok f → ∃ w b, meaning? whitelist.toList = some w ∧
    meaning? blacklist.toList = some b ∧ ∀ name : String,
      f.admits name = true ↔ w.MatchesWhole name.toList ∧ ¬ b.MatchesWhole name.toList

/-- A filter of expressions between the ends of a text goes by whole names. -/
theorem admits_between (w b : PatternExpression) (name : String) :
    admits ⟨w.between, b.between⟩ name = true ↔
      w.MatchesWhole name.toList ∧ ¬ b.MatchesWhole name.toList := by
  unfold admits
  rw [Bool.and_eq_true, Bool.not_eq_true', ← Bool.not_eq_true, isFoundIn_between,
    isFoundIn_between]

theorem anchored_eq_none_iff {pattern : String} (hp : overcloses pattern.toList = false) :
    compile? (anchored pattern) = none ↔ ¬ ∃ e, Takes pattern e := by
  rw [Option.eq_none_iff_forall_ne_some]
  constructor
  · intro h he
    obtain ⟨e, htakes⟩ := he
    exact h e.between ((compile?_anchored_eq_some_iff pattern hp _).mpr ⟨e, rfl, htakes⟩)
  · intro h e' he'
    obtain ⟨e, -, htakes⟩ := (compile?_anchored_eq_some_iff pattern hp e').mp he'
    exact h ⟨e, htakes⟩

end InstanceFilter

namespace Builtin

open Pattern InstanceFilter

/-- A filter goes by whole names if neither of its patterns closes a group that it has not
opened. -/
theorem filter_anchors (s : Settings) (hw : overcloses s.nicWhitelist.toList = false)
    (hb : overcloses s.nicBlacklist.toList = false) :
    Anchors s.nicWhitelist s.nicBlacklist (filter s) := by
  unfold filter ofPatterns
  cases hcw : compile? (anchored s.nicWhitelist) with
  | none =>
    have hnone := (anchored_eq_none_iff hw).mp hcw
    exact {
      whitelist_refused := iff_of_true rfl hnone
      blacklist_refused := iff_of_false (by simp) fun h => hnone h.1
      succeeds := iff_of_false (by simp) fun h => hnone h.1
      admits_iff := by
        intro f hf
        cases hf }
  | some w' =>
    obtain ⟨w, rfl, htakes⟩ := (compile?_anchored_eq_some_iff _ hw w').mp hcw
    cases hcb : compile? (anchored s.nicBlacklist) with
    | none =>
      have hnone := (anchored_eq_none_iff hb).mp hcb
      exact {
        whitelist_refused := iff_of_false (by simp) fun h => h ⟨w, htakes⟩
        blacklist_refused := iff_of_true rfl ⟨⟨w, htakes⟩, hnone⟩
        succeeds := iff_of_false (by simp) fun h => hnone h.2
        admits_iff := by
          intro f hf
          cases hf }
    | some b' =>
      obtain ⟨b, rfl, htakes'⟩ := (compile?_anchored_eq_some_iff _ hb b').mp hcb
      exact {
        whitelist_refused := iff_of_false (by simp) fun h => h ⟨w, htakes⟩
        blacklist_refused := iff_of_false (by simp) fun h => h.2 ⟨b, htakes'⟩
        succeeds := iff_of_true ⟨_, rfl⟩ ⟨⟨w, htakes⟩, b, htakes'⟩
        admits_iff := by
          intro f hf
          cases hf
          exact ⟨w, b, htakes.1, htakes'.1, admits_between w b⟩ }

theorem filter_anchors_alternatives :
    overcloses "eth|lo".toList = false ∧ overcloses "lo".toList = false ∧
      Anchors "eth|lo" "lo"
        (filter { Settings.standard with nicWhitelist := "eth|lo", nicBlacklist := "lo" }) ∧
      ((ofPatterns "eth|lo" "lo").toOption.map fun f =>
        (f.admits "eth", f.admits "eth0", f.admits "lo")) = some (true, false, false) := by
  refine ⟨by decide +kernel, by decide +kernel, ?_, by decide +kernel⟩
  exact filter_anchors { Settings.standard with nicWhitelist := "eth|lo", nicBlacklist := "lo" }
    (by decide +kernel) (by decide +kernel)

/-- A pattern that closes the group around it is taken though it is none, and then a name need not
match as a whole; and a pattern that ends in a comment is refused. -/
theorem anchors_as_text :
    meaning? "a)|(?:b".toList = none ∧
      ((ofPatterns "a)|(?:b" "").toOption.map fun f => f.admits "ax") = some true ∧
      (meaning? "(?x)a # b".toList).isSome = true ∧
      (ofPatterns "(?x)a # b" "").toOption.isSome = false := by
  decide +kernel

end Builtin

end MetricScraper
