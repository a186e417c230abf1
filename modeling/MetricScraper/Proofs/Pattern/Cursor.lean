import MetricScraper.Pattern.Reader
import Mathlib.Data.List.Infix

/-!
# Cursors before a closing parenthesis

A text is read in the same way whether it ends or is followed by a closing parenthesis, as long as
nothing of the parenthesis is read.  `Trails` relates the two cursors, and `Agree` what readers make
of them: the same, or a failure where the text ends.  A comment that is open at the end of the text
takes the parenthesis in; then both cursors are at the end.
-/

namespace MetricScraper.Pattern

/-- What stands behind a pattern that is put between the ends of a text. -/
def closing : List Char := [')', '$']

variable {s s' s₁ s₂ : Cursor}

theorem mem_closing {c : Char} (h : c ∈ closing) : c = ')' ∨ c = '$' := by
  simpa [closing] using h

/-- The parenthesis ends what it is not part of. -/
theorem dropWhile_append_closing {p : Char → Bool} (hp : p ')' = false) (l : List Char) :
    (l ++ closing).dropWhile p = l.dropWhile p ++ closing := by
  have hstop : closing.dropWhile p = closing :=
    List.dropWhile_cons_of_neg (by simp [hp])
  rw [List.dropWhile_append, hstop]
  split
  · rename_i hnil
    rw [List.isEmpty_iff.mp hnil, List.nil_append]
  · rfl

/-! ### Reading on -/

namespace Cursor

/-- Nothing but what the other cursor has before it is left. -/
def After (s₁ s : Cursor) : Prop := s₁.rest <:+ s.rest

/-- The same, and at least one character has been read. -/
def Past (s₁ s : Cursor) : Prop := s₁.rest <:+ s.rest.tail

theorem After.refl (s : Cursor) : s.After s := List.suffix_rfl

theorem After.trans (h : s₂.After s₁) (h' : s₁.After s) : s₂.After s := List.IsSuffix.trans h h'

theorem Past.after (h : s₁.Past s) : s₁.After s := h.trans (List.tail_suffix _)

theorem After.trans_past (h : s₂.After s₁) (h' : s₁.Past s) : s₂.Past s := List.IsSuffix.trans h h'

theorem Past.trans_after (h : s₂.Past s₁) (h' : s₁.After s) : s₂.Past s := by
  obtain ⟨read, hread⟩ := h'
  cases read with
  | nil =>
    rw [List.nil_append] at hread
    rwa [Past, ← hread]
  | cons c read =>
    refine List.IsSuffix.trans h.after ?_
    rw [← hread]
    exact List.suffix_append read s₁.rest

theorem Past.length_lt (h : s₁.Past s) (hs : s.rest ≠ []) : s₁.rest.length < s.rest.length := by
  have hle := List.IsSuffix.length_le h
  have hpos := List.length_pos_of_ne_nil hs
  rw [List.length_tail] at hle
  omega

theorem dropBlanks_suffix (comment : Bool) (cs : List Char) : dropBlanks comment cs <:+ cs := by
  induction cs generalizing comment with
  | nil => simp [dropBlanks]
  | cons c cs ih =>
    have hcs : cs <:+ c :: cs := List.suffix_cons c cs
    cases comment with
    | true => exact (ih _).trans hcs
    | false =>
      rw [dropBlanks]
      split
      · exact (ih _).trans hcs
      · split
        · exact (ih _).trans hcs
        · exact List.suffix_rfl

theorem dropBlanks_cons_of_not_blank {c : Char} {cs : List Char} (hc : Text.isBlank c = false)
    (hc' : c ≠ '#') : dropBlanks false (c :: cs) = c :: cs := by
  simp [dropBlanks, hc, hc']

theorem skipBlanks_after (s : Cursor) : s.skipBlanks.After s := by
  unfold skipBlanks
  split
  · exact dropBlanks_suffix false s.rest
  · exact .refl s

theorem bump_past (s : Cursor) : s.bump.Past s := List.suffix_rfl

theorem bumpBlanks_past (s : Cursor) : s.bumpBlanks.Past s :=
  (skipBlanks_after _).trans_past (bump_past s)

/-- The cursor with more text behind it. -/
def extend (s : Cursor) (text : List Char) : Cursor := { s with rest := s.rest ++ text }

end Cursor

/-! ### Two cursors -/

open Cursor

/-- The second cursor has the closing parenthesis behind the text of the first one, or has lost it
in a comment and is at the end like the first one. -/
inductive Trails (s : Cursor) : Cursor → Prop where
  | behind : Trails s (s.extend closing)
  | lost (h : s.rest = []) : Trails s s

namespace Trails

theorem of_ne_nil (h : Trails s s') (hs : s.rest ≠ []) : s' = s.extend closing := by
  cases h with
  | behind => rfl
  | lost hnil => exact absurd hnil hs

theorem head (h : Trails s s') {c : Char} (hc : s.head = some c) : s'.head = some c := by
  cases h with
  | behind =>
    obtain ⟨cs, hcs⟩ := List.head?_eq_some_iff.mp hc
    simp [Cursor.head, Cursor.extend, hcs]
  | lost hnil => exact hc

/-- At the end of the first cursor the second one is there as well, or meets the parenthesis. -/
theorem head_of_none (h : Trails s s') (hs : s.head = none) :
    s'.head = none ∨ s'.rest = closing := by
  have hnil : s.rest = [] := List.head?_eq_none_iff.mp hs
  cases h with
  | behind => exact Or.inr (by simp [Cursor.extend, hnil])
  | lost => exact Or.inl hs

/-- The next character is the same for all purposes but those of the parenthesis. -/
theorem head_iff (h : Trails s s') {c : Char} (hc : c ≠ ')') :
    s'.head = some c ↔ s.head = some c := by
  constructor
  · intro hs'
    cases hs : s.head with
    | some d =>
      rw [h.head hs] at hs'
      exact hs'
    | none =>
      rcases h.head_of_none hs with hnone | hclose
      · rw [hnone] at hs'
        cases hs'
      · rw [Cursor.head, hclose] at hs'
        exact absurd (Option.some.inj hs').symm hc
  · exact h.head

theorem ne_nil (h : Trails s s') (hs : s.rest ≠ []) : s'.rest ≠ [] := by
  rw [h.of_ne_nil hs]
  simp [Cursor.extend, hs]

theorem ignoreBlanks_eq (h : Trails s s') : s'.ignoreBlanks = s.ignoreBlanks := by
  cases h <;> rfl

theorem bump (h : Trails s s') (hs : s.rest ≠ []) : Trails s.bump s'.bump := by
  rw [h.of_ne_nil hs]
  have heq : (s.extend closing).bump = s.bump.extend closing := by
    simp [Cursor.bump, Cursor.extend, List.tail_append_of_ne_nil hs]
  rw [heq]
  exact .behind

theorem dropBlanks_comment {cs : List Char} (h : '\n' ∉ cs) : dropBlanks true cs = [] := by
  induction cs with
  | nil => rfl
  | cons c cs ih =>
    have hc : c ≠ '\n' := fun heq => h (heq ▸ List.mem_cons_self)
    have hcs : '\n' ∉ cs := fun hmem => h (List.mem_cons_of_mem c hmem)
    rw [dropBlanks, decide_eq_true hc]
    exact ih hcs

/-- Blanks end before the parenthesis, or a comment takes it in. -/
theorem dropBlanks_append (comment : Bool) (cs : List Char) :
    dropBlanks comment (cs ++ closing) = dropBlanks comment cs ++ closing ∨
      (dropBlanks comment cs = [] ∧ dropBlanks comment (cs ++ closing) = []) := by
  induction cs generalizing comment with
  | nil =>
    cases comment with
    | true =>
      have hfeed : '\n' ∉ closing := by
        intro hmem
        rcases mem_closing hmem with h | h <;> cases h
      exact Or.inr ⟨rfl, dropBlanks_comment hfeed⟩
    | false =>
      have hblank : Text.isBlank ')' = false := by decide
      refine Or.inl ?_
      simp [closing, dropBlanks, hblank]
  | cons c cs ih =>
    cases comment with
    | true =>
      rw [List.cons_append, dropBlanks, dropBlanks]
      exact ih _
    | false =>
      rw [List.cons_append, dropBlanks, dropBlanks]
      split
      · exact ih _
      · split
        · exact ih _
        · exact Or.inl rfl

theorem skipBlanks (h : Trails s s') : Trails s.skipBlanks s'.skipBlanks := by
  cases h with
  | behind =>
    by_cases hb : s.ignoreBlanks = true
    · have hskip : s.skipBlanks = ⟨dropBlanks false s.rest, s.ignoreBlanks, s.names⟩ :=
        if_pos hb
      have hskip' : (s.extend closing).skipBlanks =
          ⟨dropBlanks false (s.rest ++ closing), s.ignoreBlanks, s.names⟩ := if_pos hb
      rw [hskip, hskip']
      rcases dropBlanks_append false s.rest with heq | ⟨hnil, hnil'⟩
      · rw [heq]
        exact .behind
      · rw [hnil, hnil']
        exact .lost rfl
    · have hskip : s.skipBlanks = s := if_neg hb
      have hskip' : (s.extend closing).skipBlanks = s.extend closing := if_neg hb
      rw [hskip, hskip']
      exact .behind
  | lost hnil =>
    refine .lost ?_
    have hafter := skipBlanks_after s
    rw [After, hnil] at hafter
    exact List.suffix_nil.mp hafter

theorem bumpBlanks (h : Trails s s') (hs : s.rest ≠ []) :
    Trails s.bumpBlanks s'.bumpBlanks :=
  (h.bump hs).skipBlanks

end Trails

theorem ne_nil_of_head {c : Char} (h : s.head = some c) : s.rest ≠ [] := by
  intro hnil
  simp [Cursor.head, hnil] at h

/-! ### What readers make of two cursors -/

/-- Two readers agree: they give the same and leave cursors that trail each other, or the first one
fails and what the second one may give satisfies `P`. -/
inductive Agree {α : Type} (P : α → Cursor → Prop) :
    Option (α × Cursor) → Option (α × Cursor) → Prop where
  | both (a : α) {x x' : Cursor} (h : Trails x x') : Agree P (some (a, x)) (some (a, x'))
  | astray {r : Option (α × Cursor)} (h : ∀ a x, r = some (a, x) → P a x) : Agree P none r

namespace Agree

variable {α β : Type} {P : α → Cursor → Prop} {Q : β → Cursor → Prop}
  {r r' : Option (α × Cursor)}

theorem none (P : α → Cursor → Prop) : Agree P none none :=
  .astray fun _ _ h => by cases h

/-- Readers that agree, one after another. -/
theorem bind {g g' : α × Cursor → Option (β × Cursor)} (h : Agree P r r')
    (hg : ∀ a s s', r = some (a, s) → r' = some (a, s') → Trails s s' →
      Agree Q (g (a, s)) (g' (a, s')))
    (hP : ∀ a s, r' = some (a, s) → P a s → ∀ b s₁, g' (a, s) = some (b, s₁) → Q b s₁) :
    Agree Q (r.bind g) (r'.bind g') := by
  cases h with
  | both a ht => exact hg a _ _ rfl rfl ht
  | astray hr =>
    refine .astray ?_
    intro b s₁ hb
    obtain ⟨⟨a, s⟩, ha, hgs⟩ := Option.bind_eq_some_iff.mp hb
    exact hP a s ha (hr a s ha) b s₁ hgs

theorem map (f : α → β) (h : Agree P r r') (hP : ∀ a s, P a s → Q (f a) s) :
    Agree Q (r.map fun p => (f p.1, p.2)) (r'.map fun p => (f p.1, p.2)) := by
  cases h with
  | both a ht => exact .both (f a) ht
  | astray hr =>
    refine .astray ?_
    intro b s hb
    obtain ⟨⟨a, s₁⟩, ha, heq⟩ := Option.map_eq_some_iff.mp hb
    cases heq
    exact hP a s₁ (hr a s₁ ha)

end Agree

/-- What is left is behind the parenthesis. -/
def Beyond {α : Type} (_ : α) (s : Cursor) : Prop := s.rest <:+ ['$']

/-- What is left begins with the parenthesis or is behind it. -/
def Within {α : Type} (_ : α) (s : Cursor) : Prop := s.rest <:+ closing

/-- There is nothing to be left. -/
def Never {α : Type} (_ : α) (_ : Cursor) : Prop := False

theorem beyond_of_past {α : Type} {a : α} (h : s₁.Past s) (hs : s.rest = closing) :
    Beyond a s₁ := by
  rw [Past, hs] at h
  exact h

theorem within_of_after {α : Type} {a : α} (h : s₁.After s) (hs : s.rest = closing) :
    Within a s₁ := by
  rw [After, hs] at h
  exact h

theorem Beyond.after {α β : Type} {a : α} {b : β} (h : Beyond a s) (h' : s₁.After s) :
    Beyond b s₁ := List.IsSuffix.trans h' h

theorem Beyond.within {α β : Type} {a : α} {b : β} (h : Beyond a s) : Within b s :=
  List.IsSuffix.trans h (List.suffix_cons _ _)

theorem Within.past {α β : Type} {a : α} {b : β} (h : Within a s) (h' : s₁.Past s) :
    Beyond b s₁ := by
  have hafter : s.After ⟨closing, false, []⟩ := h
  exact h'.trans_after hafter

/-- Readers that agree without exception give the same or fail both. -/
theorem same_of_agree {α : Type} {r r' : Option (α × Cursor)} (h : Agree Never r r') :
    (r = none ∧ r' = none) ∨
      ∃ a x x', r = some (a, x) ∧ r' = some (a, x') ∧ Trails x x' := by
  cases h with
  | both a ht => exact Or.inr ⟨a, _, _, rfl, rfl, ht⟩
  | astray hr =>
    refine Or.inl ⟨rfl, ?_⟩
    rw [Option.eq_none_iff_forall_not_mem]
    intro p hp
    exact hr p.1 p.2 hp

/-- Readers that fail at the end of a text agree when they do so before the end, whatever is left by
the second one if it begins with the parenthesis. -/
theorem agree_of_head {α : Type} {P : α → Cursor → Prop} {r r' : Option (α × Cursor)}
    (hs : Trails s s') (hend : s.head = none → r = none) (hend' : s'.head = none → r' = none)
    (hclosing : s'.rest = closing → ∀ a s₁, r' = some (a, s₁) → P a s₁)
    (hstep : ∀ c, s.head = some c → s'.head = some c → Agree P r r') : Agree P r r' := by
  cases hc : s.head with
  | none =>
    rw [hend hc]
    refine .astray ?_
    intro a s₁ ha
    rcases hs.head_of_none hc with hnone | hclose
    · rw [hend' hnone] at ha
      cases ha
    · exact hclosing hclose a s₁ ha
  | some c => exact hstep c hc (hs.head hc)

theorem mem_of_after {c : Char} (h : s₁.After s) (hc : s₁.head = some c) : c ∈ s.rest := by
  obtain ⟨cs, hcs⟩ := List.head?_eq_some_iff.mp hc
  have hmem : c ∈ s₁.rest := by
    rw [hcs]
    exact List.mem_cons_self
  exact h.subset hmem

theorem not_mem_closing {c : Char} (h : c ≠ ')') (h' : c ≠ '$') : c ∉ closing := by
  intro hmem
  rcases mem_closing hmem with heq | heq
  · exact h heq
  · exact h' heq

end MetricScraper.Pattern
