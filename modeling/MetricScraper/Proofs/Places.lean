import Mathlib.Data.Finset.Card
import Mathlib.Data.Finset.Range
import Mathlib.Tactic.Ring

/-!
# Lists by place

What stands at a place of a list after a change, what is left of a list when everything is kept
where it comes first, and counts of places.  Two lists can be counted against each other when the
places of the one that are counted go to different places of the other that are counted as well.
-/

namespace MetricScraper.Places

variable {α β : Type}

/-! ### Changes -/

theorem getElem?_set_some {l : List α} {i j : Nat} {x y : α} (h : (l.set i x)[j]? = some y) :
    (i = j ∧ y = x) ∨ (i ≠ j ∧ l[j]? = some y) := by
  rw [List.getElem?_set] at h
  by_cases hij : i = j
  · rw [if_pos hij] at h
    split at h
    · exact Or.inl ⟨hij, (Option.some.inj h).symm⟩
    · cases h
  · rw [if_neg hij] at h
    exact Or.inr ⟨hij, h⟩

theorem getElem?_set_self {l : List α} {i : Nat} {x : α} (y : α) (hx : l[i]? = some x) :
    (l.set i y)[i]? = some y := by
  rw [List.getElem?_set, if_pos rfl, if_pos (List.getElem?_eq_some_iff.mp hx).1]

theorem getElem?_concat_some {l : List α} {i : Nat} {x y : α} (h : (l ++ [x])[i]? = some y) :
    l[i]? = some y ∨ (l.length = i ∧ y = x) := by
  rw [List.getElem?_append] at h
  split at h
  · exact Or.inl h
  · rw [List.getElem?_singleton] at h
    split at h
    · exact Or.inr ⟨by omega, (Option.some.inj h).symm⟩
    · cases h

theorem getElem?_concat_of_some {l : List α} {i : Nat} {y : α} (x : α) (h : l[i]? = some y) :
    (l ++ [x])[i]? = some y :=
  (List.getElem?_append_left (List.getElem?_eq_some_iff.mp h).1).trans h

theorem exists_map_of_getElem? {g : β → α} {P : Nat → β → Prop} {l : List α}
    (h : ∀ (i : Nat) x, l[i]? = some x → ∃ y, x = g y ∧ P i y) :
    ∃ l' : List β, l = l'.map g ∧ ∀ (i : Nat) y, l'[i]? = some y → P i y := by
  induction l generalizing P with
  | nil => exact ⟨[], rfl, fun i y hy => by simp at hy⟩
  | cons x l ih =>
    obtain ⟨y, hx, hy⟩ := h 0 x rfl
    obtain ⟨l', hl, hP⟩ := ih fun i z hz => h (i + 1) z hz
    refine ⟨y :: l', by rw [hx, hl, List.map_cons], ?_⟩
    intro i z hz
    cases i with
    | zero =>
      cases hz
      exact hy
    | succ i => exact hP i z hz

theorem eraseIdx_eq_of_getElem? {l l' : List α} {k : Nat}
    (h : ∀ i, i ≠ k → l[i]? = l'[i]?) : l.eraseIdx k = l'.eraseIdx k := by
  apply List.ext_getElem?
  intro i
  rw [List.getElem?_eraseIdx, List.getElem?_eraseIdx]
  by_cases hi : i < k
  · rw [if_pos hi, if_pos hi]
    exact h i (by omega)
  · rw [if_neg hi, if_neg hi]
    exact h (i + 1) (by omega)

/-- What stands at one place of a list without repetitions is changed by a change for it alone. -/
theorem modify_map [BEq α] [LawfulBEq α] {l : List α} (hl : l.Nodup) {x : α} {i : Nat}
    (hi : l.idxOf? x = some i) {f f' : α → β} {change : β → β} (hx : f' x = change (f x))
    (hne : ∀ y ∈ l, y ≠ x → f' y = f y) : (l.map f).modify i change = l.map f' := by
  induction l generalizing i with
  | nil => simp at hi
  | cons y l ih =>
    obtain ⟨hy, hl⟩ := List.nodup_cons.mp hl
    have htail := fun z hz => hne z (List.mem_cons_of_mem y hz)
    rw [List.idxOf?_cons] at hi
    by_cases hyx : y = x
    · subst hyx
      have hsame : ∀ z ∈ l, f z = f' z :=
        fun z hz => (htail z hz fun heq => hy (heq ▸ hz)).symm
      rw [if_pos (beq_self_eq_true y)] at hi
      cases hi
      rw [List.map_cons, List.modify_zero_cons, List.map_cons, hx, List.map_congr_left hsame]
    · rw [if_neg (by simpa using hyx)] at hi
      obtain ⟨j, hj, rfl⟩ := Option.map_eq_some_iff.mp hi
      rw [List.map_cons, List.modify_succ_cons, ih hl hj htail, List.map_cons,
        hne y List.mem_cons_self hyx]

/-! ### Repetitions -/

section Repetitions

variable [BEq α] [LawfulBEq α] {l more : List α} {x : α}

theorem eraseDups_append_of_subset (h : ∀ x ∈ more, x ∈ l) :
    (l ++ more).eraseDups = l.eraseDups := by
  have hnone : more.removeAll l = [] := by
    refine List.filter_eq_nil_iff.mpr fun x hx => ?_
    simpa using h x hx
  rw [List.eraseDups_append, hnone, List.eraseDups_nil, List.append_nil]

theorem eraseDups_concat_of_notMem (h : x ∉ l) :
    (l ++ [x]).eraseDups = l.eraseDups ++ [x] := by
  have hkeep : [x].removeAll l = [x] := by
    refine List.filter_eq_self.mpr fun y hy => ?_
    simpa [List.mem_singleton.mp hy] using h
  rw [List.eraseDups_append, hkeep, List.eraseDups_cons, List.filter_nil, List.eraseDups_nil]

theorem eraseDups_of_nodup (h : l.Nodup) : l.eraseDups = l := by
  induction l with
  | nil => rfl
  | cons x l ih =>
    obtain ⟨hx, hl⟩ := List.nodup_cons.mp h
    have hkeep : (l.filter fun y => !y == x) = l := by
      refine List.filter_eq_self.mpr fun y hy => ?_
      simpa using fun heq : y = x => hx (heq ▸ hy)
    rw [List.eraseDups_cons, hkeep, ih hl]

theorem eraseDups_eq_nil_iff : l.eraseDups = [] ↔ l = [] := by
  simp only [List.eq_nil_iff_forall_not_mem, List.mem_eraseDups]

theorem nodup_eraseDups (l : List α) : l.eraseDups.Nodup := by
  induction l using List.reverseRecOn with
  | nil => exact List.nodup_nil
  | append_singleton l x ih =>
    by_cases hx : x ∈ l
    · rw [eraseDups_append_of_subset (List.forall_mem_singleton.mpr hx)]
      exact ih
    · have hnew : x ∉ l.eraseDups := by rwa [List.mem_eraseDups]
      rw [eraseDups_concat_of_notMem hx]
      exact ih.append (List.nodup_singleton x) (List.disjoint_singleton.mpr hnew)

/-- What is kept stands in the order in which it comes first. -/
theorem pairwise_idxOf_eraseDups (l : List α) :
    l.eraseDups.Pairwise fun x y => l.idxOf x < l.idxOf y := by
  induction l using List.reverseRecOn with
  | nil => exact .nil
  | append_singleton l x ih =>
    have hold : ∀ y ∈ l.eraseDups, (l ++ [x]).idxOf y = l.idxOf y :=
      fun y hy => List.idxOf_append_of_mem (List.mem_eraseDups.mp hy)
    have hsame : l.eraseDups.Pairwise fun y z => (l ++ [x]).idxOf y < (l ++ [x]).idxOf z :=
      ih.imp_of_mem fun hy hz hlt => by rwa [hold _ hy, hold _ hz]
    by_cases hx : x ∈ l
    · rw [eraseDups_append_of_subset (List.forall_mem_singleton.mpr hx)]
      exact hsame
    · rw [eraseDups_concat_of_notMem hx]
      refine List.pairwise_append.mpr ⟨hsame, List.pairwise_singleton _ x, fun y hy z hz => ?_⟩
      rw [List.mem_singleton.mp hz, hold y hy, List.idxOf_append_of_notMem hx]
      have hlt := List.idxOf_lt_length_of_mem (List.mem_eraseDups.mp hy)
      omega

end Repetitions

/-! ### Lists side by side -/

theorem pairwise_zip {R : α → α → Prop} {l : List α} (h : l.Pairwise R) (l' : List β) :
    (l.zip l').Pairwise fun p q => R p.1 q.1 := by
  induction h generalizing l' with
  | nil => exact List.Pairwise.nil
  | cons hx _ ih =>
    cases l' with
    | nil => exact List.Pairwise.nil
    | cons y l' => exact (ih l').cons fun p hp => hx p.1 (List.of_mem_zip hp).1

/-! ### Counts -/

/-- The places of a list at which a test holds. -/
def places (p : α → Bool) (l : List α) : Finset Nat :=
  (Finset.range l.length).filter fun i => l[i]?.any p

theorem mem_places {p : α → Bool} {l : List α} {i : Nat} :
    i ∈ places p l ↔ ∃ x, l[i]? = some x ∧ p x = true := by
  simp only [places, Finset.mem_filter, Finset.mem_range, Option.any_eq_true]
  constructor
  · intro h
    exact h.2
  · intro h
    obtain ⟨x, hx, hp⟩ := h
    have hi : i < l.length := (List.getElem?_eq_some_iff.mp hx).1
    exact ⟨hi, x, hx, hp⟩

theorem places_concat (p : α → Bool) (l : List α) (a : α) :
    places p (l ++ [a]) = if p a then insert l.length (places p l) else places p l := by
  have hl : ∀ i x, l[i]? = some x → i < l.length :=
    fun i x hx => (List.getElem?_eq_some_iff.mp hx).1
  by_cases ha : p a = true
  · rw [if_pos ha]
    ext i
    rw [Finset.mem_insert, mem_places, mem_places]
    grind
  · rw [if_neg ha]
    ext i
    rw [mem_places, mem_places]
    grind

theorem card_places (p : α → Bool) (l : List α) : (places p l).card = l.countP p := by
  induction l using List.reverseRecOn with
  | nil => rfl
  | append_singleton l a ih =>
    have hn : l.length ∉ places p l := by simp [places]
    rw [places_concat, List.countP_append, List.countP_singleton]
    by_cases ha : p a = true
    · rw [if_pos ha, if_pos ha, Finset.card_insert_of_notMem hn, ih]
    · rw [if_neg ha, if_neg ha, ih, Nat.add_zero]

/-- A list has no more counted places than another one that they can be told apart in. -/
theorem countP_le_of_injOn {p : α → Bool} {q : β → Bool} {l : List α} {l' : List β} (f : Nat → Nat)
    (hf : ∀ (i : Nat) x, l[i]? = some x → p x = true → ∃ y, l'[f i]? = some y ∧ q y = true)
    (inj : ∀ i ∈ places p l, ∀ j ∈ places p l, f i = f j → i = j) :
    l.countP p ≤ l'.countP q := by
  rw [← card_places, ← card_places]
  apply Finset.card_le_card_of_injOn f
  · intro i hi
    obtain ⟨x, hx, hp⟩ := mem_places.mp hi
    exact mem_places.mpr (hf i x hx hp)
  · intro i hi j hj h
    exact inj i hi j hj h

theorem countP_le_of_getElem? {p : α → Bool} {q : β → Bool} {l : List α} {l' : List β}
    (h : ∀ (i : Nat) x, l[i]? = some x → p x = true → ∃ y, l'[i]? = some y ∧ q y = true) :
    l.countP p ≤ l'.countP q :=
  countP_le_of_injOn id h fun _ _ _ _ hij => hij

theorem two_le_countP {p : α → Bool} {l : List α} {i j : Nat} {x y : α} (hij : i ≠ j)
    (hx : l[i]? = some x) (hy : l[j]? = some y) (hp : p x = true) (hq : p y = true) :
    2 ≤ l.countP p := by
  have hsub : ({i, j} : Finset Nat) ⊆ places p l := by
    intro k hk
    rcases Finset.mem_insert.mp hk with rfl | hk
    · exact mem_places.mpr ⟨x, hx, hp⟩
    · rw [Finset.mem_singleton.mp hk]
      exact mem_places.mpr ⟨y, hy, hq⟩
  have hcard := Finset.card_le_card hsub
  rw [Finset.card_pair hij, card_places] at hcard
  exact hcard

theorem countP_set_add (p : α → Bool) {l : List α} {i : Nat} {x : α} (y : α) (hx : l[i]? = some x) :
    (l.set i y).countP p + (if p x then 1 else 0) = l.countP p + (if p y then 1 else 0) := by
  obtain ⟨hi, hxi⟩ := List.getElem?_eq_some_iff.mp hx
  have hpos : p x = true → 0 < l.countP p :=
    fun hp => List.countP_pos_iff.mpr ⟨x, List.mem_of_getElem? hx, hp⟩
  rw [List.countP_set hi, hxi]
  by_cases hp : p x = true
  · have h := hpos hp
    rw [if_pos hp]
    omega
  · rw [if_neg hp]
    omega

theorem sum_map_set (f : α → Nat) {l : List α} {i : Nat} {x : α} (y : α) (hx : l[i]? = some x) :
    ((l.set i y).map f).sum + f x = (l.map f).sum + f y := by
  induction l generalizing i with
  | nil => simp at hx
  | cons z l ih =>
    cases i with
    | zero =>
      cases hx
      simp only [List.set_cons_zero, List.map_cons, List.sum_cons]
      omega
    | succ i =>
      have htail := ih hx
      simp only [List.set_cons_succ, List.map_cons, List.sum_cons]
      omega

end MetricScraper.Places
