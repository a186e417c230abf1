import MetricScraper.Fixture.Source
import MetricScraper.Proofs.Places

/-!
# Loads side by side

Any number of loads may be under way over one source while the file changes.  A load looks up the
modification time, and then, under the lock, looks for the kept document; if it is of another time
the load reads the file, and parses and keeps what it has read before it gives the lock back.  In
between the file may change and other loads may get on.
-/

namespace MetricScraper.SharedFixture

/-! ### The file -/

/-- What there is at the path at some moment: no file, or one whose content can be read or not. -/
inductive Version where
  | missing
  | present (modified : Nat) (content : Option ByteArray)

namespace Version

def modified? : Version → Option Nat
  | missing => none
  | present modified _ => some modified

def content? : Version → Option ByteArray
  | missing => none
  | present _ content => content

/-- What the file comes to as it is. -/
def answer (v : Version) : Except FixtureError Document := Document.ofContent v.content?

def ofFile : Option FixtureFile → Version
  | none => missing
  | some f => present f.modified (some f.content)

end Version

/-- Every change makes the modification time greater than it has ever been. -/
def Grows (versions : List Version) : Prop :=
  versions.Pairwise fun v w => ∀ m ∈ v.modified?, ∀ n ∈ w.modified?, m < n

/-! ### The state -/

inductive Phase where
  | called
  /-- It has the modification time and waits for the lock. -/
  | stamped (modified : Nat)
  /-- It holds the lock, and no document of that time is kept. -/
  | missed (modified : Nat)
  /-- It holds the lock and has read the file, or could not. -/
  | read (modified : Nat) (content : Option ByteArray)
  | returned (answer : Except FixtureError Document)

def Phase.holdsLock : Phase → Bool
  | missed _ => true
  | read _ _ => true
  | _ => false

structure Load where
  phase : Phase
  /-- The place of the version that was there when the load was called. -/
  since : Nat
  /-- The place of the version that was there when it last got on. -/
  upto : Nat
  /-- Whether a reading of its own has failed. -/
  failed : Bool

structure State where
  /-- What the file was before, the first version first. -/
  past : List Version
  current : Version
  cache : FixtureCache
  loads : List Load

namespace State

def initial (v : Version) : State := ⟨[], v, .empty, []⟩

def versions (s : State) : List Version := s.past ++ [s.current]

def isFree (s : State) : Bool := s.loads.all fun l => !l.phase.holdsLock

def advance (s : State) (i : Nat) (l : Load) (failed : Bool) (p : Phase) (c : FixtureCache) :
    State :=
  { s with
    cache := c
    loads := s.loads.set i ⟨p, l.since, s.past.length, l.failed || failed⟩ }

end State

/-! ### Steps -/

/-- How a load gets on from a phase: whether a reading of its own fails, the phase that it comes
to, and what is kept then. -/
inductive Turn (s : State) : Phase → Bool → Phase → FixtureCache → Prop where
  | stamp {m : Nat} {content : Option ByteArray} (h : s.current = .present m content) :
      Turn s .called false (.stamped m) s.cache
  | absent (h : s.current = .missing) :
      Turn s .called false (.returned (.error .unreadable)) s.cache
  | unstamped : Turn s .called true (.returned (.error .unreadable)) s.cache
  | hit {m : Nat} {d : Document} (free : s.isFree = true) (h : s.cache.answer? m = some d) :
      Turn s (.stamped m) false (.returned (.ok d)) s.cache
  | miss {m : Nat} (free : s.isFree = true) (h : s.cache.answer? m = none) :
      Turn s (.stamped m) false (.missed m) s.cache
  | read {m : Nat} : Turn s (.missed m) false (.read m s.current.content?) s.cache
  | unread {m : Nat} : Turn s (.missed m) true (.read m none) s.cache
  | settle {m : Nat} {content : Option ByteArray} {a : Except FixtureError Document}
      {c : FixtureCache} (h : s.cache.refresh m content = (a, c)) :
      Turn s (.read m content) false (.returned a) c

inductive Move where
  | change (v : Version)
  | call
  | turn (load : Nat)

inductive Step (s : State) : Move → State → Prop where
  | change (v : Version) :
      Step s (.change v) { s with past := s.past ++ [s.current], current := v }
  | call :
      Step s .call
        { s with loads := s.loads ++ [⟨.called, s.past.length, s.past.length, false⟩] }
  | turn {i : Nat} {l : Load} {failed : Bool} {p : Phase} {c : FixtureCache}
      (hl : s.loads[i]? = some l) (ht : Turn s l.phase failed p c) :
      Step s (.turn i) (s.advance i l failed p c)

structure Transition where
  before : State
  move : Move
  after : State

/-- The orders of steps, the last one first, with the states that they lead to. -/
inductive Course : List Transition → State → Prop where
  | start (v : Version) : Course [] (.initial v)
  | next {past : List Transition} {s s' : State} {m : Move} (hc : Course past s)
      (h : Step s m s') : Course (⟨s, m, s'⟩ :: past) s'

variable {s s' : State} {m : Move} {past : List Transition}

/-! ### The lock -/

theorem not_holdsLock_of_isFree (h : s.isFree = true) {i : Nat} {l : Load}
    (hl : s.loads[i]? = some l) : l.phase.holdsLock = false := by
  have hmem := List.all_eq_true.mp h l (List.mem_of_getElem? hl)
  simpa using hmem

/-- A load that holds the lock has missed the kept document, and may have read since. -/
inductive Phase.Missed (m : Nat) : Phase → Prop where
  | missed : Missed m (.missed m)
  | read (content : Option ByteArray) : Missed m (.read m content)

theorem Phase.Missed.holdsLock {p : Phase} {n : Nat} (h : p.Missed n) : p.holdsLock = true := by
  cases h <;> rfl

/-- One load at most holds the lock, and nothing is kept of the time that it has missed. -/
structure Locked (s : State) : Prop where
  unique : ∀ {i j : Nat} {l k : Load}, s.loads[i]? = some l → s.loads[j]? = some k →
    l.phase.holdsLock = true → k.phase.holdsLock = true → i = j
  missed : ∀ {i : Nat} {l : Load} {m : Nat}, s.loads[i]? = some l → l.phase.Missed m →
    s.cache.answer? m = none

/-- To hold the lock after a turn a load has had it before, or it was free. -/
theorem Turn.lock_before {p p' : Phase} {failed : Bool} {c : FixtureCache}
    (h : Turn s p failed p' c) (hp' : p'.holdsLock = true) :
    s.isFree = true ∨ p.holdsLock = true := by
  cases h with
  | miss free _ => exact Or.inl free
  | read => exact Or.inr rfl
  | unread => exact Or.inr rfl
  | _ => cases hp'

/-- What is kept changes only when the lock is given back. -/
theorem Turn.cache_eq {p p' : Phase} {failed : Bool} {c : FixtureCache}
    (h : Turn s p failed p' c) :
    c = s.cache ∨ p.holdsLock = true ∧ p'.holdsLock = false := by
  cases h with
  | settle _ => exact Or.inr ⟨rfl, rfl⟩
  | _ => exact Or.inl rfl

theorem Turn.missed_before {p p' : Phase} {failed : Bool} {c : FixtureCache} {n : Nat}
    (h : Turn s p failed p' c) (hp' : p'.Missed n) :
    c = s.cache ∧ (p.Missed n ∨ s.cache.answer? n = none) := by
  cases h with
  | miss _ hmiss =>
    cases hp'
    exact ⟨rfl, Or.inr hmiss⟩
  | read =>
    cases hp'
    exact ⟨rfl, Or.inl .missed⟩
  | unread =>
    cases hp'
    exact ⟨rfl, Or.inl .missed⟩
  | _ => cases hp'

theorem locked_step (h : Step s m s') (hs : Locked s) : Locked s' := by
  cases h with
  | change v => exact ⟨hs.unique, hs.missed⟩
  | call =>
    have hold {i : Nat} {l : Load} (hl : (s.loads ++ [⟨.called, s.past.length, s.past.length,
        false⟩])[i]? = some l) (hh : l.phase.holdsLock = true) : s.loads[i]? = some l := by
      rcases Places.getElem?_concat_some hl with hl | ⟨-, rfl⟩
      · exact hl
      · cases hh
    exact ⟨fun hl hk hh hh' => hs.unique (hold hl hh) (hold hk hh') hh hh',
      fun hl hm => hs.missed (hold hl hm.holdsLock) hm⟩
  | @turn i l failed p c hl ht =>
    -- a load that holds the lock next to another one that has just got on
    have hother {j : Nat} {k : Load} (hij : i ≠ j) (hk : s.loads[j]? = some k)
        (hh : k.phase.holdsLock = true) : p.holdsLock = false ∧ c = s.cache := by
      have hlock : l.phase.holdsLock = false := by
        by_contra hne
        exact hij (hs.unique hl hk (by simpa using hne) hh)
      constructor
      · by_contra hne
        rcases ht.lock_before (by simpa using hne) with free | hp
        · rw [not_holdsLock_of_isFree free hk] at hh
          cases hh
        · rw [hlock] at hp
          cases hp
      · rcases ht.cache_eq with hc | ⟨hp, -⟩
        · exact hc
        · rw [hlock] at hp
          cases hp
    constructor
    · intro j j' k k' hk hk' hh hh'
      rcases Places.getElem?_set_some hk with ⟨rfl, rfl⟩ | ⟨hij, hk⟩
      · rcases Places.getElem?_set_some hk' with ⟨rfl, -⟩ | ⟨hij', hk'⟩
        · rfl
        · rw [(hother hij' hk' hh').1] at hh
          cases hh
      · rcases Places.getElem?_set_some hk' with ⟨rfl, rfl⟩ | ⟨hij', hk'⟩
        · rw [(hother hij hk hh).1] at hh'
          cases hh'
        · exact hs.unique hk hk' hh hh'
    · intro j k n hk hn
      rcases Places.getElem?_set_some hk with ⟨rfl, rfl⟩ | ⟨hij, hk⟩
      · obtain ⟨hc, hn | hnone⟩ := ht.missed_before hn
        · exact hc ▸ hs.missed hl hn
        · exact hc ▸ hnone
      · exact (hother hij hk hn.holdsLock).2 ▸ hs.missed hk hn

theorem locked_of_course (hc : Course past s) : Locked s := by
  induction hc with
  | start v =>
    have hnone {i : Nat} {l : Load} : (State.initial v).loads[i]? ≠ some l := by
      simp [State.initial]
    exact ⟨fun hl => absurd hl hnone, fun hl => absurd hl hnone⟩
  | next _ h ih => exact locked_step h ih

/-- What a load comes to under the lock is what a load from the kept document comes to whose
modification time and content were looked up before, at whatever moments. -/
theorem load_of_turn (hc : Course past s) {i : Nat} {l : Load} {failed : Bool}
    {a : Except FixtureError Document} {c : FixtureCache} (hl : s.loads[i]? = some l)
    (h : Turn s l.phase failed (.returned a) c) :
    l.phase = .called ∨ ∃ m content, s.cache.load m content = (a, c) := by
  generalize hp : l.phase = p at h
  cases h with
  | absent _ => exact Or.inl rfl
  | unstamped => exact Or.inl rfl
  | @hit m d _ h => exact Or.inr ⟨m, none, by rw [FixtureCache.load, h]⟩
  | @settle m content _ _ h =>
    have hmissed := (locked_of_course hc).missed hl (hp ▸ Phase.Missed.read content)
    exact Or.inr ⟨m, content, by rw [FixtureCache.load, hmissed, ← h]⟩

/-! ### A load by itself -/

/-- A state with one more load, which has been called at this version, and what is kept by then. -/
def State.alone (s : State) (c : FixtureCache) (p : Phase) : State :=
  { s with cache := c, loads := s.loads ++ [⟨p, s.past.length, s.past.length, false⟩] }

theorem step_alone {c c' : FixtureCache} {p p' : Phase}
    (h : Turn (s.alone c p) p false p' c') :
    Step (s.alone c p) (.turn s.loads.length) (s.alone c' p') := by
  have hl : (s.alone c p).loads[s.loads.length]? =
      some ⟨p, s.past.length, s.past.length, false⟩ := by simp [State.alone]
  have hset : (s.alone c p).advance s.loads.length ⟨p, s.past.length, s.past.length, false⟩ false
      p' c' = s.alone c' p' := by simp [State.advance, State.alone]
  exact hset ▸ .turn hl h

theorem isFree_alone (free : s.isFree = true) {c : FixtureCache} {p : Phase}
    (hp : p.holdsLock = false) : (s.alone c p).isFree = true := by
  have hall : (s.loads.all fun l => !l.phase.holdsLock) = true := free
  simp [State.isFree, State.alone, hall, hp]

theorem Course.extend (h : ∃ later, Course (later ++ past) s) (hs : Step s m s') :
    ∃ later, Course (later ++ past) s' := by
  obtain ⟨later, hc⟩ := h
  exact ⟨⟨s, m, s'⟩ :: later, .next hc hs⟩

/-- A load that nothing comes between does what a load from the source does. -/
theorem load_alone {source : FixtureSource} {file : Option FixtureFile} (hc : Course past s)
    (free : s.isFree = true) (hcache : s.cache = source.cache)
    (hfile : s.current = .ofFile file) :
    ∃ later, Course (later ++ past)
      (s.alone (source.load file).2.cache (.returned (source.load file).1)) := by
  have hcalled : ∃ later, Course (later ++ past) (s.alone s.cache .called) :=
    Course.extend ⟨[], hc⟩ .call
  cases file with
  | none =>
    have hload : source.load none = (.error .unreadable, source) := rfl
    rw [hload, ← hcache]
    exact Course.extend hcalled (step_alone (.absent hfile))
  | some f =>
    have hstamped : ∃ later, Course (later ++ past) (s.alone s.cache (.stamped f.modified)) :=
      Course.extend hcalled (step_alone (.stamp hfile))
    have hfree : (s.alone s.cache (.stamped f.modified)).isFree = true := isFree_alone free rfl
    cases ha : s.cache.answer? f.modified with
    | some d =>
      have hload : source.load (some f) = (.ok d, source) := by
        rw [FixtureSource.load, FixtureCache.load, ← hcache, ha, hcache]
      rw [hload, ← hcache]
      exact Course.extend hstamped (step_alone (.hit hfree ha))
    | none =>
      have hload : source.load (some f) =
          ((s.cache.refresh f.modified (some f.content)).1,
            { source with cache := (s.cache.refresh f.modified (some f.content)).2 }) := by
        rw [FixtureSource.load, FixtureCache.load, ← hcache, ha]
      have hcontent : s.current.content? = some f.content := by
        rw [hfile]
        rfl
      have hmissed : ∃ later, Course (later ++ past) (s.alone s.cache (.missed f.modified)) :=
        Course.extend hstamped (step_alone (.miss hfree ha))
      have hread : ∃ later, Course (later ++ past)
          (s.alone s.cache (.read f.modified s.current.content?)) :=
        Course.extend hmissed (step_alone .read)
      rw [hload]
      rw [hcontent] at hread
      exact Course.extend hread (step_alone (.settle rfl))

/-! ### Loads return -/

/-- The turns that a load has before it at most. -/
def Phase.toDo : Phase → Nat
  | called => 4
  | stamped _ => 3
  | missed _ => 2
  | read _ _ => 1
  | returned _ => 0

def State.toDo (s : State) : Nat := (s.loads.map fun l => l.phase.toDo).sum

theorem Turn.toDo_lt {p p' : Phase} {failed : Bool} {c : FixtureCache}
    (h : Turn s p failed p' c) : p'.toDo < p.toDo := by
  cases h <;> simp [Phase.toDo]

theorem toDo_turn {i : Nat} (h : Step s (.turn i) s') : s'.toDo < s.toDo := by
  cases h with
  | @turn _ l failed p c hl ht =>
    have hsum := Places.sum_map_set (fun l : Load => l.phase.toDo)
      ⟨p, l.since, s.past.length, l.failed || failed⟩ hl
    have hlt := ht.toDo_lt
    simp only [State.toDo, State.advance] at hsum ⊢
    omega

theorem exists_turn {p : Phase} (hp : p.toDo ≠ 0)
    (hlock : s.isFree = true ∨ p.holdsLock = true) :
    ∃ failed p' c, Turn s p failed p' c := by
  cases p with
  | called =>
    cases hv : s.current with
    | missing => exact ⟨_, _, _, .absent hv⟩
    | present m content => exact ⟨_, _, _, .stamp hv⟩
  | stamped m =>
    have free : s.isFree = true := hlock.resolve_right (by simp [Phase.holdsLock])
    cases ha : s.cache.answer? m with
    | some d => exact ⟨_, _, _, .hit free ha⟩
    | none => exact ⟨_, _, _, .miss free ha⟩
  | missed m => exact ⟨_, _, _, .read⟩
  | read m content => exact ⟨_, _, _, .settle rfl⟩
  | returned a => exact absurd rfl hp

theorem returned_or_turn (s : State) :
    (∀ l ∈ s.loads, ∃ a, l.phase = .returned a) ∨ ∃ i s', Step s (.turn i) s' := by
  have hturn {l : Load} (hmem : l ∈ s.loads) (hdo : l.phase.toDo ≠ 0)
      (hlock : s.isFree = true ∨ l.phase.holdsLock = true) : ∃ i s', Step s (.turn i) s' := by
    obtain ⟨i, hl⟩ := List.getElem?_of_mem hmem
    obtain ⟨failed, p, c, ht⟩ := exists_turn hdo hlock
    exact ⟨i, _, .turn hl ht⟩
  by_cases free : s.isFree = true
  · by_cases hall : ∀ l ∈ s.loads, ∃ a, l.phase = .returned a
    · exact Or.inl hall
    · push Not at hall
      obtain ⟨l, hmem, hne⟩ := hall
      refine Or.inr (hturn hmem ?_ (Or.inl free))
      cases hp : l.phase with
      | returned a => exact absurd hp (hne a)
      | _ => simp [Phase.toDo]
  · have hholder : ∃ l ∈ s.loads, l.phase.holdsLock = true := by
      simpa [State.isFree] using free
    obtain ⟨l, hmem, hh⟩ := hholder
    refine Or.inr (hturn hmem ?_ (Or.inr hh))
    cases hp : l.phase with
    | missed m => simp [Phase.toDo]
    | read m content => simp [Phase.toDo]
    | _ =>
      rw [hp] at hh
      cases hh

end MetricScraper.SharedFixture
