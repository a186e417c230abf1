import MetricScraper.Proofs.Fixture.Sharing

/-!
# Loads answer afresh

The lock does not cover the look-up of the modification time, so a document may be kept under a
time that is older than what it was read from, but never under a newer one.  A load that finds a
document under the time that it has looked up itself therefore finds what the file has held since
then; it cannot have been there before, as every change makes the time greater.
-/

namespace MetricScraper.SharedFixture

variable {α : Type} {s s' : State} {m : Move} {past : List Transition} {vs : List Version}

/-! ### Places of versions -/

def At (f : Version → α) (vs : List Version) (i : Nat) (x : α) : Prop :=
  ∃ v, vs[i]? = some v ∧ f v = x

theorem At.append {f : Version → α} {i : Nat} {x : α} (h : At f vs i x) (v : Version) :
    At f (vs ++ [v]) i x := by
  obtain ⟨w, hw, hx⟩ := h
  exact ⟨w, Places.getElem?_concat_of_some v hw, hx⟩

theorem at_current (f : Version → α) (s : State) : At f s.versions s.past.length (f s.current) :=
  ⟨s.current, by simp [State.versions], rfl⟩

theorem Grows.place_eq (h : Grows vs) {i j n : Nat} (hi : At Version.modified? vs i (some n))
    (hj : At Version.modified? vs j (some n)) : i = j := by
  obtain ⟨v, hv, hvn⟩ := hi
  obtain ⟨w, hw, hwn⟩ := hj
  obtain ⟨hil, hvi⟩ := List.getElem?_eq_some_iff.mp hv
  obtain ⟨hjl, hwj⟩ := List.getElem?_eq_some_iff.mp hw
  have hpair := List.pairwise_iff_getElem.mp h
  rcases Nat.lt_trichotomy i j with hij | hij | hij
  · have hlt := hpair i j hil hjl hij n (hvi ▸ hvn) n (hwj ▸ hwn)
    omega
  · exact hij
  · have hlt := hpair j i hjl hil hij n (hwj ▸ hwn) n (hvi ▸ hvn)
    omega

/-! ### Where answers come from -/

/-- A document was read when a modification time had been looked up, up to some version. -/
def Kept (vs : List Version) (last n : Nat) (d : Document) : Prop :=
  ∃ i j, i ≤ j ∧ j ≤ last ∧ At Version.modified? vs i (some n) ∧ At Version.answer vs j (.ok d)

/-- A modification time that was looked up since some version. -/
def Stamped (vs : List Version) (since upto n : Nat) : Prop :=
  ∃ i, since ≤ i ∧ i ≤ upto ∧ At Version.modified? vs i (some n)

/-- What a version in between comes to, or what a failed reading does. -/
def Found (vs : List Version) (since upto : Nat) (failed : Bool)
    (a : Except FixtureError Document) : Prop :=
  (∃ j, since ≤ j ∧ j ≤ upto ∧ At Version.answer vs j a) ∨
    failed = true ∧ a = .error .unreadable

/-- How a load has come to its phase. -/
inductive Traced (vs : List Version) (since upto : Nat) (failed : Bool) : Phase → Prop where
  | called : Traced vs since upto failed .called
  | stamped {n : Nat} (h : Stamped vs since upto n) : Traced vs since upto failed (.stamped n)
  | missed {n : Nat} (h : Stamped vs since upto n) : Traced vs since upto failed (.missed n)
  | read {i j n : Nat} {content : Option ByteArray} (hi : since ≤ i) (hij : i ≤ j) (hj : j ≤ upto)
      (hn : At Version.modified? vs i (some n))
      (h : At Version.content? vs j content ∨ failed = true ∧ content = none) :
      Traced vs since upto failed (.read n content)
  | found {a : Except FixtureError Document} (h : Found vs since upto failed a) :
      Traced vs since upto failed (.returned a)
  | reused {n : Nat} {d : Document} (hn : Stamped vs since upto n) (hd : Kept vs upto n d) :
      Traced vs since upto failed (.returned (.ok d))

theorem Kept.mono {last n : Nat} {d : Document} (h : Kept vs last n d) (v : Version) :
    Kept (vs ++ [v]) (last + 1) n d := by
  obtain ⟨i, j, hij, hj, hn, hd⟩ := h
  exact ⟨i, j, hij, by omega, hn.append v, hd.append v⟩

theorem Stamped.append {since upto n : Nat} (h : Stamped vs since upto n) (v : Version) :
    Stamped (vs ++ [v]) since upto n := by
  obtain ⟨i, hi, hu, hn⟩ := h
  exact ⟨i, hi, hu, hn.append v⟩

theorem Stamped.mono {since upto upto' n : Nat} (h : Stamped vs since upto n)
    (hu : upto ≤ upto') : Stamped vs since upto' n := by
  obtain ⟨i, hi, hi', hn⟩ := h
  exact ⟨i, hi, hi'.trans hu, hn⟩

theorem Traced.append {since upto : Nat} {failed : Bool} {p : Phase}
    (h : Traced vs since upto failed p) (v : Version) : Traced (vs ++ [v]) since upto failed p := by
  cases h with
  | called => exact .called
  | stamped h => exact .stamped (h.append v)
  | missed h => exact .missed (h.append v)
  | read hi hij hj hn h => exact .read hi hij hj (hn.append v) (h.imp_left fun h => h.append v)
  | found h =>
    refine .found (h.imp_left fun h => ?_)
    obtain ⟨j, hj, hu, ha⟩ := h
    exact ⟨j, hj, hu, ha.append v⟩
  | reused hn hd =>
    obtain ⟨i, j, hij, hj, hi, ha⟩ := hd
    exact .reused (hn.append v) ⟨i, j, hij, hj, hi.append v, ha.append v⟩

/-! ### What a turn adds -/

theorem answer?_refresh {c : FixtureCache} {k n : Nat} {content : Option ByteArray}
    {d : Document} (h : (c.refresh n content).2.answer? k = some d) :
    n = k ∧ Document.ofContent content = .ok d ∨ c.answer? k = some d := by
  rw [FixtureCache.refresh] at h
  cases hd : Document.ofContent content with
  | error e =>
    rw [hd] at h
    exact Or.inr h
  | ok d' =>
    rw [hd] at h
    simp only [FixtureCache.answer?] at h
    split at h
    · rename_i heq
      cases h
      exact Or.inl ⟨heq, rfl⟩
    · cases h

theorem refresh_fst (c : FixtureCache) (n : Nat) (content : Option ByteArray) :
    (c.refresh n content).1 = Document.ofContent content := by
  rw [FixtureCache.refresh]
  split <;> simp [*]

/-- Everything that is kept was read after its time had been looked up. -/
def Keeps (s : State) (c : FixtureCache) : Prop :=
  ∀ n d, c.answer? n = some d → Kept s.versions s.past.length n d

theorem Turn.traced {since upto : Nat} {failed failed' : Bool} {p p' : Phase} {c : FixtureCache}
    (h : Turn s p failed' p' c) (hp : Traced s.versions since upto failed p)
    (hs : since ≤ s.past.length) (hu : upto ≤ s.past.length) (hc : Keeps s s.cache) :
    Traced s.versions since s.past.length (failed || failed') p' ∧ Keeps s c := by
  cases h with
  | @stamp n content h =>
    refine ⟨.stamped ⟨_, hs, le_rfl, ?_⟩, hc⟩
    have hat := at_current Version.modified? s
    rw [h] at hat
    exact hat
  | absent h =>
    refine ⟨.found (Or.inl ⟨_, hs, le_rfl, ?_⟩), hc⟩
    have hat := at_current Version.answer s
    rw [h] at hat
    exact hat
  | unstamped => exact ⟨.found (Or.inr ⟨by simp, rfl⟩), hc⟩
  | hit _ h =>
    cases hp with
    | stamped hn => exact ⟨.reused (hn.mono hu) (hc _ _ h), hc⟩
  | miss _ _ =>
    cases hp with
    | stamped hn => exact ⟨.missed (hn.mono hu), hc⟩
  | read =>
    cases hp with
    | missed hn =>
      obtain ⟨i, hi, hiu, hn⟩ := hn
      exact ⟨.read hi (hiu.trans hu) le_rfl hn (Or.inl (at_current _ s)), hc⟩
  | unread =>
    cases hp with
    | missed hn =>
      obtain ⟨i, hi, hiu, hn⟩ := hn
      exact ⟨.read hi (hiu.trans hu) le_rfl hn (Or.inr ⟨by simp, rfl⟩), hc⟩
  | @settle n content a c h =>
    cases hp with
    | @read i j _ _ hi hij hj hn hread =>
      have ha : a = Document.ofContent content := by rw [← refresh_fst s.cache n content, h]
      have hc' : c = (s.cache.refresh n content).2 := by rw [h]
      constructor
      · refine .found ?_
        rcases hread with ⟨v, hv, hcontent⟩ | ⟨hfailed, rfl⟩
        · refine Or.inl ⟨j, hi.trans hij, hj.trans hu, v, hv, ?_⟩
          rw [Version.answer, hcontent, ha]
        · exact Or.inr ⟨by simp [hfailed], ha⟩
      · intro k d hk
        rw [hc'] at hk
        rcases answer?_refresh hk with ⟨rfl, hd⟩ | hk
        · rcases hread with ⟨v, hv, hcontent⟩ | ⟨-, rfl⟩
          · exact ⟨i, j, hij, hj.trans hu, hn, v, hv, by rw [Version.answer, hcontent, hd]⟩
          · cases hd
        · exact hc k d hk

/-! ### Courses -/

/-- Loads and the kept document come from versions that there have been. -/
structure Sourced (s : State) : Prop where
  since_le : ∀ {i : Nat} {l : Load}, s.loads[i]? = some l → l.since ≤ l.upto
  upto_le : ∀ {i : Nat} {l : Load}, s.loads[i]? = some l → l.upto ≤ s.past.length
  traced : ∀ {i : Nat} {l : Load}, s.loads[i]? = some l →
    Traced s.versions l.since l.upto l.failed l.phase
  keeps : Keeps s s.cache

theorem sourced_step (h : Step s m s') (hs : Sourced s) : Sourced s' := by
  cases h with
  | change v =>
    have hversions : ({ s with past := s.past ++ [s.current], current := v } : State).versions =
        s.versions ++ [v] := rfl
    have hlength : (s.past ++ [s.current]).length = s.past.length + 1 := by simp
    refine ⟨hs.since_le, fun hl => ?_, fun hl => ?_, fun n d hk => ?_⟩
    · have hle := hs.upto_le hl
      simp only [hlength]
      omega
    · rw [hversions]
      exact (hs.traced hl).append v
    · rw [hversions]
      simp only [hlength]
      exact (hs.keeps n d hk).mono v
  | call =>
    refine ⟨fun hl => ?_, fun hl => ?_, fun hl => ?_, hs.keeps⟩
    all_goals rcases Places.getElem?_concat_some hl with hl | ⟨-, rfl⟩
    · exact hs.since_le hl
    · exact le_rfl
    · exact hs.upto_le hl
    · exact le_rfl
    · exact hs.traced hl
    · exact .called
  | @turn i l failed p c hl ht =>
    have hsu := (hs.since_le hl).trans (hs.upto_le hl)
    obtain ⟨htraced, hkeeps⟩ := ht.traced (hs.traced hl) hsu (hs.upto_le hl) hs.keeps
    refine ⟨fun hk => ?_, fun hk => ?_, fun hk => ?_, hkeeps⟩
    all_goals rcases Places.getElem?_set_some hk with ⟨rfl, rfl⟩ | ⟨-, hk⟩
    · exact hsu
    · exact hs.since_le hk
    · exact le_rfl
    · exact hs.upto_le hk
    · exact htraced
    · exact hs.traced hk

theorem sourced_of_course (hc : Course past s) : Sourced s := by
  induction hc with
  | start v =>
    have hnone {i : Nat} {l : Load} : (State.initial v).loads[i]? ≠ some l := by
      simp [State.initial]
    exact ⟨fun hl => absurd hl hnone, fun hl => absurd hl hnone, fun hl => absurd hl hnone,
      fun n d hk => by cases hk⟩
  | next _ h ih => exact sourced_step h ih

/-- A document that is kept under the time that a load has looked up itself was read during that
load: the version of that time is the only one, and so was there after the load had been called. -/
theorem Traced.found_of_grows {since upto : Nat} {failed : Bool}
    {a : Except FixtureError Document} (hg : Grows vs)
    (h : Traced vs since upto failed (.returned a)) : Found vs since upto failed a := by
  cases h with
  | found h => exact h
  | reused hn hd =>
    obtain ⟨i, hi, -, hn⟩ := hn
    obtain ⟨i', j, hij, hj, hn', ha⟩ := hd
    have hsame := hg.place_eq hn hn'
    exact Or.inl ⟨j, by omega, hj, ha⟩

/-! ### What is kept -/

theorem Turn.keeps_or_ok {p p' : Phase} {failed : Bool} {c : FixtureCache}
    (h : Turn s p failed p' c) : c = s.cache ∨ ∃ d, p' = .returned (.ok d) := by
  cases h with
  | @settle n content a c h =>
    cases hd : Document.ofContent content with
    | ok d =>
      rw [FixtureCache.refresh, hd] at h
      cases h
      exact Or.inr ⟨d, rfl⟩
    | error e =>
      rw [FixtureCache.refresh, hd] at h
      cases h
      exact Or.inl rfl
  | _ => exact Or.inl rfl

theorem returned_stays (h : Step s m s') {i : Nat} {l : Load} {a : Except FixtureError Document}
    (hl : s.loads[i]? = some l) (ha : l.phase = .returned a) : s'.loads[i]? = some l := by
  cases h with
  | change v => exact hl
  | call => exact Places.getElem?_concat_of_some _ hl
  | @turn j k failed p c hk ht =>
    by_cases hij : j = i
    · -- a load that has returned makes no turn
      subst hij
      cases hl.symm.trans hk
      rw [ha] at ht
      cases ht
    · rw [State.advance, List.getElem?_set_ne hij]
      exact hl

/-- Only a load that returns a document changes what is kept. -/
theorem keeps_or_ok_of_course (hc : Course past s) {t : Transition} (ht : t ∈ past) :
    t.after.cache = t.before.cache ∨
      ∃ i l d, t.move = .turn i ∧ s.loads[i]? = some l ∧ l.phase = .returned (.ok d) := by
  induction hc with
  | start v => cases ht
  | next hc h ih =>
    rcases List.mem_cons.mp ht with rfl | ht
    · cases h with
      | change v => exact Or.inl rfl
      | call => exact Or.inl rfl
      | @turn i l failed p c hl hturn =>
        rcases hturn.keeps_or_ok with rfl | ⟨d, rfl⟩
        · exact Or.inl rfl
        · exact Or.inr ⟨i, _, d, rfl, Places.getElem?_set_self _ hl, rfl⟩
    · rcases ih ht with hsame | ⟨i, l, d, hmove, hl, hd⟩
      · exact Or.inl hsame
      · exact Or.inr ⟨i, l, d, hmove, returned_stays h hl hd, hd⟩

/-! ### All loads -/

/-- Some version that was there during a load comes to an answer. -/
def HeldDuring (s : State) (l : Load) (a : Except FixtureError Document) : Prop :=
  ∃ (j : Nat) (v : Version), l.since ≤ j ∧ j ≤ l.upto ∧ s.versions[j]? = some v ∧ v.answer = a

/-- In every course of loads and changes, where every change makes the modification time greater:
a load that returns a document returns what the file held at some moment since the load was
called; a load that fails has changed nothing that is kept, and fails as the file did at some
moment since then or as a reading of its own did; a load that is called after the last change
answers with what the file holds, unless a reading of its own fails; and loads do return, since
every turn brings the end closer and there is a turn to make until all of them have. -/
theorem loads_answer_afresh (hc : Course past s) (hg : Grows s.versions) :
    (∀ (i : Nat) (l : Load) (d : Document), s.loads[i]? = some l →
      l.phase = .returned (.ok d) → HeldDuring s l (.ok d)) ∧
    (∀ (i : Nat) (l : Load) (e : FixtureError), s.loads[i]? = some l →
      l.phase = .returned (.error e) →
        (∀ t ∈ past, t.move = .turn i → t.after.cache = t.before.cache) ∧
        (HeldDuring s l (.error e) ∨ l.failed = true ∧ e = .unreadable)) ∧
    (∀ (i : Nat) (l : Load) (a : Except FixtureError Document), s.loads[i]? = some l →
      l.phase = .returned a → l.since = s.past.length → l.failed = false →
        a = s.current.answer) ∧
    (∀ i s', Step s (.turn i) s' → s'.toDo < s.toDo) ∧
    ((∀ l ∈ s.loads, ∃ a, l.phase = .returned a) ∨ ∃ i s', Step s (.turn i) s') := by
  have hsourced := sourced_of_course hc
  have hfound {i : Nat} {l : Load} {a : Except FixtureError Document}
      (hl : s.loads[i]? = some l) (ha : l.phase = .returned a) :
      Found s.versions l.since l.upto l.failed a :=
    (ha ▸ hsourced.traced hl).found_of_grows hg
  refine ⟨fun i l d hl hd => ?_, fun i l e hl he => ⟨fun t ht hmove => ?_, ?_⟩,
    fun i l a hl ha hlast hread => ?_, fun i s' => toDo_turn, returned_or_turn s⟩
  · obtain ⟨j, hj, hu, v, hv, hvd⟩ | ⟨-, herr⟩ := hfound hl hd
    · exact ⟨j, v, hj, hu, hv, hvd⟩
    · cases herr
  · rcases keeps_or_ok_of_course hc ht with hsame | ⟨k, l', d, hturn, hl', hd⟩
    · exact hsame
    · cases hmove.symm.trans hturn
      cases hl.symm.trans hl'
      cases he.symm.trans hd
  · rcases hfound hl he with ⟨j, hj, hu, v, hv, hve⟩ | ⟨hfailed, herr⟩
    · exact Or.inl ⟨j, v, hj, hu, hv, hve⟩
    · cases herr
      exact Or.inr ⟨hfailed, rfl⟩
  · rcases hfound hl ha with ⟨j, hj, hu, hat⟩ | ⟨hfailed, -⟩
    · have hle := hsourced.upto_le hl
      have hcurrent : j = s.past.length := by omega
      obtain ⟨v, hv, rfl⟩ := hat
      obtain ⟨w, hw, hwa⟩ := at_current Version.answer s
      rw [hcurrent, hw] at hv
      cases hv
      exact hwa
    · rw [hread] at hfailed
      cases hfailed

def heldText : String := "\x7b\"failing\":\x7b\"a\":\"b\"\x7d\x7d"

/-- A file that holds a document. -/
def heldContent : Option ByteArray := some heldText.toUTF8

def heldDocument : Document := ⟨[], [("a", "b")], []⟩

def heldTree : Json.Tree :=
  .object [(some "failing", .object [(some "a", .string (some "b"))])]

theorem ofText?_held : Json.Tree.ofText? heldText = some heldTree := by cbv

theorem ofTree?_held : Document.ofTree? heldTree = some heldDocument := rfl

theorem ofContent_held : Document.ofContent heldContent = .ok heldDocument := by
  rw [heldContent, Document.ofContent_toUTF8, Document.ofText?, ofText?_held, Option.bind_some,
    ofTree?_held]

def emptyContent : Option ByteArray := some "".toUTF8

theorem ofText?_empty : Json.Tree.ofText? "" = none := by cbv

theorem ofContent_empty : Document.ofContent emptyContent = .error .malformed := by
  rw [emptyContent, Document.ofContent_toUTF8, Document.ofText?, ofText?_empty, Option.bind_none]

/-- Two loads look up the time of a file that holds nothing yet.  It is written, the first load
reads it and keeps it under the old time, and there the second load finds it.  Then the file is
spoilt, and a third load fails. -/
theorem raced_course :
    ∃ past, Course past ⟨[.present 1 emptyContent, .present 2 heldContent],
      .present 3 emptyContent, ⟨some (1, heldDocument)⟩,
      [⟨.returned (.ok heldDocument), 0, 1, false⟩, ⟨.returned (.ok heldDocument), 0, 1, false⟩,
        ⟨.returned (.error .malformed), 2, 2, false⟩]⟩ := by
  have hkeep : FixtureCache.empty.refresh 1 heldContent =
      (.ok heldDocument, ⟨some (1, heldDocument)⟩) := by
    rw [FixtureCache.refresh, ofContent_held]
  have hspoilt : (⟨some (1, heldDocument)⟩ : FixtureCache).refresh 3 emptyContent =
      (.error .malformed, ⟨some (1, heldDocument)⟩) := by
    rw [FixtureCache.refresh, ofContent_empty]
  have hcalled := ((Course.start (.present 1 emptyContent)).next .call).next .call
  have hstamped := (hcalled.next (.turn (i := 0) rfl (.stamp rfl))).next
    (.turn (i := 1) rfl (.stamp rfl))
  have hwritten := hstamped.next (.change (.present 2 heldContent))
  have hread := (hwritten.next (.turn (i := 0) rfl (.miss rfl rfl))).next
    (.turn (i := 0) rfl .read)
  have hfirst := hread.next (.turn (i := 0) rfl (.settle hkeep))
  have hsecond := hfirst.next (.turn (i := 1) rfl (.hit (d := heldDocument) rfl rfl))
  have hthird := (hsecond.next (.change (.present 3 emptyContent))).next .call
  have hlast := ((hthird.next (.turn (i := 2) rfl (.stamp rfl))).next
    (.turn (i := 2) rfl (.miss rfl rfl))).next (.turn (i := 2) rfl .read)
  have hend := hlast.next (.turn (i := 2) rfl (.settle hspoilt))
  exact ⟨_, hend⟩

theorem loads_answer_afresh_raced :
    ∃ past s, Course past s ∧ Grows s.versions ∧
      (∃ l : Load, s.loads[1]? = some l ∧ l.phase = .returned (.ok heldDocument) ∧
        HeldDuring s l (.ok heldDocument)) ∧
      ∃ l : Load, s.loads[2]? = some l ∧ l.phase = .returned (.error .malformed) ∧
        HeldDuring s l (.error .malformed) ∧ s.current.answer = .error .malformed := by
  obtain ⟨past, hc⟩ := raced_course
  have hg : Grows [.present 1 emptyContent, .present 2 heldContent, .present 3 emptyContent] := by
    simp [Grows, Version.modified?]
  obtain ⟨hdocument, hfailure, hlast, -, -⟩ := loads_answer_afresh hc hg
  refine ⟨past, _, hc, hg, ⟨_, rfl, rfl, hdocument 1 _ _ rfl rfl⟩, _, rfl, rfl, ?_,
    (hlast 2 _ _ rfl rfl rfl rfl).symm⟩
  exact (hfailure 2 _ _ rfl rfl).2.resolve_right nofun

end MetricScraper.SharedFixture
