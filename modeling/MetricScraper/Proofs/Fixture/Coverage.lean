import MetricScraper.Fixture.Source
import MetricScraper.Proofs.Engine.Fetches
import MetricScraper.Proofs.Fixture.Documents

/-!
# What a fixture source covers

A fetch that comes in time is answered with one entry for every object that is asked for, and this
entry is what the document says of the object, whatever else is asked for.  So no collector of a
scraper over such a source misses an object that has been declared, whether the document knows it,
the file holds a document, and the fetch came in time, or not.
-/

namespace MetricScraper

open Json (Tree)

/-! ### Fetches -/

/-- A snapshot has one entry for each of some objects, which is what a document says of it, and
none for any other. -/
structure Snapshot.Covers (snapshot : Snapshot) (tree : Tree) (objects : List String) : Prop where
  once : ∀ object, (snapshot.entries.map Prod.fst).count object = if object ∈ objects then 1 else 0
  tells : ∀ object ∈ objects, ∃ answer, snapshot.get? object = some answer ∧
    Document.Tells tree object answer
  absent : ∀ object, object ∉ objects → snapshot.get? object = none

theorem Document.objects_foldl_enter (d : Document) (s : Snapshot) (objects : List String) :
    (objects.foldl d.enter s).entries.map Prod.fst =
      objects.reverse ++ s.entries.map Prod.fst := by
  induction objects generalizing s with
  | nil => rfl
  | cons object rest ih =>
    rw [List.foldl_cons, ih, Document.enter_eq_set, List.reverse_cons, List.append_assoc]
    rfl

/-- The last object is entered last, and so comes first. -/
theorem Document.objects_snapshot (d : Document) (objects : List String) :
    (d.snapshot objects).entries.map Prod.fst = objects.reverse := by
  rw [Document.snapshot, d.objects_foldl_enter]
  exact List.append_nil _

theorem Document.covers_snapshot {d : Document} {tree : Tree} (h : Document.ofTree? tree = some d)
    {objects : List String} (hset : objects.Nodup) : (d.snapshot objects).Covers tree objects := by
  refine ⟨fun object => ?_, fun object hobject => ?_, fun object hobject => ?_⟩
  · rw [d.objects_snapshot, List.count_reverse, hset.count]
  · refine ⟨d.answer object, ?_, Document.tells_answer h object⟩
    rw [d.get?_snapshot, if_pos hobject]
  · rw [d.get?_snapshot, if_neg hobject]

theorem Document.ofContent_of_text {text : String} {tree : Tree} {d : Document}
    (htext : Tree.ofText? text = some tree) (hd : Document.ofTree? tree = some d) :
    Document.ofContent (some text.toUTF8) = .ok d := by
  rw [Document.ofContent_toUTF8, Document.ofText?, htext, Option.bind_some, hd]

namespace FixtureSource

variable {s : FixtureSource} {file : Option FixtureFile} {d : Document} {objects : List String}

theorem fetch_of_load (h : (s.load file).1 = .ok d) :
    (s.fetch file objects false).1 = .ok (d.snapshot objects) := by
  unfold fetch
  rw [if_neg Bool.false_ne_true]
  cases hload : s.load file with
  | mk answer rest =>
    rw [hload] at h
    cases h
    rfl

theorem load_of_text {text : String} {tree : Tree} {d : Document}
    (htext : Tree.ofText? text = some tree) (hd : Document.ofTree? tree = some d)
    (path : String) (modified : Nat) :
    (load ⟨path, .empty⟩ (some ⟨modified, text.toUTF8⟩)).1 = .ok d := by
  show (FixtureCache.empty.refresh modified (some text.toUTF8)).1 = .ok d
  rw [FixtureCache.refresh, Document.ofContent_of_text htext hd]

theorem exists_document_of_fetch {expired : Bool} {snapshot : Snapshot}
    (h : (s.fetch file objects expired).1 = .ok snapshot) :
    ∃ d : Document, snapshot = d.snapshot objects := by
  unfold fetch at h
  split at h
  · cases h
  · split at h
    · cases h
      exact ⟨_, rfl⟩
    · cases h

end FixtureSource

/-! ### Scrapes -/

theorem Snapshot.table_ne_missingObject {snapshot : Snapshot} {object : String}
    {answer : ObjectAnswer} (h : snapshot.get? object = some answer) (other : String) :
    snapshot.table object ≠ .error (.missingObject other) := by
  unfold Snapshot.table
  rw [h]
  cases answer with
  | ok table => exact nofun
  | error e => exact nofun

namespace Engine

/-- The fetches of scrapes are answered by fixture sources, with whatever file there is then. -/
def ServedByFixture (sc : Scraper) (past : History) : Prop :=
  ∀ e i result, (e, Move.fetched i (.answered result)) ∈ past →
    ∃ (s : FixtureSource) (file : Option FixtureFile) (expired : Bool),
      result = (s.fetch file sc.dependencies expired).1

variable {sc : Scraper} {past : History} {e : State} {i : Nat}

theorem fetched_of_mem_fetchEnds {answer : FetchAnswer}
    (h : FetchEnd.came answer ∈ fetchEnds past i) : ∃ e, (e, Move.fetched i answer) ∈ past := by
  obtain ⟨⟨e, m⟩, hmem, hm⟩ := List.mem_filterMap.mp h
  cases m with
  | fetched j a =>
    simp only [Move.fetchEnd?] at hm
    split at hm
    · rename_i hj
      cases hm
      subst hj
      exact ⟨e, hmem⟩
    · cases hm
  | fetchLate j =>
    simp only [Move.fetchEnd?] at hm
    split at hm <;> cases hm
  | _ => cases hm

theorem Given.exists_entry {snapshot : Snapshot} (h : Given sc (fetchEnds past i) snapshot)
    (hserved : ServedByFixture sc past) {object : String} (hobject : object ∈ sc.dependencies) :
    ∃ answer, snapshot.get? object = some answer := by
  generalize hends : fetchEnds past i = ends at h
  cases h with
  | nothing hd =>
    rw [List.isEmpty_iff.mp hd] at hobject
    cases hobject
  -- only here does it matter who has answered: another source may leave objects out
  | snapshot =>
    have hmem : FetchEnd.came (.answered (.ok snapshot)) ∈ fetchEnds past i := by
      rw [hends]
      exact List.mem_singleton_self _
    obtain ⟨e, he⟩ := fetched_of_mem_fetchEnds hmem
    obtain ⟨s, file, expired, hfetch⟩ := hserved e i _ he
    obtain ⟨d, rfl⟩ := FixtureSource.exists_document_of_fetch hfetch.symm
    exact ⟨d.answer object, by rw [d.get?_snapshot, if_pos hobject]⟩
  | error h => exact ⟨_, by rw [h, if_pos hobject]⟩
  | late h => exact ⟨_, by rw [h, if_pos hobject]⟩

theorem exists_entry_of_course (hc : Course sc past e) (hserved : ServedByFixture sc past)
    {n : Nat} {r : Run} (hr : e.runs[n]? = some r) {object : String}
    (hobject : object ∈ sc.dependencies) :
    ∃ answer, r.context.snapshot.get? object = some answer := by
  obtain ⟨s, hs, hphase⟩ := context_of_course hc hr
  obtain ⟨hgiven, -⟩ := (fetched_of_course hc hs).given hphase
  exact hgiven.exists_entry hserved hobject

end Engine

/-! ### Every object that is asked for -/

open Engine

/-- A fetch in time of the objects of a set has one answer for each of them, and what it says of an
object is what the document says and the same as in any other such fetch; and no run of a scraper
over fixture sources is told that an object is missing which its scraper reads. -/
theorem fixtures_cover_requests :
    (∀ (s : FixtureSource) (file : Option FixtureFile) (tree : Tree) (d : Document),
      (s.load file).1 = .ok d → Document.ofTree? tree = some d →
        (∀ objects : List String, objects.Nodup → ∃ snapshot : Snapshot,
          (s.fetch file objects false).1 = .ok snapshot ∧ snapshot.Covers tree objects) ∧
        ∀ (objects others : List String) (snapshot snapshot' : Snapshot),
          (s.fetch file objects false).1 = .ok snapshot →
          (s.fetch file others false).1 = .ok snapshot' →
            ∀ object ∈ objects, object ∈ others →
              snapshot.get? object = snapshot'.get? object) ∧
    ∀ (sc : Scraper) (past : History) (e : State), Course sc past e → ServedByFixture sc past →
      ∀ (n : Nat) (r : Run), e.runs[n]? = some r → ∀ object ∈ sc.dependencies, ∀ other,
        r.context.snapshot.table object ≠ .error (.missingObject other) := by
  refine ⟨fun s file tree d hload htree => ⟨fun objects hset => ?_, ?_⟩, ?_⟩
  · have hcovers := Document.covers_snapshot htree hset
    exact ⟨d.snapshot objects, FixtureSource.fetch_of_load hload, hcovers⟩
  · intro objects others snapshot snapshot' hsnapshot hsnapshot' object hobject hother
    cases (FixtureSource.fetch_of_load hload).symm.trans hsnapshot
    cases (FixtureSource.fetch_of_load hload).symm.trans hsnapshot'
    rw [d.get?_snapshot, d.get?_snapshot, if_pos hobject, if_pos hother]
  · intro sc past e hc hserved n r hr object hobject other
    obtain ⟨answer, hanswer⟩ := exists_entry_of_course hc hserved hr hobject
    exact Snapshot.table_ne_missingObject hanswer other

def drivesText : String :=
  "\x7b\"objects\":\x7b\"Drives\":[\x7b\"instance\":\"C:\",\"counters\":\x7b\"n\":12\x7d\x7d,\x7b\x7d]," ++
    "\"Folders\":[\x7b\x7d]\x7d,\"failing\":\x7b\"Folders\":\"denied\"\x7d\x7d"

/-- An object with two instances, and one that fails though an instance is listed for it. -/
def drivesTree : Tree :=
  .object [
    (some "objects", .object [
      (some "Drives", .array [
        .object [(some "instance", .string (some "C:")),
          (some "counters", .object [(some "n", .number ⟨false, ['1', '2'], [], none⟩)])],
        .object []]),
      (some "Folders", .array [.object []])]),
    (some "failing", .object [(some "Folders", .string (some "denied"))])]

def drivesDocument : Document where
  objects := [("Folders", [⟨none, []⟩]),
    ("Drives", [⟨some "C:", [("n", (Json.Number.unsigned 12).toFloat)]⟩, ⟨none, []⟩])]
  failing := [("Folders", "denied")]
  queries := []

theorem ofText?_drives : Tree.ofText? drivesText = some drivesTree := by cbv

theorem ofTree?_drives : Document.ofTree? drivesTree = some drivesDocument := rfl

def drivesSource : FixtureSource := ⟨"drives.json", .empty⟩

def drivesFile : Option FixtureFile := some ⟨1, drivesText.toUTF8⟩

def drivesScraper : Scraper :=
  .ofUnits "windows" [("drives", .single (.table "Absent" fun _ => .done ()))]
    ["Absent", "Drives", "Folders"]

/-- One scrape while the file is there, and one while it is not. -/
def drivesMoves (snapshot : Snapshot) (error : FetchError) : List Move :=
  [.begin none, .fetched 0 (.answered (.ok snapshot)), .note 0, .launch 0,
    .begin none, .fetched 1 (.answered (.error error)), .note 1, .launch 1]

def drivesPlay (snapshot : Snapshot) (error : FetchError) : History × State :=
  play drivesScraper [] State.initial (drivesMoves snapshot error)

theorem drives_course (snapshot : Snapshot) (error : FetchError) :
    Course drivesScraper (drivesPlay snapshot error).1 (drivesPlay snapshot error).2 :=
  Course.start.play _

theorem served_drives {snapshot : Snapshot} {error : FetchError}
    (hsnapshot : (drivesSource.fetch drivesFile drivesScraper.dependencies false).1 = .ok snapshot)
    (herror : (drivesSource.fetch none drivesScraper.dependencies false).1 = .error error) :
    ServedByFixture drivesScraper (drivesPlay snapshot error).1 := by
  intro e i result hmem
  rcases mem_play hmem with hnil | hmove
  · cases hnil
  · simp only [drivesMoves, List.mem_cons, List.not_mem_nil, or_false] at hmove
    rcases hmove with h | h | h | h | h | h | h | h
    all_goals cases h
    · exact ⟨drivesSource, drivesFile, false, hsnapshot.symm⟩
    · exact ⟨drivesSource, none, false, herror.symm⟩

/-- What the document of the drives says of them, of the folders and of an object that is not in it,
and a second scrape that finds no file. -/
theorem fixtures_cover_requests_drives :
    ∃ (snapshot : Snapshot) (error : FetchError),
      (drivesSource.fetch drivesFile drivesScraper.dependencies false).1 = .ok snapshot ∧
      (drivesSource.fetch none drivesScraper.dependencies false).1 = .error error ∧
      snapshot.get? "Absent" = some (.error (.notFound "Absent")) ∧
      snapshot.get? "Folders" = some (.error (.read "Folders" "denied")) ∧
      (∃ first second : Instance, snapshot.get? "Drives" = some (.ok ⟨"Drives", [first, second]⟩) ∧
        first.name = some "C:" ∧ first.counter? "n" = some (Json.Number.unsigned 12).toFloat ∧
        second.name = none) ∧
      (drivesPlay snapshot error).2.runs.length = 2 ∧
      ∀ (n : Nat) (r : Run), (drivesPlay snapshot error).2.runs[n]? = some r →
        ∀ other, r.context.snapshot.table "Absent" ≠ .error (.missingObject other) := by
  have hload : (drivesSource.load drivesFile).1 = .ok drivesDocument :=
    FixtureSource.load_of_text ofText?_drives ofTree?_drives _ 1
  obtain ⟨hcover, hcourse⟩ := fixtures_cover_requests
  obtain ⟨snapshot, hfetch, hcovers⟩ :=
    (hcover drivesSource drivesFile drivesTree drivesDocument hload ofTree?_drives).1
      drivesScraper.dependencies (by decide)
  refine ⟨snapshot, _, hfetch, rfl, ?_, ?_, ?_, rfl, ?_⟩
  · obtain ⟨answer, hget, htells⟩ := hcovers.tells "Absent" (by decide)
    cases htells with
    | fails h => cases h
    | lists _ h => cases h
    | omits => exact hget
  · obtain ⟨answer, hget, htells⟩ := hcovers.tells "Folders" (by decide)
    cases htells with
    | fails h =>
      cases h
      exact hget
    | lists h => cases h
    | omits h => cases h
  · obtain ⟨answer, hget, htells⟩ := hcovers.tells "Drives" (by decide)
    cases htells with
    | fails h => cases h
    | lists _ h hall =>
      cases h
      cases hall with
      | cons hfirst hall =>
        cases hall with
        | cons hsecond hall =>
          cases hall
          exact ⟨_, _, hget, hfirst.name, hfirst.counter "n", hsecond.name⟩
    | omits _ h => cases h
  · intro n r hr
    have hserved := served_drives hfetch rfl
    exact hcourse drivesScraper _ _ (drives_course _ _) hserved n r hr "Absent" (by decide)

end MetricScraper
