import MetricScraper.Proofs.Places
import MetricScraper.Proofs.Registry.Startup

/-!
# Resolving

The names of a list are gone through once, and what they enable and which of them are unknown comes
together on the way.  What is enabled is what the names mention, each collector where it is
mentioned first.  So nothing comes of mentioning a collector again, and the order of the names shows
in the order of the collectors and nowhere else.
-/

namespace MetricScraper

open Places (eraseDups_append_of_subset eraseDups_eq_nil_iff eraseDups_of_nodup
  pairwise_idxOf_eraseDups)
open Replication (fresh append_fresh_cons fresh_nil)

namespace EnabledSet

theorem names_push (e : EnabledSet) (name : String) :
    (e.push name).names = if name ∈ e.names then e.names else e.names ++ [name] := by
  simp only [push, contains, List.contains_iff_mem]
  split <;> rfl

theorem names_foldl_push (names : List String) (e : EnabledSet) :
    (names.foldl push e).names = e.names ++ fresh e.names names := by
  induction names generalizing e with
  | nil => exact (List.append_nil _).symm
  | cons n names ih => rw [List.foldl_cons, ih, names_push, append_fresh_cons]

theorem foldl_push_empty (names : List String) : names.foldl push empty = ⟨names.eraseDups⟩ := by
  have hnames := names_foldl_push names empty
  rw [empty, List.nil_append, fresh_nil] at hnames
  exact congrArg mk hnames

end EnabledSet

namespace Registry

variable {κ : Type} {r : Registry κ} {names others : List String} {enabled : EnabledSet}

/-! ### Ascending lists -/

theorem ascending_congr {texts texts' : List String} (h : ∀ x, x ∈ texts ↔ x ∈ texts') :
    ascending texts = ascending texts' := by
  have hasc := pairwise_ascending texts
  have hasc' := pairwise_ascending texts'
  have hperm : (ascending texts).Perm (ascending texts') := by
    refine (List.perm_ext_iff_of_nodup ?_ ?_).mpr fun x => ?_
    · exact hasc.imp ne_of_lt
    · exact hasc'.imp ne_of_lt
    · rw [mem_ascending, mem_ascending, h]
  exact hperm.eq_of_pairwise (fun _ _ _ _ hab hba => absurd hba (lt_asymm hab)) hasc hasc'

/-! ### What names mention -/

/-- The collectors that names mention, in order: a group mentions its members where it stands. -/
def mentions (r : Registry κ) (names : List String) : List String :=
  names.flatMap fun n => (r.group? n).getD [n]

/-- A collector that is asked for, by its name or through a group. -/
def Requests (r : Registry κ) (names : List String) (x : String) : Prop :=
  (x ∈ names ∧ r.collector? x ≠ none) ∨
    ∃ group ∈ names, ∃ members, r.group? group = some members ∧ x ∈ members

theorem expand?_isNone (r : Registry κ) (n : String) : (r.expand? n).isNone = !r.isTaken n := by
  rw [expand?, isTaken]
  cases r.group? n with
  | some members => simp
  | none => cases r.collector? n <;> rfl

theorem expand?_getD {n : String} (h : r.isTaken n = true) :
    (r.expand? n).getD [] = (r.group? n).getD [n] := by
  rw [isTaken] at h
  rw [expand?]
  cases hg : r.group? n with
  | some members => rfl
  | none =>
    have hc : (r.collector? n).isSome = true := by simpa [hg] using h
    rw [if_pos hc]
    rfl

theorem mem_mentions_of_requests (hr : r.Sound) {x : String} (h : r.Requests names x) :
    x ∈ r.mentions names := by
  rcases h with ⟨hx, hc⟩ | ⟨group, hgroup, members, hg, hx⟩
  · have hg : r.group? x = none := (hr.disjoint x).resolve_left hc
    exact List.mem_flatMap.mpr ⟨x, hx, by simp [hg]⟩
  · exact List.mem_flatMap.mpr ⟨group, hgroup, by simpa [hg] using hx⟩

theorem mem_mentions (hr : r.Sound) (hall : ∀ n ∈ names, r.isTaken n = true) {x : String} :
    x ∈ r.mentions names ↔ r.Requests names x := by
  refine ⟨fun h => ?_, mem_mentions_of_requests hr⟩
  obtain ⟨n, hn, hx⟩ := List.mem_flatMap.mp h
  cases hg : r.group? n with
  | some members =>
    rw [hg, Option.getD_some] at hx
    exact Or.inr ⟨n, hn, members, hg, hx⟩
  | none =>
    rw [hg, Option.getD_none, List.mem_singleton] at hx
    have hc : (r.collector? n).isSome = true := by simpa [isTaken, hg] using hall n hn
    rw [hx]
    exact Or.inl ⟨hn, Option.isSome_iff_ne_none.mp hc⟩

theorem mentions_of_collectors (hr : r.Sound) (hall : ∀ n ∈ names, r.collector? n ≠ none) :
    r.mentions names = names := by
  have hself : ∀ n ∈ names, (r.group? n).getD [n] = [n] := fun n hn => by
    rw [(hr.disjoint n).resolve_left (hall n hn), Option.getD_none]
  rw [mentions, List.flatMap_congr hself, List.flatMap_singleton']

theorem isTaken_of_collector {n : String} (h : r.collector? n ≠ none) : r.isTaken n = true := by
  rw [isTaken, Option.isSome_iff_ne_none.mpr h, Bool.true_or]

theorem isTaken_of_group {n : String} {members : List String} (h : r.group? n = some members) :
    r.isTaken n = true := by
  rw [isTaken, h, Option.isSome_some, Bool.or_true]

/-! ### What comes of a list -/

theorem unknownNames_eq (r : Registry κ) (names : List String) :
    r.unknownNames names = (names.filter fun n => !r.isTaken n).eraseDups := by
  simp only [unknownNames, EnabledSet.foldl_push_empty, expand?_isNone]

theorem foldl_enable (r : Registry κ) (names : List String) (e : EnabledSet) :
    names.foldl r.enable e =
      (names.flatMap fun n => (r.expand? n).getD []).foldl EnabledSet.push e :=
  List.foldl_flatMap.symm

theorem resolve_of_known (h : ∀ n ∈ names, r.isTaken n = true) :
    r.resolve names = .ok ⟨(r.mentions names).eraseDups⟩ := by
  refine resolve_eq_ok_iff.mpr ⟨fun n hn => ?_, ?_⟩
  · have hsome : (r.expand? n).isNone = false := by rw [expand?_isNone, h n hn, Bool.not_true]
    exact Option.isSome_iff_ne_none.mp (by simpa using hsome)
  · have hsame := List.flatMap_congr fun n hn => expand?_getD (h n hn)
    rw [foldl_enable, EnabledSet.foldl_push_empty, hsame, mentions]

theorem resolve_of_unknown (h : ∃ n ∈ names, ¬ r.isTaken n = true) :
    r.resolve names =
      .error (.unknownCollectors (names.filter fun n => !r.isTaken n).eraseDups) := by
  obtain ⟨n, hn, hfree⟩ := h
  have hne : (names.filter fun n => !r.isTaken n).eraseDups ≠ [] := by
    rw [ne_eq, eraseDups_eq_nil_iff, List.filter_eq_nil_iff]
    exact fun hnone => hnone n hn (by simpa using hfree)
  rw [resolve, unknownNames_eq]
  split
  · rename_i hnil
    exact absurd hnil hne
  · rfl

theorem resolve_ok_iff :
    r.resolve names = .ok enabled ↔
      (∀ n ∈ names, r.isTaken n = true) ∧ enabled.names = (r.mentions names).eraseDups := by
  by_cases h : ∀ n ∈ names, r.isTaken n = true
  · rw [resolve_of_known h, Except.ok.injEq, and_iff_right h]
    exact ⟨fun heq => heq ▸ rfl, fun heq => congrArg EnabledSet.mk heq.symm⟩
  · have hunknown : ∃ n ∈ names, ¬ r.isTaken n = true := by simpa using h
    rw [resolve_of_unknown hunknown]
    constructor
    · intro heq
      cases heq
    · intro hall
      exact absurd hall.1 h

theorem resolve_error_iff {error : ConfigError} :
    r.resolve names = .error error ↔
      (∃ n ∈ names, ¬ r.isTaken n = true) ∧
        error = .unknownCollectors (names.filter fun n => !r.isTaken n).eraseDups := by
  by_cases h : ∃ n ∈ names, ¬ r.isTaken n = true
  · rw [resolve_of_unknown h, Except.error.injEq, and_iff_right h, eq_comm]
  · have hall : ∀ n ∈ names, r.isTaken n = true := by simpa using h
    rw [resolve_of_known hall]
    constructor
    · intro heq
      cases heq
    · intro hunknown
      exact absurd hunknown.1 h

/-! ### One pass -/

structure Scan where
  enabled : EnabledSet
  unknown : List String

/-- What a name adds: what it enables, or itself to the unknown names. -/
def scanStep (r : Registry κ) (s : Scan) (name : String) : Scan :=
  match r.group? name with
  | some members => { s with enabled := members.foldl EnabledSet.push s.enabled }
  | none =>
    if (r.collector? name).isSome then { s with enabled := s.enabled.push name }
    else if name ∈ s.unknown then s
    else { s with unknown := s.unknown ++ [name] }

/-- Resolving in one pass over the names. -/
def scan (r : Registry κ) (names : List String) : Except ConfigError EnabledSet :=
  let s := names.foldl r.scanStep ⟨.empty, []⟩
  match s.unknown with
  | [] => .ok s.enabled
  | unknown => .error (.unknownCollectors unknown)

theorem scanStep_eq (s : Scan) (n : String) :
    r.scanStep s n = ⟨r.enable s.enabled n,
      if (r.expand? n).isNone then (EnabledSet.push ⟨s.unknown⟩ n).names else s.unknown⟩ := by
  rw [scanStep, enable, expand?]
  cases r.group? n with
  | some members => rfl
  | none =>
    cases r.collector? n with
    | some registration => rfl
    | none =>
      by_cases hmem : n ∈ s.unknown
      · simp [hmem, EnabledSet.names_push]
      · simp [hmem, EnabledSet.names_push]

theorem foldl_scanStep (names : List String) (s : Scan) :
    names.foldl r.scanStep s = ⟨names.foldl r.enable s.enabled,
      ((names.filter fun n => (r.expand? n).isNone).foldl EnabledSet.push ⟨s.unknown⟩).names⟩ := by
  induction names generalizing s with
  | nil => rfl
  | cons n names ih =>
    rw [List.foldl_cons, List.foldl_cons, ih, scanStep_eq, List.filter_cons]
    split <;> rfl

theorem scan_eq (r : Registry κ) (names : List String) : r.scan names = r.resolve names := by
  rw [scan, foldl_scanStep, resolve, unknownNames]
  rfl

/-! ### Laws -/

/-- A name that asks for nothing new after the names of a list. -/
inductive Covered (r : Registry κ) (names : List String) : String → Prop where
  | repeated {n : String} (h : n ∈ names) : Covered r names n
  | member {n group : String} {members : List String} (hgroup : group ∈ names)
      (hmembers : r.group? group = some members) (hn : n ∈ members) : Covered r names n
  | group {n : String} {members : List String} (hmembers : r.group? n = some members)
      (h : ∀ m ∈ members, r.Requests names m) : Covered r names n

theorem mentions_append (r : Registry κ) (names others : List String) :
    r.mentions (names ++ others) = r.mentions names ++ r.mentions others := List.flatMap_append

theorem Covered.mentions_subset (hr : r.Sound) {n : String} (h : r.Covered names n) :
    ∀ x ∈ r.mentions [n], x ∈ r.mentions names := by
  rw [mentions, List.flatMap_singleton]
  cases h with
  | repeated hn => exact fun x hx => List.mem_flatMap.mpr ⟨n, hn, hx⟩
  | member hgroup hmembers hn =>
    have hg : r.group? n = none := (hr.disjoint n).resolve_left (hr.members hmembers n hn)
    intro x hx
    rw [hg, Option.getD_none, List.mem_singleton] at hx
    rw [hx]
    exact mem_mentions_of_requests hr (Or.inr ⟨_, hgroup, _, hmembers, hn⟩)
  | group hmembers hall =>
    intro x hx
    rw [hmembers, Option.getD_some] at hx
    exact mem_mentions_of_requests hr (hall x hx)

theorem Covered.mem_of_free (hr : r.Sound) {n : String} (h : r.Covered names n)
    (hfree : r.isTaken n = false) : n ∈ names := by
  cases h with
  | repeated hn => exact hn
  | member hgroup hmembers hn =>
    have htaken := isTaken_of_collector (hr.members hmembers n hn)
    rw [hfree] at htaken
    cases htaken
  | group hmembers hall =>
    rw [isTaken_of_group hmembers] at hfree
    cases hfree

theorem resolve_concat (hr : r.Sound) {n : String} (h : r.Covered names n) :
    r.resolve (names ++ [n]) = r.resolve names := by
  -- a name that is not known is covered only where it comes again
  have hunknown : ((names ++ [n]).filter fun n => !r.isTaken n).eraseDups =
      (names.filter fun n => !r.isTaken n).eraseDups := by
    rw [List.filter_append]
    refine eraseDups_append_of_subset fun x hx => ?_
    obtain ⟨hx, hfree⟩ := List.mem_filter.mp hx
    rw [List.mem_singleton] at hx
    subst hx
    exact List.mem_filter.mpr ⟨h.mem_of_free hr (by simpa using hfree), hfree⟩
  by_cases hall : ∀ m ∈ names, r.isTaken m = true
  · have hn : r.isTaken n = true := by
      by_contra hfree
      exact hfree (hall n (h.mem_of_free hr (by simpa using hfree)))
    have hall' : ∀ m ∈ names ++ [n], r.isTaken m = true :=
      List.forall_mem_append.mpr ⟨hall, List.forall_mem_singleton.mpr hn⟩
    rw [resolve_of_known hall, resolve_of_known hall', mentions_append,
      eraseDups_append_of_subset (h.mentions_subset hr)]
  · have hex : ∃ m ∈ names, ¬ r.isTaken m = true := by simpa using hall
    have hex' : ∃ m ∈ names ++ [n], ¬ r.isTaken m = true :=
      hex.imp fun m hm => ⟨List.mem_append_left _ hm.1, hm.2⟩
    rw [resolve_of_unknown hex, resolve_of_unknown hex', hunknown]

theorem mem_dependencies {e : EnabledSet} {object : String} :
    object ∈ r.dependencies e ↔
      ∃ n ∈ e.names, ∃ registration, r.collector? n = some registration ∧
        object ∈ registration.dependencies := by
  rw [dependencies, mem_ascending, List.mem_flatMap]
  refine exists_congr fun n => and_congr_right fun _ => ?_
  cases r.collector? n with
  | some registration => simp
  | none => simp

theorem dependencies_eq_ascending {e : EnabledSet} {objects : List String}
    (h : ∀ object, object ∈ r.dependencies e ↔ object ∈ objects) :
    r.dependencies e = ascending objects := by
  rw [dependencies]
  refine ascending_congr fun object => ?_
  rw [← h, dependencies, mem_ascending]

theorem dependencies_congr {e e' : EnabledSet} (h : ∀ n, n ∈ e.names ↔ n ∈ e'.names) :
    r.dependencies e = r.dependencies e' := by
  have hmem : ∀ object, object ∈ r.dependencies e ↔ object ∈ r.dependencies e' := by
    simp only [mem_dependencies, h, implies_true]
  rw [dependencies_eq_ascending hmem, ← dependencies_eq_ascending fun _ => Iff.rfl]

/-- What a resolved list of names has come to. -/
structure Resolution (r : Registry κ) (names : List String) (enabled : EnabledSet) : Prop where
  eq_eraseDups : enabled.names = (r.mentions names).eraseDups
  order : enabled.names.Pairwise fun x y => (r.mentions names).idxOf x < (r.mentions names).idxOf y
  nodup : enabled.names.Nodup
  mem_iff : ∀ x, x ∈ enabled.names ↔ r.Requests names x
  collectors : ∀ x ∈ enabled.names, r.collector? x ≠ none
  again : r.resolve enabled.names = .ok enabled
  permuted : ∀ others : List String, others.Perm names →
    ∃ enabled', r.resolve others = .ok enabled' ∧ enabled'.names.Perm enabled.names ∧
      r.dependencies enabled' = r.dependencies enabled
  union : ∀ others enabled', r.resolve others = .ok enabled' →
    ∃ both, r.resolve (names ++ others) = .ok both ∧
      r.dependencies both = ascending (r.dependencies enabled ++ r.dependencies enabled')

theorem resolve_names (hr : r.Sound) (h : r.resolve names = .ok enabled) :
    r.resolve enabled.names = .ok enabled := by
  have hcollectors := collector_of_resolve hr h
  refine resolve_ok_iff.mpr ⟨fun n hn => isTaken_of_collector (hcollectors n hn), ?_⟩
  rw [mentions_of_collectors hr hcollectors, eraseDups_of_nodup (nodup_of_resolve h)]

theorem resolve_perm (hp : others.Perm names) (h : r.resolve names = .ok enabled) :
    ∃ enabled', r.resolve others = .ok enabled' ∧ enabled'.names.Perm enabled.names ∧
      r.dependencies enabled' = r.dependencies enabled := by
  obtain ⟨hall, hnames⟩ := resolve_ok_iff.mp h
  have hres := resolve_of_known fun n hn => hall n (hp.mem_iff.mp hn)
  have hmem : ∀ x, x ∈ (r.mentions others).eraseDups ↔ x ∈ enabled.names := fun x => by
    rw [hnames, List.mem_eraseDups, List.mem_eraseDups, mentions, mentions,
      (hp.flatMap_right _).mem_iff]
  refine ⟨_, hres, ?_, dependencies_congr hmem⟩
  exact (List.perm_ext_iff_of_nodup (nodup_of_resolve hres) (nodup_of_resolve h)).mpr hmem

theorem resolve_union {enabled' : EnabledSet} (h : r.resolve names = .ok enabled)
    (h' : r.resolve others = .ok enabled') :
    ∃ both, r.resolve (names ++ others) = .ok both ∧
      r.dependencies both = ascending (r.dependencies enabled ++ r.dependencies enabled') := by
  obtain ⟨hall, hnames⟩ := resolve_ok_iff.mp h
  obtain ⟨hall', hnames'⟩ := resolve_ok_iff.mp h'
  refine ⟨_, resolve_of_known (List.forall_mem_append.mpr ⟨hall, hall'⟩), ?_⟩
  refine dependencies_eq_ascending fun object => ?_
  rw [List.mem_append, mem_dependencies, mem_dependencies, mem_dependencies, hnames, hnames']
  simp only [List.mem_eraseDups, mentions_append, List.mem_append, or_and_right, exists_or]

theorem resolution_of_resolve (hr : r.Sound) (h : r.resolve names = .ok enabled) :
    r.Resolution names enabled := by
  obtain ⟨hall, hnames⟩ := resolve_ok_iff.mp h
  exact {
    eq_eraseDups := hnames
    order := hnames ▸ pairwise_idxOf_eraseDups (r.mentions names)
    nodup := nodup_of_resolve h
    mem_iff := fun x => by rw [hnames, List.mem_eraseDups, mem_mentions hr hall]
    collectors := collector_of_resolve hr h
    again := resolve_names hr h
    permuted := fun _ hp => resolve_perm hp h
    union := fun _ _ h' => resolve_union h h' }

/-- For a registry that calls lead to and every list of names: resolving fails if and only if a name
is neither that of a collector nor that of a group, and the error then has just these names, each
once where it comes first.  Otherwise the set is that of the collectors which the names mention,
each once where it is mentioned first; it resolves to itself, names in another order give the same
collectors and dependencies, and the dependencies of two lists together are those of both.  A
covered name at the end of any list changes nothing, and one pass over the names is enough for all
of it. -/
theorem resolves_by_mention (hr : r.Reachable) (names : List String) :
    (∀ error, r.resolve names = .error error ↔
      (∃ n ∈ names, r.collector? n = none ∧ r.group? n = none) ∧
        error = .unknownCollectors (names.filter fun n => !r.isTaken n).eraseDups) ∧
    ((∃ enabled, r.resolve names = .ok enabled) ↔
      ∀ n ∈ names, r.collector? n ≠ none ∨ r.group? n ≠ none) ∧
    (∀ enabled, r.resolve names = .ok enabled → r.Resolution names enabled) ∧
    (∀ n, r.Covered names n → r.resolve (names ++ [n]) = r.resolve names) ∧
    r.scan names = r.resolve names := by
  have hsound := hr.sound
  have hfree : ∀ n, ¬ r.isTaken n = true ↔ r.collector? n = none ∧ r.group? n = none :=
    fun n => by simp [isTaken]
  refine ⟨fun error => ?_, ?_, fun _ => resolution_of_resolve hsound,
    fun _ => resolve_concat hsound, scan_eq r names⟩
  · simp only [← hfree]
    exact resolve_error_iff
  · have hknown : ∀ n, r.isTaken n = true ↔ r.collector? n ≠ none ∨ r.group? n ≠ none :=
      fun n => by rw [← not_and_or, ← hfree, not_not]
    simp only [← hknown]
    constructor
    · intro h
      obtain ⟨enabled, henabled⟩ := h
      exact (resolve_ok_iff.mp henabled).1
    · intro hall
      exact ⟨_, resolve_of_known hall⟩

/-- Two groups that overlap, after a third that was refused. -/
def overlapping : Registry Unit :=
  Registry.empty.afterAll
    [.register "cpu" () ["Processor", "System"], .register "memory" () ["Memory", "System"],
      .registerMeta "broken" ["cpu", "disk"], .register "net" () ["Network"],
      .registerMeta "[load]" ["memory", "cpu"], .registerMeta "[all]" ["cpu", "net", "memory"]]

theorem resolves_by_mention_overlapping :
    overlapping.Reachable ∧
    overlapping.resolve ["x", "[all]", "broken", "cpu", "x"] =
      .error (.unknownCollectors ["x", "broken"]) ∧
    overlapping.resolve ["net", "[load]", "net", "[all]"] = .ok ⟨["net", "memory", "cpu"]⟩ ∧
    overlapping.resolve (["net", "[load]"] ++ ["[all]"]) =
      overlapping.resolve ["net", "[load]"] ∧
    (∃ both, overlapping.resolve (["net"] ++ ["[load]"]) = .ok both ∧
      overlapping.dependencies both = ["Memory", "Network", "Processor", "System"]) ∧
    ∃ enabled', overlapping.resolve ["[load]", "net"] = .ok enabled' ∧
      enabled'.names.Perm ["net", "memory", "cpu"] := by
  have hr : overlapping.Reachable := Reachable.empty.afterAll _
  have hnet : overlapping.resolve ["net"] = .ok ⟨["net"]⟩ := by decide
  have hload : overlapping.resolve ["[load]"] = .ok ⟨["memory", "cpu"]⟩ := by decide
  have hboth : overlapping.resolve ["net", "[load]"] = .ok ⟨["net", "memory", "cpu"]⟩ := by decide
  obtain ⟨herror, -, -, -, -⟩ := resolves_by_mention hr ["x", "[all]", "broken", "cpu", "x"]
  obtain ⟨-, -, hlist, hcovered, -⟩ := resolves_by_mention hr ["net", "[load]"]
  obtain ⟨-, -, hone, -, -⟩ := resolves_by_mention hr ["net"]
  refine ⟨hr, (herror _).mpr ⟨⟨"x", by decide, by decide, by decide⟩, by decide⟩, by decide,
    hcovered "[all]" ?_, ?_, ?_⟩
  · have hmembers : overlapping.group? "[all]" = some ["cpu", "net", "memory"] := by decide
    have henabled : ∀ m ∈ ["cpu", "net", "memory"], m ∈ ["net", "memory", "cpu"] := by decide
    exact .group hmembers fun m hm => ((hlist _ hboth).mem_iff m).mp (henabled m hm)
  · obtain ⟨both, hres, hdependencies⟩ := (hone _ hnet).union _ _ hload
    exact ⟨both, hres, hdependencies.trans (by decide)⟩
  · obtain ⟨enabled', hres, hperm, -⟩ :=
      (hlist _ hboth).permuted ["[load]", "net"] (List.Perm.swap _ _ _)
    exact ⟨enabled', hres, hperm⟩

end Registry

end MetricScraper
