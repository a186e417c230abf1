import Mathlib.Data.List.Nodup
import Mathlib.Data.String.Basic
import MetricScraper.Proofs.Collector.Replication
import MetricScraper.Proofs.Registry.Growth

/-!
# Start-up

The built-in collectors are registered, the configured names are resolved, the objects that the
enabled collectors read are put together, and the collectors are built.  Three texts come in on the
way, one of them twice: the list of sources is read when file replication is registered and again
when it is built.  What is wrong with a text shows at the first stage that reads it, so once the
registry is there only the patterns of the network filter are left to fail.
-/

namespace MetricScraper

namespace Registry

variable {κ γ : Type} {r : Registry κ}

/-! ### Ascending lists -/

theorem mem_insertAscending {s x : String} {texts : List String} :
    x ∈ insertAscending s texts ↔ x = s ∨ x ∈ texts := by
  induction texts with
  | nil => simp [insertAscending]
  | cons t rest ih =>
    rw [insertAscending]
    split
    · exact List.mem_cons
    · split
      · rename_i heq
        rw [heq, List.mem_cons, or_self_left]
      · rw [List.mem_cons, ih, List.mem_cons, or_left_comm]

theorem mem_ascending {x : String} {texts : List String} : x ∈ ascending texts ↔ x ∈ texts := by
  induction texts with
  | nil => rfl
  | cons t rest ih =>
    rw [ascending] at ih
    rw [ascending, List.foldr_cons, mem_insertAscending, ih, List.mem_cons]

theorem pairwise_insertAscending (s : String) {texts : List String}
    (h : texts.Pairwise (· < ·)) : (insertAscending s texts).Pairwise (· < ·) := by
  induction texts with
  | nil => exact List.pairwise_singleton _ s
  | cons t rest ih =>
    obtain ⟨ht, hrest⟩ := List.pairwise_cons.mp h
    rw [insertAscending]
    split
    · rename_i hst
      refine List.pairwise_cons.mpr ⟨fun x hx => ?_, h⟩
      rcases List.mem_cons.mp hx with rfl | hx
      · exact hst
      · exact hst.trans (ht x hx)
    · rename_i hst
      split
      · exact h
      · rename_i hne
        refine List.pairwise_cons.mpr ⟨fun x hx => ?_, ih hrest⟩
        rcases mem_insertAscending.mp hx with rfl | hx
        · exact lt_of_le_of_ne (not_lt.mp hst) (Ne.symm hne)
        · exact ht x hx

theorem pairwise_ascending (texts : List String) : (ascending texts).Pairwise (· < ·) := by
  induction texts with
  | nil => exact .nil
  | cons t rest ih => exact pairwise_insertAscending t ih

/-! ### Building -/

theorem units_of_buildNames {construct : κ → Except ConfigError γ} {names : List String}
    {units : List (String × γ)} (h : r.buildNames construct names = .ok units) :
    units.map Prod.fst = names ∧
      ∀ unit ∈ units, ∃ registration, r.collector? unit.1 = some registration ∧
        construct registration.constructor = .ok unit.2 := by
  induction names generalizing units with
  | nil =>
    cases h
    exact ⟨rfl, fun unit hmem => absurd hmem List.not_mem_nil⟩
  | cons n names ih =>
    rw [buildNames] at h
    cases hc : r.collector? n with
    | none => simp [hc] at h
    | some registration =>
      cases hcon : construct registration.constructor with
      | error e => simp [hc, hcon] at h
      | ok c =>
        cases hrest : r.buildNames construct names with
        | error e => simp [hc, hcon, hrest, Except.map] at h
        | ok rest =>
          simp only [hc, hcon, hrest, Except.map, Except.ok.injEq] at h
          subst h
          obtain ⟨hnames, hunits⟩ := ih hrest
          refine ⟨congrArg (n :: ·) hnames, fun unit hmem => ?_⟩
          rcases List.mem_cons.mp hmem with rfl | hmem
          · exact ⟨registration, hc, hcon⟩
          · exact hunits unit hmem

/-! ### Resolving -/

theorem nodup_push {e : EnabledSet} (name : String) (h : e.names.Nodup) :
    (e.push name).names.Nodup := by
  rw [EnabledSet.push]
  split
  · exact h
  · rename_i hnew
    have hname : name ∉ e.names := by simpa [EnabledSet.contains] using hnew
    exact h.append (List.nodup_singleton name) (List.disjoint_singleton.mpr hname)

theorem nodup_foldl_push (names : List String) {e : EnabledSet} (h : e.names.Nodup) :
    (names.foldl EnabledSet.push e).names.Nodup :=
  List.foldlRecOn (motive := fun e => e.names.Nodup) names EnabledSet.push h
    fun _ he n _ => nodup_push n he

theorem nodup_foldl_enable (names : List String) {e : EnabledSet} (h : e.names.Nodup) :
    (names.foldl r.enable e).names.Nodup :=
  List.foldlRecOn (motive := fun e => e.names.Nodup) names r.enable h
    fun _ he _ _ => nodup_foldl_push _ he

theorem nodup_of_resolve {names : List String} {enabled : EnabledSet}
    (h : r.resolve names = .ok enabled) : enabled.names.Nodup := by
  obtain ⟨-, rfl⟩ := resolve_eq_ok_iff.mp h
  exact nodup_foldl_enable names List.nodup_nil

end Registry

namespace Builtin

open Replication (FailsAt Source)

/-! ### Registration -/

/-- The registry of the built-in collectors, where file replication reads some objects. -/
def registryOf (objects : List String) : Registry Builtin where
  collectors := [(network.name, ⟨network, []⟩), (replication.name, ⟨replication, objects⟩),
    (diskStatus.name, ⟨diskStatus, []⟩), (containers.name, ⟨containers, []⟩)]
  groups := [(defaults, [network.name, replication.name, diskStatus.name, containers.name])]

theorem registry_eq (s : Settings) : registry s = (replicationObjects s).map registryOf := by
  rw [registry]
  cases replicationObjects s with
  | error e => rfl
  | ok objects => rfl

theorem name_injective {b b' : Builtin} (h : b.name = b'.name) : b = b' := by
  cases b <;> cases b' <;> first | rfl | (revert h; decide)

/-- What a built-in collector reads when file replication reads some objects. -/
def dependencies (objects : List String) : Builtin → List String
  | replication => objects
  | _ => []

theorem collector?_registryOf {objects : List String} {n : String}
    {registration : Registration Builtin} :
    (registryOf objects).collector? n = some registration ↔
      ∃ b : Builtin, b.name = n ∧ registration = ⟨b, b.dependencies objects⟩ := by
  constructor
  · intro h
    obtain ⟨before, after, hentries, -⟩ := List.lookup_eq_some_iff.mp h
    have hmem : (n, registration) ∈ (registryOf objects).collectors := by
      rw [hentries]
      exact List.mem_append_right before List.mem_cons_self
    simp only [registryOf, List.mem_cons, Prod.mk.injEq, List.not_mem_nil, or_false] at hmem
    rcases hmem with ⟨rfl, rfl⟩ | ⟨rfl, rfl⟩ | ⟨rfl, rfl⟩ | ⟨rfl, rfl⟩ <;> exact ⟨_, rfl, rfl⟩
  · rintro ⟨b, rfl, rfl⟩
    cases b <;> rfl

/-! ### The sources, read twice -/

theorem sourcesFrom_of_failsAt {names : List String} {unknown : String}
    (h : FailsAt names unknown) (acc : List Source) :
    Replication.sourcesFrom acc names = .error unknown := by
  obtain ⟨before, after, rfl, hknown, hno⟩ := h
  induction before generalizing acc with
  | nil =>
    have hnone : Source.ofName? unknown = none :=
      List.find?_eq_none.mpr fun source _ => by simpa using hno source
    rw [List.nil_append, Replication.sourcesFrom, hnone]
  | cons n before ih =>
    obtain ⟨source, rfl⟩ := hknown n List.mem_cons_self
    have hsome : Source.ofName? source.name = some source := by cases source <;> rfl
    rw [List.cons_append, Replication.sourcesFrom, hsome]
    exact ih _ fun m hm => hknown m (List.mem_cons_of_mem _ hm)

/-- The list of sources is refused at its first entry that is no source, and else the sources are
those that it names. -/
theorem sources_cases (s : Settings) :
    (∃ unknown, FailsAt (Text.parseCommaList s.replicationSources) unknown ∧
      sources s = .error (.unknownReplicationSource unknown)) ∨
    ∃ ss, sources s = .ok ss ∧
      ∀ source : Source, source ∈ ss ↔ source.name ∈ Text.parseCommaList s.replicationSources := by
  rcases Replication.sourcesOfList_cases s.replicationSources with ⟨unknown, hfails, herr⟩ |
    ⟨ss, hok, hnames⟩
  · exact Or.inl ⟨unknown, hfails, by rw [sources, herr]⟩
  · refine Or.inr ⟨ss, by rw [sources, hok], fun source => ?_⟩
    have hmem : source.name ∈ ss.map Source.name ↔
        source.name ∈ Text.parseCommaList s.replicationSources := by
      rw [hnames, List.mem_eraseDups]
    rw [← hmem, List.mem_map]
    constructor
    · exact fun h => ⟨source, h, rfl⟩
    · rintro ⟨other, h, hname⟩
      exact Source.name_injective hname ▸ h

theorem registry_eq_error_iff (s : Settings) (error : ConfigError) :
    registry s = .error error ↔
      ∃ unknown, FailsAt (Text.parseCommaList s.replicationSources) unknown ∧
        error = .unknownReplicationSource unknown := by
  rw [registry_eq, replicationObjects]
  constructor
  · intro h
    rcases sources_cases s with ⟨unknown, hfails, herr⟩ | ⟨ss, hok, -⟩
    · rw [herr] at h
      cases h
      exact ⟨unknown, hfails, rfl⟩
    · rw [hok] at h
      cases h
  · rintro ⟨unknown, hfails, rfl⟩
    rw [sources, Replication.sourcesOfList, sourcesFrom_of_failsAt hfails]
    rfl

theorem exists_failsAt_iff {names : List String} :
    (∃ unknown, FailsAt names unknown) ↔ ∃ n ∈ names, ∀ source : Source, source.name ≠ n := by
  constructor
  · rintro ⟨unknown, before, after, rfl, -, hno⟩
    exact ⟨unknown, List.mem_append_right before List.mem_cons_self, hno⟩
  · rintro ⟨n, hn, hno⟩
    rcases Replication.sourcesFrom_cases [] names with ⟨unknown, hfails, -⟩ | ⟨ss, -, hnames⟩
    · exact ⟨unknown, hfails⟩
    · -- every name is that of a source that has been read
      have hmem : n ∈ ss.map Source.name := by
        rw [hnames, List.map_nil, List.nil_append, Replication.fresh_nil, List.mem_eraseDups]
        exact hn
      obtain ⟨source, -, hname⟩ := List.mem_map.mp hmem
      exact absurd hname (hno source)

theorem registry_eq_ok {s : Settings} {r : Registry Builtin} (h : registry s = .ok r) :
    ∃ ss, sources s = .ok ss ∧ r = registryOf (ss.map Source.object) ∧
      ∀ source : Source, source ∈ ss ↔ source.name ∈ Text.parseCommaList s.replicationSources := by
  rw [registry_eq, replicationObjects] at h
  rcases sources_cases s with ⟨unknown, -, herr⟩ | ⟨ss, hok, hss⟩
  · rw [herr] at h
    cases h
  · rw [hok] at h
    cases h
    exact ⟨ss, hok, rfl, hss⟩

/-! ### What is left to fail -/

/-- What is wrong with the patterns of the network filter, if anything is: the first one that does
not compile between the start and the end of a text. -/
inductive Refuses (s : Settings) : ConfigError → Prop where
  | whitelist (h : Pattern.compile? (Pattern.anchored s.nicWhitelist) = none) :
      Refuses s (.invalidPattern .whitelist s.nicWhitelist)
  | blacklist (hw : Pattern.compile? (Pattern.anchored s.nicWhitelist) ≠ none)
      (h : Pattern.compile? (Pattern.anchored s.nicBlacklist) = none) :
      Refuses s (.invalidPattern .blacklist s.nicBlacklist)

theorem filter_eq_error_iff (s : Settings) (error : ConfigError) :
    filter s = .error error ↔ Refuses s error := by
  rw [filter, InstanceFilter.ofPatterns]
  cases hw : Pattern.compile? (Pattern.anchored s.nicWhitelist) with
  | none =>
    constructor
    · intro h
      cases h
      exact .whitelist hw
    · intro h
      cases h with
      | whitelist h => rfl
      | blacklist hw' h => exact absurd hw hw'
  | some w =>
    cases hb : Pattern.compile? (Pattern.anchored s.nicBlacklist) with
    | none =>
      constructor
      · intro h
        cases h
        exact .blacklist (by simp [hw]) hb
      · intro h
        cases h with
        | whitelist h => simp [hw] at h
        | blacklist hw' h => rfl
    | some b =>
      constructor
      · intro h
        cases h
      · intro h
        cases h with
        | whitelist h => simp [hw] at h
        | blacklist hw' h => simp [hb] at h

theorem exists_refuses_iff (s : Settings) :
    (∃ error, Refuses s error) ↔
      Pattern.compile? (Pattern.anchored s.nicWhitelist) = none ∨
        Pattern.compile? (Pattern.anchored s.nicBlacklist) = none := by
  constructor
  · rintro ⟨error, h⟩
    cases h with
    | whitelist h => exact Or.inl h
    | blacklist hw h => exact Or.inr h
  · intro h
    by_cases hw : Pattern.compile? (Pattern.anchored s.nicWhitelist) = none
    · exact ⟨_, .whitelist hw⟩
    · exact ⟨_, .blacklist hw (h.resolve_left hw)⟩

/-- Once the sources can be read, a built-in collector fails for the network filter only. -/
theorem build_eq_error_iff {s : Settings} {ss : List Source} (hss : sources s = .ok ss)
    (b : Builtin) (error : ConfigError) :
    b.build s = .error error ↔ b = network ∧ Refuses s error := by
  rw [← filter_eq_error_iff]
  cases b with
  | network => cases h : filter s <;> simp [build, h, Except.map]
  | replication => simp [build, hss, Except.map]
  | diskStatus => simp [build]
  | containers => simp [build]

/-! ### All stages -/

/-- The objects of the sources are read if file replication is enabled, and no others. -/
theorem mem_dependencies {ss : List Source} {enabled : EnabledSet} {object : String} :
    object ∈ (registryOf (ss.map Source.object)).dependencies enabled ↔
      replication.name ∈ enabled.names ∧ ∃ source ∈ ss, source.object = object := by
  rw [Registry.dependencies, Registry.mem_ascending, List.mem_flatMap, ← List.mem_map]
  constructor
  · rintro ⟨n, hn, hobject⟩
    split at hobject
    · rename_i registration hc
      obtain ⟨b, rfl, rfl⟩ := collector?_registryOf.mp hc
      cases b with
      | replication => exact ⟨hn, hobject⟩
      | _ => exact absurd hobject List.not_mem_nil
    · exact absurd hobject List.not_mem_nil
  · rintro ⟨hn, hobject⟩
    refine ⟨replication.name, hn, ?_⟩
    rw [collector?_registryOf.mpr ⟨replication, rfl, rfl⟩]
    exact hobject

/-- What enabled collectors of a registry read and come to, as the settings say. -/
structure Starts (s : Settings) (r : Registry Builtin) (enabled : EnabledSet) : Prop where
  objects : ∀ object, object ∈ r.dependencies enabled ↔
    replication.name ∈ enabled.names ∧
      ∃ source : Source, source.name ∈ Text.parseCommaList s.replicationSources ∧
        source.object = object
  ascending : (r.dependencies enabled).Pairwise (· < ·)
  refused : ∀ error, r.build (build s) enabled = .error error ↔
    network.name ∈ enabled.names ∧ Refuses s error
  built : ¬ (network.name ∈ enabled.names ∧
      (Pattern.compile? (Pattern.anchored s.nicWhitelist) = none ∨
        Pattern.compile? (Pattern.anchored s.nicBlacklist) = none)) →
    ∃ units, r.build (build s) enabled = .ok units ∧ units.map Prod.fst = enabled.names ∧
      ∀ unit ∈ units, ∃ b : Builtin, b.name = unit.1 ∧ b.build s = .ok unit.2

theorem builds_of_ok {s : Settings} {objects : List String} {enabled : EnabledSet}
    {units : List (String × Collector)}
    (h : (registryOf objects).build (build s) enabled = .ok units) :
    units.map Prod.fst = enabled.names ∧
      ∀ unit ∈ units, ∃ b : Builtin, b.name = unit.1 ∧ b.build s = .ok unit.2 := by
  obtain ⟨hnames, hunits⟩ := Registry.units_of_buildNames h
  refine ⟨hnames, fun unit hunit => ?_⟩
  obtain ⟨registration, hc, hbuild⟩ := hunits unit hunit
  obtain ⟨b, hb, rfl⟩ := collector?_registryOf.mp hc
  exact ⟨b, hb, hbuild⟩

theorem build_enabled_eq_error_iff {s : Settings} {ss : List Source} {enabled : EnabledSet}
    (hss : sources s = .ok ss)
    (hall : ∀ n ∈ enabled.names, (registryOf (ss.map Source.object)).collector? n ≠ none)
    (error : ConfigError) :
    (registryOf (ss.map Source.object)).build (build s) enabled = .error error ↔
      network.name ∈ enabled.names ∧ Refuses s error := by
  have hforward {e : ConfigError}
      (h : (registryOf (ss.map Source.object)).build (build s) enabled = .error e) :
      network.name ∈ enabled.names ∧ Refuses s e := by
    obtain ⟨n, hn, registration, hc, hbuild⟩ := Registry.error_of_buildNames hall h
    obtain ⟨b, rfl, rfl⟩ := collector?_registryOf.mp hc
    obtain ⟨rfl, hrefuses⟩ := (build_eq_error_iff hss b e).mp hbuild
    exact ⟨hn, hrefuses⟩
  refine ⟨hforward, ?_⟩
  rintro ⟨hn, hrefuses⟩
  have herror := (build_eq_error_iff hss network error).mpr ⟨rfl, hrefuses⟩
  cases hbuild : (registryOf (ss.map Source.object)).build (build s) enabled with
  | error e =>
    -- the filter is refused for one thing only
    have he := (build_eq_error_iff hss network e).mpr ⟨rfl, (hforward hbuild).2⟩
    exact congrArg Except.error (Except.error.inj (he.symm.trans herror))
  | ok units =>
    obtain ⟨hnames, hunits⟩ := builds_of_ok hbuild
    rw [← hnames] at hn
    obtain ⟨unit, hunit, hname⟩ := List.mem_map.mp hn
    obtain ⟨b, hb, hok⟩ := hunits unit hunit
    rw [name_injective (hb.trans hname), herror] at hok
    cases hok

/-- For all settings, the built-in collectors are registered unless an entry of the list of sources
is no source, whatever is enabled; then the first such entry is the error, and there is no other.
Of names that a registry resolves the enabled collectors read the objects of the listed sources if
file replication is one of them, and nothing else, and they are built under their names and in
their order, unless the network collector is one of them and a pattern of its filter does not
compile between the start and the end of a text. -/
theorem starts_or_refuses (s : Settings) :
    (∀ error, registry s = .error error ↔
      ∃ unknown, FailsAt (Text.parseCommaList s.replicationSources) unknown ∧
        error = .unknownReplicationSource unknown) ∧
    ((∃ error, registry s = .error error) ↔
      ∃ n ∈ Text.parseCommaList s.replicationSources, ∀ source : Source, source.name ≠ n) ∧
    ∀ r names enabled, registry s = .ok r → r.resolve names = .ok enabled →
      Starts s r enabled := by
  refine ⟨registry_eq_error_iff s, ?_, fun r names enabled hr hres => ?_⟩
  · simp only [registry_eq_error_iff, ← exists_failsAt_iff]
    exact ⟨fun ⟨_, unknown, hfails, _⟩ => ⟨unknown, hfails⟩,
      fun ⟨unknown, hfails⟩ => ⟨_, unknown, hfails, rfl⟩⟩
  · have hall := Registry.collector_of_resolve (reachable_of_registry hr).sound hres
    obtain ⟨ss, hss, rfl, hmem⟩ := registry_eq_ok hr
    have herror := build_enabled_eq_error_iff hss hall
    refine ⟨fun object => ?_, Registry.pairwise_ascending _, herror, fun hcompile => ?_⟩
    · rw [mem_dependencies]
      simp only [hmem]
    · cases hbuild : (registryOf (ss.map Source.object)).build (build s) enabled with
      | ok units => exact ⟨units, rfl, builds_of_ok hbuild⟩
      | error e =>
        obtain ⟨hn, hrefuses⟩ := (herror e).mp hbuild
        exact absurd ⟨hn, (exists_refuses_iff s).mp ⟨e, hrefuses⟩⟩ hcompile

/-- A list of sources that is in order, next to a pattern that is none. -/
def openSettings : Settings :=
  { Settings.standard with
    nicWhitelist := "eth", nicBlacklist := "(", replicationSources := "volume,,volume" }

theorem starts_or_refuses_open :
    ∃ r, registry openSettings = .ok r ∧
      r.resolve ["net", "[defaults]"] = .ok ⟨["net", "dfsr", "smart", "container"]⟩ ∧
      r.build (build openSettings) ⟨["net", "dfsr", "smart", "container"]⟩ =
        .error (.invalidPattern .blacklist "(") ∧
      r.resolve ["dfsr"] = .ok ⟨["dfsr"]⟩ ∧
      (∀ object, object ∈ r.dependencies ⟨["dfsr"]⟩ ↔
        object = "DFS Replication Service Volumes") ∧
      ∃ units, r.build (build openSettings) ⟨["dfsr"]⟩ = .ok units ∧
        units.map Prod.fst = ["dfsr"] := by
  obtain ⟨r, hr⟩ : ∃ r, registry openSettings = .ok r := ⟨_, rfl⟩
  have hall : r.resolve ["net", "[defaults]"] = .ok ⟨["net", "dfsr", "smart", "container"]⟩ := by
    cases hr
    decide
  have hone : r.resolve ["dfsr"] = .ok ⟨["dfsr"]⟩ := by
    cases hr
    decide
  obtain ⟨-, -, hstarts⟩ := starts_or_refuses openSettings
  have hwhite : (Pattern.compile? (Pattern.anchored "eth")).isSome = true := by decide +kernel
  have hblack : Pattern.compile? (Pattern.anchored "(") = none := by decide +kernel
  obtain ⟨hobjects, -, -, hbuilt⟩ := hstarts r _ _ hr hone
  obtain ⟨units, hunits, hnames, -⟩ := hbuilt fun h => absurd h.1 (by decide)
  refine ⟨r, hr, hall, ((hstarts r _ _ hr hall).refused _).mpr ⟨by decide, ?_⟩, hone, ?_, units,
    hunits, hnames⟩
  · exact .blacklist (Option.isSome_iff_ne_none.mp hwhite) hblack
  · intro object
    rw [hobjects]
    have hlist : Text.parseCommaList openSettings.replicationSources = ["volume", "volume"] := by
      decide
    rw [hlist]
    constructor
    · rintro ⟨-, source, hname, rfl⟩
      revert hname
      cases source <;> decide
    · rintro rfl
      exact ⟨by decide, .volume, by decide, rfl⟩

end Builtin

end MetricScraper
