import Mathlib.Data.List.Basic
import MetricScraper.Proofs.Results
import MetricScraper.Registry.Builtin

/-!
# Registries grow

Every call adds at most one name, and only a name that is free.  So no name stands for two things,
groups are made of registered collectors, and what a list of names stands for at some time it
stands for ever after.
-/

namespace MetricScraper

/-! ### Enabled sets -/

namespace EnabledSet

variable {e : EnabledSet} {name : String}

theorem mem_push {x : String} : x ∈ (e.push name).names ↔ x ∈ e.names ∨ x = name := by
  unfold push
  split
  · rename_i h
    have hmem : name ∈ e.names := by simpa [contains] using h
    constructor
    · exact Or.inl
    · rintro (hx | rfl)
      · exact hx
      · exact hmem
  · rw [List.mem_append, List.mem_singleton]

theorem mem_foldl_push {x : String} (names : List String) (e : EnabledSet) :
    x ∈ (names.foldl push e).names ↔ x ∈ e.names ∨ x ∈ names := by
  induction names generalizing e with
  | nil => simp
  | cons n names ih => rw [List.foldl_cons, ih, mem_push, List.mem_cons, or_assoc]

end EnabledSet

namespace Registry

variable {κ γ : Type} {r r' : Registry κ}

/-! ### Calls -/

/-- A call that registers a collector or a group. -/
inductive Call (κ : Type) where
  | register (name : String) (constructor : κ) (dependencies : List String)
  | registerMeta (name : String) (members : List String)

/-- What comes of a call. -/
def call (r : Registry κ) : Call κ → Except ConfigError (Registry κ)
  | .register name constructor dependencies => r.register name constructor dependencies
  | .registerMeta name members => r.registerMeta name members

/-- A call that is made in place, on a registry that is there whether the call fails or not. -/
def Call.perform : Call κ → ExceptT ConfigError (StateM (Registry κ)) Unit
  | .register name constructor dependencies => do
    if (← get).isTaken name then throw (.duplicateCollector name)
    modify fun r => { r with collectors := r.collectors ++ [(name, ⟨constructor, dependencies⟩)] }
  | .registerMeta name members => do
    if (← get).isTaken name then throw (.duplicateCollector name)
    let r ← get
    if let some member := members.find? fun m => (r.collector? m).isNone then
      throw (.invalidMeta name member)
    modify fun r => { r with groups := r.groups ++ [(name, members)] }

/-- What a call in place comes to, and the registry that it leaves. -/
def Call.run (c : Call κ) (r : Registry κ) : Except ConfigError Unit × Registry κ :=
  StateT.run (ExceptT.run c.perform) r

theorem run_get_bind (r : Registry κ)
    (f : Registry κ → ExceptT ConfigError (StateM (Registry κ)) Unit) :
    StateT.run (ExceptT.run (get >>= f)) r = StateT.run (ExceptT.run (f r)) r := rfl

/-- A call in place leaves what the call comes to, or everything as it was. -/
theorem run_eq (r : Registry κ) (c : Call κ) :
    c.run r =
      match r.call c with
      | .ok r' => (.ok (), r')
      | .error error => (.error error, r) := by
  cases c with
  | register name constructor dependencies =>
    rw [Call.run, Call.perform, run_get_bind, call, register]
    by_cases h : r.isTaken name = true
    · rw [if_pos h, if_pos h]
      rfl
    · rw [if_neg h, if_neg h]
      rfl
  | registerMeta name members =>
    rw [Call.run, Call.perform, run_get_bind, call, registerMeta]
    by_cases h : r.isTaken name = true
    · rw [if_pos h, if_pos h]
      rfl
    · rw [if_neg h, if_neg h, run_get_bind]
      cases members.find? fun m => (r.collector? m).isNone with
      | some member => rfl
      | none => rfl

/-- The registry after a call, which may have failed. -/
def after (r : Registry κ) (c : Call κ) : Registry κ := (c.run r).2

theorem after_of_ok {c : Call κ} (h : r.call c = .ok r') : r.after c = r' := by
  rw [after, run_eq, h]

theorem run_of_error {c : Call κ} {error : ConfigError} (h : r.call c = .error error) :
    c.run r = (.error error, r) := by
  rw [run_eq, h]

/-- The registry after several calls. -/
def afterAll (r : Registry κ) (calls : List (Call κ)) : Registry κ := calls.foldl after r

/-- The registries that calls lead to from the empty one, some of which may have failed. -/
inductive Reachable : Registry κ → Prop where
  | empty : Reachable .empty
  | call {r : Registry κ} (c : Call κ) (h : Reachable r) : Reachable (r.after c)

theorem Reachable.afterAll (h : r.Reachable) (calls : List (Call κ)) :
    (r.afterAll calls).Reachable := by
  induction calls generalizing r with
  | nil => exact h
  | cons c calls ih => exact ih (.call c h)

theorem Reachable.of_call (h : r.Reachable) {c : Call κ} (hc : r.call c = .ok r') :
    r'.Reachable :=
  after_of_ok hc ▸ .call c h

/-- What a call does: it fails, or adds something under a name that is free. -/
inductive Added (r : Registry κ) : Registry κ → Prop where
  | nothing : Added r r
  | collector {name : String} (registration : Registration κ) (hc : r.collector? name = none)
      (hg : r.group? name = none) :
      Added r { r with collectors := r.collectors ++ [(name, registration)] }
  | group {name : String} {members : List String} (hc : r.collector? name = none)
      (hg : r.group? name = none) (hm : ∀ m ∈ members, r.collector? m ≠ none) :
      Added r { r with groups := r.groups ++ [(name, members)] }

theorem not_taken {name : String} (h : ¬ r.isTaken name = true) :
    r.collector? name = none ∧ r.group? name = none := by
  simpa [isTaken] using h

theorem added_of_call {c : Call κ} (h : r.call c = .ok r') : r.Added r' := by
  cases c with
  | register name constructor dependencies =>
    rw [call, register] at h
    split at h
    · cases h
    · rename_i hfree
      cases h
      obtain ⟨hc, hg⟩ := not_taken hfree
      exact .collector _ hc hg
  | registerMeta name members =>
    rw [call, registerMeta] at h
    split at h
    · cases h
    · rename_i hfree
      split at h
      · cases h
      · rename_i hfind
        cases h
        obtain ⟨hc, hg⟩ := not_taken hfree
        refine .group hc hg ?_
        intro m hm
        simpa [Option.isNone_iff_eq_none] using List.find?_eq_none.mp hfind m hm

theorem added_after (r : Registry κ) (c : Call κ) : r.Added (r.after c) := by
  cases h : r.call c with
  | ok r' => exact after_of_ok h ▸ added_of_call h
  | error error =>
    rw [after, run_of_error h]
    exact .nothing

/-! ### Looking up -/

theorem lookup_concat {α : Type} (l : List (String × α)) (name other : String) (x : α) :
    (l ++ [(name, x)]).lookup other =
      (l.lookup other).or (if other = name then some x else none) := by
  rw [List.lookup_append]
  congr 1
  by_cases h : other = name
  · simp [h]
  · have hne : (other == name) = false := beq_eq_false_iff_ne.mpr h
    simp [List.lookup_cons, hne, h]

/-- A registry that has everything that another one has. -/
structure Extends (r r' : Registry κ) : Prop where
  collectors : ∀ {name : String} {registration : Registration κ},
    r.collector? name = some registration → r'.collector? name = some registration
  groups : ∀ {name : String} {members : List String},
    r.group? name = some members → r'.group? name = some members

theorem Extends.trans {r'' : Registry κ} (h : r.Extends r') (h' : r'.Extends r'') :
    r.Extends r'' :=
  ⟨fun hc => h'.collectors (h.collectors hc), fun hg => h'.groups (h.groups hg)⟩

theorem Added.extends (h : r.Added r') : r.Extends r' := by
  cases h with
  | nothing => exact ⟨id, id⟩
  | collector registration hc hg =>
    refine ⟨fun hold => ?_, id⟩
    rw [collector?] at hold
    rw [collector?, lookup_concat, hold, Option.some_or]
  | group hc hg hm =>
    refine ⟨id, fun hold => ?_⟩
    rw [group?] at hold
    rw [group?, lookup_concat, hold, Option.some_or]

theorem extends_afterAll (r : Registry κ) (calls : List (Call κ)) :
    r.Extends (r.afterAll calls) := by
  induction calls generalizing r with
  | nil => exact ⟨id, id⟩
  | cons c calls ih => exact (added_after r c).extends.trans (ih (r.after c))

/-! ### What holds of every registry -/

/-- No name stands for two things, and groups are made of collectors. -/
structure Sound (r : Registry κ) : Prop where
  disjoint : ∀ name, r.collector? name = none ∨ r.group? name = none
  members : ∀ {name : String} {members : List String}, r.group? name = some members →
    ∀ m ∈ members, r.collector? m ≠ none

theorem Added.sound (h : r.Added r') (hr : r.Sound) : r'.Sound := by
  have hextends := h.extends
  have hkeep : ∀ {m : String}, r.collector? m ≠ none → r'.collector? m ≠ none := by
    intro m hm
    obtain ⟨registration, hm⟩ := Option.ne_none_iff_exists'.mp hm
    simp [hextends.collectors hm]
  cases h with
  | nothing => exact hr
  | @collector name registration hc hg =>
    refine ⟨fun other => ?_, fun hgroup m hm => hkeep (hr.members hgroup m hm)⟩
    by_cases hother : other = name
    · exact Or.inr (hother ▸ hg)
    · rcases hr.disjoint other with hfree | hfree
      · refine Or.inl ?_
        rw [collector?] at hfree
        rw [collector?, lookup_concat, hfree, if_neg hother, Option.none_or]
      · exact Or.inr hfree
  | @group name members hc hg hm =>
    have hnew : ∀ {other : String}, other ≠ name →
        ({ r with groups := r.groups ++ [(name, members)] } : Registry κ).group? other =
          r.group? other := by
      intro other hother
      rw [group?, lookup_concat, if_neg hother, Option.or_none, group?]
    refine ⟨fun other => ?_, fun {other members'} hgroup m hmem => ?_⟩
    · by_cases hother : other = name
      · exact Or.inl (hother ▸ hc)
      · exact (hr.disjoint other).imp_right fun hfree => (hnew hother).trans hfree
    · by_cases hother : other = name
      · subst hother
        rw [group?] at hg
        rw [group?, lookup_concat, hg, if_pos rfl, Option.none_or, Option.some.injEq] at hgroup
        exact hm m (hgroup ▸ hmem)
      · exact hr.members ((hnew hother).symm.trans hgroup) m hmem

theorem Reachable.sound (h : r.Reachable) : r.Sound := by
  induction h with
  | empty => exact ⟨fun _ => Or.inl rfl, fun hgroup => by cases hgroup⟩
  | call c _ ih => exact (added_after _ c).sound ih

/-! ### Resolving -/

theorem expand?_of_extends (h : r.Extends r') (hr' : r'.Sound) {name : String}
    {members : List String} (hm : r.expand? name = some members) :
    r'.expand? name = some members := by
  rw [expand?] at hm ⊢
  cases hg : r.group? name with
  | some ms =>
    rw [hg] at hm
    rw [h.groups hg]
    exact hm
  | none =>
    rw [hg] at hm
    obtain ⟨registration, hc⟩ : ∃ registration, r.collector? name = some registration := by
      cases hc : r.collector? name with
      | some registration => exact ⟨registration, rfl⟩
      | none => simp [hc] at hm
    -- the name is a collector, and can be no group later on
    have hc' := h.collectors hc
    have hg' : r'.group? name = none := (hr'.disjoint name).resolve_left (by simp [hc'])
    simp only [hc, Option.isSome_some, if_true] at hm
    simp [hg', hc', ← hm]

theorem collector_of_expand? (hr : r.Sound) {name : String} {members : List String}
    (hm : r.expand? name = some members) : ∀ m ∈ members, r.collector? m ≠ none := by
  rw [expand?] at hm
  split at hm
  · rename_i ms hg
    cases hm
    exact hr.members hg
  · split at hm
    · rename_i hc
      cases hm
      intro m hmem
      rw [List.mem_singleton.mp hmem]
      exact Option.isSome_iff_ne_none.mp hc
    · cases hm

theorem unknownNames_eq_nil {names : List String} :
    r.unknownNames names = [] ↔ ∀ n ∈ names, r.expand? n ≠ none := by
  rw [unknownNames, List.eq_nil_iff_forall_not_mem]
  simp only [EnabledSet.mem_foldl_push, EnabledSet.empty, List.mem_filter, List.not_mem_nil,
    false_or, Option.isNone_iff_eq_none, not_and, ne_eq]

theorem resolve_eq_ok_iff {names : List String} {enabled : EnabledSet} :
    r.resolve names = .ok enabled ↔
      (∀ n ∈ names, r.expand? n ≠ none) ∧ names.foldl r.enable .empty = enabled := by
  rw [← unknownNames_eq_nil, resolve]
  split
  · rename_i hnil
    simp [hnil]
  · rename_i unknown hne
    constructor
    · intro herr
      cases herr
    · rintro ⟨hnil, -⟩
      exact absurd hnil hne

theorem foldl_enable_congr {names : List String} (e : EnabledSet)
    (h : ∀ n ∈ names, r'.expand? n = r.expand? n) :
    names.foldl r'.enable e = names.foldl r.enable e := by
  induction names generalizing e with
  | nil => rfl
  | cons n names ih =>
    have hn : r'.enable e n = r.enable e n := by rw [enable, enable, h n List.mem_cons_self]
    rw [List.foldl_cons, List.foldl_cons, hn]
    exact ih _ fun m hm => h m (List.mem_cons_of_mem _ hm)

theorem mem_foldl_enable {names : List String} {e : EnabledSet} {x : String}
    (h : x ∈ (names.foldl r.enable e).names) :
    x ∈ e.names ∨ ∃ n ∈ names, ∃ members, r.expand? n = some members ∧ x ∈ members := by
  induction names generalizing e with
  | nil => exact Or.inl h
  | cons n names ih =>
    rcases ih h with hx | ⟨n', hn', members, hm, hx⟩
    · rw [enable, EnabledSet.mem_foldl_push] at hx
      refine hx.imp_right fun hx => ?_
      cases hm : r.expand? n with
      | none => simp [hm] at hx
      | some members => exact ⟨n, List.mem_cons_self, members, hm, by simpa [hm] using hx⟩
    · exact Or.inr ⟨n', List.mem_cons_of_mem _ hn', members, hm, hx⟩

/-- Only collectors are enabled. -/
theorem collector_of_resolve (hr : r.Sound) {names : List String} {enabled : EnabledSet}
    (h : r.resolve names = .ok enabled) : ∀ n ∈ enabled.names, r.collector? n ≠ none := by
  intro n hn
  obtain ⟨-, rfl⟩ := resolve_eq_ok_iff.mp h
  rcases mem_foldl_enable hn with hn | ⟨name, -, members, hm, hn⟩
  · cases hn
  · exact collector_of_expand? hr hm n hn

theorem resolve_of_extends (h : r.Extends r') (hr' : r'.Sound) {names : List String}
    {enabled : EnabledSet} (hres : r.resolve names = .ok enabled) :
    r'.resolve names = .ok enabled := by
  obtain ⟨hall, rfl⟩ := resolve_eq_ok_iff.mp hres
  have hsame : ∀ n ∈ names, r'.expand? n = r.expand? n := by
    intro n hn
    obtain ⟨members, hm⟩ := Option.ne_none_iff_exists'.mp (hall n hn)
    rw [expand?_of_extends h hr' hm, hm]
  refine resolve_eq_ok_iff.mpr ⟨fun n hn => hsame n hn ▸ hall n hn, ?_⟩
  exact foldl_enable_congr .empty hsame

/-! ### Dependencies and building -/

theorem dependencies_of_extends (h : r.Extends r') {enabled : EnabledSet}
    (hall : ∀ n ∈ enabled.names, r.collector? n ≠ none) :
    r'.dependencies enabled = r.dependencies enabled := by
  rw [dependencies, dependencies]
  congr 1
  refine List.flatMap_congr fun n hn => ?_
  obtain ⟨registration, hc⟩ := Option.ne_none_iff_exists'.mp (hall n hn)
  rw [hc, h.collectors hc]

/-- Collectors that are registered are built, up to the first whose constructor fails. -/
theorem error_of_buildNames {construct : κ → Except ConfigError γ} {names : List String}
    {error : ConfigError} (hall : ∀ n ∈ names, r.collector? n ≠ none)
    (h : r.buildNames construct names = .error error) :
    ∃ n ∈ names, ∃ registration, r.collector? n = some registration ∧
      construct registration.constructor = .error error := by
  induction names with
  | nil => cases h
  | cons n names ih =>
    obtain ⟨registration, hc⟩ := Option.ne_none_iff_exists'.mp (hall n List.mem_cons_self)
    simp only [buildNames, hc] at h
    cases hcon : construct registration.constructor with
    | error e =>
      simp only [hcon] at h
      cases h
      exact ⟨n, List.mem_cons_self, registration, hc, hcon⟩
    | ok c =>
      simp only [hcon] at h
      cases hrest : r.buildNames construct names with
      | ok cs =>
        rw [hrest] at h
        cases h
      | error e =>
        rw [hrest] at h
        cases h
        obtain ⟨n', hn', hex⟩ := ih (fun m hm => hall m (List.mem_cons_of_mem _ hm)) hrest
        exact ⟨n', List.mem_cons_of_mem _ hn', hex⟩

/-- For a registry that calls lead to: no name is that of a collector and of a group, the members
of groups are registered, and a call that fails, made in place, leaves the registry as it is.  And
calls keep the meaning of what there is: names that are resolved are resolved alike afterwards,
with the same dependencies, and the set is built then, unless a constructor of its collectors
fails. -/
theorem calls_keep_meaning (hr : r.Reachable) :
    (∀ name, r.collector? name = none ∨ r.group? name = none) ∧
    (∀ name members, r.group? name = some members → ∀ m ∈ members, r.collector? m ≠ none) ∧
    (∀ c error, r.call c = .error error → c.run r = (.error error, r)) ∧
    ∀ names enabled, r.resolve names = .ok enabled → ∀ later : List (Call κ),
      (r.afterAll later).resolve names = .ok enabled ∧
      (r.afterAll later).dependencies enabled = r.dependencies enabled ∧
      ∀ construct : κ → Except ConfigError γ,
        (∀ error, (r.afterAll later).build construct enabled = .error error →
          ∃ n ∈ enabled.names, ∃ registration,
            (r.afterAll later).collector? n = some registration ∧
              construct registration.constructor = .error error) ∧
        ((∀ k unknown, construct k ≠ .error (.unknownCollectors unknown)) →
          ∀ unknown, (r.afterAll later).build construct enabled ≠
            .error (.unknownCollectors unknown)) := by
  have hsound := hr.sound
  refine ⟨hsound.disjoint, fun _ _ => hsound.members, fun _ _ => run_of_error, ?_⟩
  intro names enabled hres later
  have hextends := extends_afterAll r later
  have hsound' := (hr.afterAll later).sound
  have hres' := resolve_of_extends hextends hsound' hres
  have hbuild : ∀ (construct : κ → Except ConfigError γ) (error : ConfigError),
      (r.afterAll later).build construct enabled = .error error →
        ∃ n ∈ enabled.names, ∃ registration,
          (r.afterAll later).collector? n = some registration ∧
            construct registration.constructor = .error error :=
    fun construct error => error_of_buildNames (collector_of_resolve hsound' hres')
  refine ⟨hres', dependencies_of_extends hextends (collector_of_resolve hsound hres), ?_⟩
  intro construct
  refine ⟨hbuild construct, ?_⟩
  intro hnone unknown herror
  obtain ⟨-, -, registration, -, hcon⟩ := hbuild construct _ herror
  exact hnone registration.constructor unknown hcon

end Registry

/-! ### The built-in collectors -/

namespace Builtin

theorem ne_unknownCollectors_of_map {α β : Type} {x : Except ConfigError α} {f : α → β}
    (hx : ∀ unknown, x ≠ .error (.unknownCollectors unknown)) (unknown : List String) :
    x.map f ≠ .error (.unknownCollectors unknown) := by
  cases x with
  | ok a => exact nofun
  | error e =>
    intro h
    cases h
    exact hx unknown rfl

/-- What a built-in collector cannot be built for is never the name of a collector. -/
theorem build_ne_unknownCollectors (s : Settings) (b : Builtin) (unknown : List String) :
    b.build s ≠ .error (.unknownCollectors unknown) := by
  cases b with
  | network =>
    refine ne_unknownCollectors_of_map (fun unknown => ?_) unknown
    rw [filter]
    split <;> exact nofun
  | replication =>
    refine ne_unknownCollectors_of_map (fun unknown => ?_) unknown
    rw [sources]
    split <;> exact nofun
  | diskStatus => exact nofun
  | containers => exact nofun

theorem reachable_of_registry {s : Settings} {r : Registry Builtin} (h : registry s = .ok r) :
    r.Reachable := by
  obtain ⟨r₁, h₁, h⟩ := Results.bind_eq_ok_iff.mp h
  obtain ⟨objects, -, h⟩ := Results.bind_eq_ok_iff.mp h
  obtain ⟨r₂, h₂, h⟩ := Results.bind_eq_ok_iff.mp h
  obtain ⟨r₃, h₃, h⟩ := Results.bind_eq_ok_iff.mp h
  obtain ⟨r₄, h₄, h⟩ := Results.bind_eq_ok_iff.mp h
  have h₁ : r₁.Reachable := .of_call .empty (c := .register network.name network []) h₁
  have h₂ : r₂.Reachable := .of_call h₁ (c := .register replication.name replication objects) h₂
  have h₃ : r₃.Reachable := .of_call h₂ (c := .register diskStatus.name diskStatus []) h₃
  have h₄ : r₄.Reachable := .of_call h₃ (c := .register containers.name containers []) h₄
  exact .of_call h₄ (c := .registerMeta defaults _) h

/-- What the group of all built-in collectors stands for when more is registered: a collector of a
name that is taken, a group with a member that is not registered, and a group. -/
theorem calls_keep_defaults :
    ∃ r, registry .standard = .ok r ∧
      let later : List (Registry.Call Builtin) :=
        [.register "net" containers ["Disk"], .registerMeta "all" ["net", "cpu"],
          .registerMeta "all" ["net", "smart"]]
      (r.afterAll later).resolve ["[defaults]", "net"] =
          .ok ⟨["net", "dfsr", "smart", "container"]⟩ ∧
        (r.afterAll later).resolve ["all"] = .ok ⟨["net", "smart"]⟩ ∧
        (r.afterAll later).dependencies ⟨["net", "dfsr", "smart", "container"]⟩ =
          ["DFS Replicated Folders", "DFS Replication Connections",
            "DFS Replication Service Volumes"] ∧
        ∀ unknown, (r.afterAll later).build (build .standard)
            ⟨["net", "dfsr", "smart", "container"]⟩ ≠ .error (.unknownCollectors unknown) := by
  obtain ⟨r, hr⟩ : ∃ r, registry .standard = .ok r := ⟨_, rfl⟩
  refine ⟨r, hr, ?_⟩
  intro later
  obtain ⟨-, -, -, hkeep⟩ :=
    @Registry.calls_keep_meaning Builtin Collector r (reachable_of_registry hr)
  have hres : r.resolve ["[defaults]", "net"] =
      .ok ⟨["net", "dfsr", "smart", "container"]⟩ := by
    cases hr
    decide
  obtain ⟨hres', hdep, hbuild⟩ := hkeep _ _ hres later
  refine ⟨hres', ?_, ?_, (hbuild (build .standard)).2 (build_ne_unknownCollectors .standard)⟩
  · cases hr
    decide
  · rw [hdep]
    cases hr
    decide

end Builtin

end MetricScraper
