import Mathlib.Data.List.Induction
import Mathlib.Data.List.Nodup
import MetricScraper.Http.Server

/-!
# Routes

The paths are served by a library of routes, which takes in one path after another.  It panics at
a path that is not rooted and at one that it has already, and a path that holds no placeholder it
takes as it is.  The settings accept just those telemetry paths with which it takes in all routes,
and then every path leads to one handler at most.
-/

namespace MetricScraper.Http

/-! ### Paths -/

def IsRooted (path : String) : Prop := path.toList.head? = some '/'

/-- No part of the path stands for other texts. -/
def IsLiteral (path : String) : Prop := ':' ∉ path.toList ∧ '*' ∉ path.toList

/-- Routes that a library takes in, each as it is. -/
structure Servable (entries : List (String × Route)) : Prop where
  rooted : ∀ e ∈ entries, IsRooted e.1
  literal : ∀ e ∈ entries, IsLiteral e.1
  nodup : (entries.map Prod.fst).Nodup

theorem mem_routes {p q : String} {route : Route} :
    (q, route) ∈ routes p ↔
      q = p ∧ route = .metrics ∨ q = WebSettings.healthPath ∧ route = .health ∨
        (q = landingPath ∧ p ≠ landingPath) ∧ route = .landing := by
  rw [routes, List.mem_append]
  by_cases hp : p = landingPath
  · simp [hp]
  · simp [hp, or_assoc]

theorem nodup_routes {p : String} (hp : p ≠ WebSettings.healthPath) :
    ((routes p).map Prod.fst).Nodup := by
  have hfixed : WebSettings.healthPath ≠ landingPath := by decide
  by_cases hland : p = landingPath
  · simp [routes, hland, hfixed.symm]
  · simp [routes, hland, hp, hfixed]

theorem validate_eq_ok_iff (w : WebSettings) :
    w.validate = .ok () ↔ IsRooted w.telemetryPath ∧ w.telemetryPath ≠ WebSettings.healthPath ∧
      IsLiteral w.telemetryPath := by
  have hok : w.validate = .ok () ↔ w.pathFault? = none := by
    rw [WebSettings.validate]
    cases w.pathFault? <;> simp
  rw [hok, WebSettings.pathFault?]
  by_cases hroot : IsRooted w.telemetryPath
  · have hhead : (w.telemetryPath.toList.head? == some '/') = true := by simpa [IsRooted] using hroot
    by_cases hhealth : w.telemetryPath = WebSettings.healthPath
    · have hsame : (w.telemetryPath == WebSettings.healthPath) = true := by simpa using hhealth
      simp only [hhead, hsame, Bool.not_true, Bool.false_eq_true, if_false, if_true]
      simp [hhealth]
    · have hliteral : (w.telemetryPath.toList.any fun c => c == ':' || c == '*') = false ↔
          IsLiteral w.telemetryPath := by
        simp only [IsLiteral, List.any_eq_false, Bool.or_eq_true, beq_iff_eq, not_or]
        exact ⟨fun h => ⟨fun hc => (h _ hc).1 rfl, fun hc => (h _ hc).2 rfl⟩,
          fun h c hc => ⟨fun he => h.1 (he ▸ hc), fun he => h.2 (he ▸ hc)⟩⟩
      rw [← hliteral]
      cases (w.telemetryPath.toList.any fun c => c == ':' || c == '*') <;>
        simp [hhead, hhealth, hroot]
  · have hhead : (w.telemetryPath.toList.head? == some '/') = false := by
      simpa [IsRooted] using hroot
    simp [hhead, hroot]

/-- The settings accept a telemetry path exactly if the routes with it can be served. -/
theorem validate_eq_ok_iff_servable (w : WebSettings) :
    w.validate = .ok () ↔ Servable (routes w.telemetryPath) := by
  rw [validate_eq_ok_iff]
  have hmetrics : (w.telemetryPath, Route.metrics) ∈ routes w.telemetryPath :=
    mem_routes.mpr (Or.inl ⟨rfl, rfl⟩)
  have hhealth : (WebSettings.healthPath, Route.health) ∈ routes w.telemetryPath :=
    mem_routes.mpr (Or.inr (Or.inl ⟨rfl, rfl⟩))
  constructor
  · rintro ⟨hroot, hne, hliteral⟩
    have hfixed : ∀ q ∈ [WebSettings.healthPath, landingPath], IsRooted q ∧ IsLiteral q := by
      unfold IsRooted IsLiteral
      decide
    have hpath : ∀ e ∈ routes w.telemetryPath, IsRooted e.1 ∧ IsLiteral e.1 := by
      rintro ⟨q, route⟩ hmem
      rcases mem_routes.mp hmem with ⟨rfl, -⟩ | ⟨rfl, -⟩ | ⟨⟨rfl, -⟩, -⟩
      · exact ⟨hroot, hliteral⟩
      · exact hfixed _ (by simp)
      · exact hfixed _ (by simp)
    exact ⟨fun e he => (hpath e he).1, fun e he => (hpath e he).2, nodup_routes hne⟩
  · intro h
    refine ⟨h.rooted _ hmetrics, ?_, h.literal _ hmetrics⟩
    intro heq
    -- the telemetry path and that of the health check come one after the other
    have hnodup := h.nodup
    rw [routes, heq] at hnodup
    simp at hnodup

/-! ### Libraries of routes -/

/-- A library of routes, as far as the server uses it. -/
structure RouteLibrary (τ : Type) where
  empty : τ
  /-- Takes in a route; `none` is a panic. -/
  add? : τ → String → Route → Option τ
  find? : τ → String → Option Route

namespace RouteLibrary

variable {τ : Type} {lib : RouteLibrary τ} {entries : List (String × Route)} {t : τ}

def addAll? (lib : RouteLibrary τ) (entries : List (String × Route)) : Option τ :=
  entries.foldlM (fun t e => lib.add? t e.1 e.2) lib.empty

/-- What is known of the library: among literal paths it panics at those that are not rooted or
come twice, and finds the others as they are. -/
structure Lawful (lib : RouteLibrary τ) : Prop where
  isSome_add? : ∀ entries t, (∀ e ∈ entries, IsLiteral e.1) → lib.addAll? entries = some t →
    ∀ path route, IsLiteral path →
      ((lib.add? t path route).isSome ↔ IsRooted path ∧ path ∉ entries.map Prod.fst)
  find? : ∀ entries t, (∀ e ∈ entries, IsLiteral e.1) → lib.addAll? entries = some t →
    ∀ q route, lib.find? t q = some route ↔ (q, route) ∈ entries

theorem addAll?_concat (e : String × Route) :
    lib.addAll? (entries ++ [e]) = (lib.addAll? entries).bind fun t => lib.add? t e.1 e.2 := by
  simp [addAll?, List.foldlM_append]

theorem Lawful.exists_addAll? (hlib : lib.Lawful) (h : Servable entries) :
    ∃ t, lib.addAll? entries = some t := by
  induction entries using List.reverseRecOn with
  | nil => exact ⟨lib.empty, rfl⟩
  | append_singleton entries e ih =>
    have hmem : ∀ e' ∈ entries, e' ∈ entries ++ [e] := fun e' he => List.mem_append_left _ he
    have hnodup := h.nodup
    rw [List.map_append, List.nodup_append] at hnodup
    have hnew : e.1 ∉ entries.map Prod.fst := fun he => hnodup.2.2 e.1 he e.1 (by simp) rfl
    have hlast : e ∈ entries ++ [e] := by simp
    have hbefore : Servable entries :=
      ⟨fun e' he => h.rooted e' (hmem e' he), fun e' he => h.literal e' (hmem e' he), hnodup.1⟩
    obtain ⟨t, ht⟩ := ih hbefore
    have hsome := (hlib.isSome_add? entries t hbefore.literal ht e.1 e.2 (h.literal e hlast)).mpr
      ⟨h.rooted e hlast, hnew⟩
    obtain ⟨t', ht'⟩ := Option.isSome_iff_exists.mp hsome
    exact ⟨t', by rw [addAll?_concat, ht, Option.bind_some, ht']⟩

end RouteLibrary

/-! ### Where paths lead -/

/-- What a path leads to next to a telemetry path. -/
structure LeadsTo (telemetryPath q : String) (found : Option Route) : Prop where
  metrics : found = some .metrics ↔ q = telemetryPath
  health : found = some .health ↔ q = WebSettings.healthPath
  landing : found = some .landing ↔ q = landingPath ∧ telemetryPath ≠ landingPath
  nothing : found = none ↔
    q ≠ telemetryPath ∧ q ≠ WebSettings.healthPath ∧ q ≠ landingPath

theorem leadsTo_of_mem {p q : String} {found : Option Route}
    (h : ∀ route, found = some route ↔ (q, route) ∈ routes p) : LeadsTo p q found := by
  have hnone : found = none ↔ ∀ route, (q, route) ∉ routes p := by
    rw [Option.eq_none_iff_forall_ne_some]
    exact forall_congr' fun route => not_congr (h route)
  refine ⟨?_, ?_, ?_, ?_⟩
  · rw [h, mem_routes]
    simp
  · rw [h, mem_routes]
    simp
  · rw [h, mem_routes]
    simp
  · rw [hnone]
    simp only [mem_routes]
    constructor
    · intro hall
      refine ⟨fun hq => hall .metrics (Or.inl ⟨hq, rfl⟩),
        fun hq => hall .health (Or.inr (Or.inl ⟨hq, rfl⟩)), fun hq => ?_⟩
      by_cases hp : p = landingPath
      · exact hall .metrics (Or.inl ⟨hq.trans hp.symm, rfl⟩)
      · exact hall .landing (Or.inr (Or.inr ⟨⟨hq, hp⟩, rfl⟩))
    · rintro ⟨hp, hhealth, hland⟩ route (⟨hq, -⟩ | ⟨hq, -⟩ | ⟨⟨hq, -⟩, -⟩)
      · exact hp hq
      · exact hhealth hq
      · exact hland hq

theorem lookup_eq_some_iff_mem {α : Type} {l : List (String × α)} (h : (l.map Prod.fst).Nodup)
    {q : String} {x : α} : l.lookup q = some x ↔ (q, x) ∈ l := by
  induction l with
  | nil => simp
  | cons e l ih =>
    obtain ⟨q', y⟩ := e
    rw [List.map_cons, List.nodup_cons] at h
    rw [List.lookup_cons]
    by_cases hq : q = q'
    · subst hq
      have hrest : (q, x) ∉ l := fun hmem => h.1 (List.mem_map.mpr ⟨_, hmem, rfl⟩)
      simp [hrest, eq_comm]
    · simp [beq_false_of_ne hq, ih h.2, hq]

/-! ### Responses -/

/-- The handler that has answered, by its kind of page. -/
def Response.handler? (response : Response) : Option Route :=
  response.contentType.map fun t =>
    if t = "application/json" then .health
    else if t = "text/html; charset=utf-8" then .landing
    else .metrics

theorem handler?_follow (x : Exporter) (file : Option FixtureFile) (r : Request) (route : Route) :
    (follow x file r route).1.handler? = some route := by
  cases route with
  | metrics =>
    rw [follow]
    generalize x.scrape file _ = outcome
    obtain ⟨answer, x'⟩ := outcome
    cases answer with
    | ok report =>
      simp only [metricsResponse, page, Response.handler?, Option.map_some, Option.some.injEq]
      decide
    | error e =>
      simp only [metricsResponse, Response.handler?, Option.map_some, Option.some.injEq]
      decide
  | health => rfl
  | landing => rfl

theorem respond_get (x : Exporter) (file : Option FixtureFile) {r : Request}
    (hr : r.method = "GET") :
    respond x file r =
      match route? x.settings.web.telemetryPath r.path with
      | none => (notFound, x)
      | some route => follow x file r route := by
  rw [respond]
  cases route? x.settings.web.telemetryPath r.path with
  | none => rfl
  | some route => simp only [hr, BEq.rfl, if_true]

theorem handler?_respond (x : Exporter) (file : Option FixtureFile) {r : Request}
    (hr : r.method = "GET") :
    (respond x file r).1.handler? = route? x.settings.web.telemetryPath r.path := by
  rw [respond_get x file hr]
  split
  · rename_i hnone
    rw [hnone]
    rfl
  · rename_i route hsome
    rw [handler?_follow, hsome]

/-- For settings that are accepted, and whatever library serves the paths: the routes are rooted,
literal and pairwise different, and the library takes in all of them; a path leads to the metrics
exactly if it is the telemetry path, to the health check if it is that of the health check, to the
landing page if it is the root and the metrics are not there, and else nowhere.  That is how a
request to read a path is answered, and by nothing but the handler that the path leads to. -/
theorem paths_served {w : WebSettings} (hw : w.validate = .ok ()) {τ : Type}
    {lib : RouteLibrary τ} (hlib : lib.Lawful) :
    Servable (routes w.telemetryPath) ∧
    (∃ t, lib.addAll? (routes w.telemetryPath) = some t ∧
      ∀ q, LeadsTo w.telemetryPath q (lib.find? t q)) ∧
    ∀ (x : Exporter) (file : Option FixtureFile) (r : Request), x.settings.web = w →
      r.method = "GET" →
        LeadsTo w.telemetryPath r.path (respond x file r).1.handler? ∧
        (∀ route, (respond x file r).1.handler? = some route →
          respond x file r = follow x file r route) ∧
        ((respond x file r).1.handler? = none → respond x file r = (notFound, x)) := by
  have hroutes := (validate_eq_ok_iff_servable w).mp hw
  obtain ⟨t, ht⟩ := hlib.exists_addAll? hroutes
  refine ⟨hroutes, ⟨t, ht, fun q => ?_⟩, fun x file r hx hr => ?_⟩
  · exact leadsTo_of_mem fun route => hlib.find? _ t hroutes.literal ht q route
  · rw [handler?_respond x file hr, respond_get x file hr, hx]
    refine ⟨leadsTo_of_mem fun route => lookup_eq_some_iff_mem hroutes.nodup, ?_, ?_⟩
    · intro route hroute
      rw [hroute]
    · intro hnone
      rw [hnone]

/-- The library that keeps its routes in a list. -/
def RouteLibrary.listed : RouteLibrary (List (String × Route)) where
  empty := []
  add? t path route :=
    if path.toList.head? = some '/' ∧ path ∉ t.map Prod.fst then some (t ++ [(path, route)])
    else none
  find? t q := t.lookup q

theorem RouteLibrary.addAll?_listed {entries t : List (String × Route)}
    (h : listed.addAll? entries = some t) : t = entries ∧ (entries.map Prod.fst).Nodup := by
  induction entries using List.reverseRecOn generalizing t with
  | nil =>
    cases h
    exact ⟨rfl, List.nodup_nil⟩
  | append_singleton entries e ih =>
    rw [addAll?_concat, Option.bind_eq_some_iff] at h
    obtain ⟨t', ht', h⟩ := h
    obtain ⟨rfl, hnodup⟩ := ih ht'
    simp only [listed] at h
    split at h
    · rename_i hnew
      cases h
      refine ⟨rfl, ?_⟩
      rw [List.map_append]
      exact hnodup.append (List.nodup_singleton _) (List.disjoint_singleton.mpr hnew.2)
    · cases h

theorem RouteLibrary.lawful_listed : listed.Lawful := by
  constructor
  · intro entries t _ ht path route _
    obtain ⟨rfl, -⟩ := addAll?_listed ht
    by_cases hnew : path.toList.head? = some '/' ∧ path ∉ t.map Prod.fst
    · simp only [listed, if_pos hnew, Option.isSome_some, true_iff]
      exact hnew
    · simp only [listed, if_neg hnew, Option.isSome_none, Bool.false_eq_true, false_iff]
      exact hnew
  · intro entries t _ ht q route
    obtain ⟨rfl, hnodup⟩ := addAll?_listed ht
    exact lookup_eq_some_iff_mem hnodup

/-- Settings that put the metrics where the landing page would be. -/
def rootSettings : Settings :=
  { Settings.standard with
    collectors := "", web := { Settings.standard.web with telemetryPath := "/" } }

theorem paths_served_root :
    rootSettings.web.validate = .ok () ∧ RouteLibrary.listed.Lawful ∧
      (∃ t, RouteLibrary.listed.addAll? (routes "/") = some t ∧
        RouteLibrary.listed.find? t "/" = some .metrics ∧
        RouteLibrary.listed.find? t "/health/" = none) ∧
      ∃ x, Exporter.start rootSettings none = .ok x ∧
        (respond x none ⟨"GET", "/?now", []⟩).1.handler? = some .metrics := by
  obtain ⟨x, hx⟩ : ∃ x, Exporter.start rootSettings none = .ok x := ⟨_, rfl⟩
  have hw : rootSettings.web.validate = .ok () := by decide
  obtain ⟨-, ⟨t, ht, hleads⟩, hanswers⟩ := paths_served hw RouteLibrary.lawful_listed
  have hweb : x.settings.web = rootSettings.web := by
    cases hx
    rfl
  have hpath : (⟨"GET", "/?now", []⟩ : Request).path = "/" := by decide
  refine ⟨hw, RouteLibrary.lawful_listed, ⟨t, ht, ?_, ?_⟩, x, hx, ?_⟩
  · exact (hleads "/").metrics.mpr rfl
  · exact (hleads "/health/").nothing.mpr (by decide)
  · exact (hanswers x none _ hweb rfl).1.metrics.mpr hpath

end MetricScraper.Http
