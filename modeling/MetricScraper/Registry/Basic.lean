import MetricScraper.Settings.ConfigError

/-!
# The registry of collectors

Collectors are registered under names, with how to build them and the counter objects that they
read; groups name several collectors.  A list of names is resolved to the collectors that it
enables, each once.
-/

namespace MetricScraper

/-- A registered collector; `κ` is what says how to build it. -/
structure Registration (κ : Type) where
  constructor : κ
  dependencies : List String
  deriving DecidableEq, Repr, Inhabited

/-- The registered collectors and groups by name. -/
structure Registry (κ : Type) where
  collectors : List (String × Registration κ)
  groups : List (String × List String)
  deriving Repr, Inhabited

/-- The enabled collectors: no name comes twice. -/
structure EnabledSet where
  names : List String
  deriving DecidableEq, Repr, Inhabited

namespace EnabledSet

def empty : EnabledSet := ⟨[]⟩

def contains (e : EnabledSet) (name : String) : Bool := e.names.contains name

/-- Adds a name, unless it is there. -/
def push (e : EnabledSet) (name : String) : EnabledSet :=
  if e.contains name then e else ⟨e.names ++ [name]⟩

end EnabledSet

namespace Registry

variable {κ : Type}

def empty : Registry κ := ⟨[], []⟩

def collector? (r : Registry κ) (name : String) : Option (Registration κ) :=
  r.collectors.lookup name

def group? (r : Registry κ) (name : String) : Option (List String) := r.groups.lookup name

/-- Whether a name is that of a collector or of a group. -/
def isTaken (r : Registry κ) (name : String) : Bool :=
  (r.collector? name).isSome || (r.group? name).isSome

/-! ### Registering -/

/-- Registers a collector under a name that is free. -/
def register (r : Registry κ) (name : String) (constructor : κ) (dependencies : List String) :
    Except ConfigError (Registry κ) :=
  if r.isTaken name then .error (.duplicateCollector name)
  else .ok { r with collectors := r.collectors ++ [(name, ⟨constructor, dependencies⟩)] }

/-- Registers a group of collectors under a name that is free. -/
def registerMeta (r : Registry κ) (name : String) (members : List String) :
    Except ConfigError (Registry κ) :=
  if r.isTaken name then .error (.duplicateCollector name)
  else
    match members.find? fun m => (r.collector? m).isNone with
    | some member => .error (.invalidMeta name member)
    | none => .ok { r with groups := r.groups ++ [(name, members)] }

/-! ### Resolving -/

/-- What a name enables, if it is known. -/
def expand? (r : Registry κ) (name : String) : Option (List String) :=
  match r.group? name with
  | some members => some members
  | none => if (r.collector? name).isSome then some [name] else none

/-- The set after a name; what a name enables comes where the name stands. -/
def enable (r : Registry κ) (e : EnabledSet) (name : String) : EnabledSet :=
  ((r.expand? name).getD []).foldl EnabledSet.push e

/-- The unknown names, each once, in order of first mention. -/
def unknownNames (r : Registry κ) (names : List String) : List String :=
  ((names.filter fun n => (r.expand? n).isNone).foldl EnabledSet.push EnabledSet.empty).names

/-- The collectors that a list of names enables. -/
def resolve (r : Registry κ) (names : List String) : Except ConfigError EnabledSet :=
  match r.unknownNames names with
  | [] => .ok (names.foldl r.enable EnabledSet.empty)
  | unknown => .error (.unknownCollectors unknown)

/-! ### Dependencies -/

/-- Puts a text into an ascending list, unless it is there. -/
def insertAscending (s : String) : List String → List String
  | [] => [s]
  | t :: rest =>
    if s < t then s :: t :: rest else if s = t then t :: rest else t :: insertAscending s rest

/-- The texts of a list in ascending order, each once. -/
def ascending (texts : List String) : List String := texts.foldr insertAscending []

/-- The counter objects that the enabled collectors read, in ascending order. -/
def dependencies (r : Registry κ) (e : EnabledSet) : List String :=
  ascending (e.names.flatMap fun n =>
    match r.collector? n with
    | some registration => registration.dependencies
    | none => [])

/-! ### Building -/

/-- Builds collectors by name, in order, up to the first that cannot be built. -/
def buildNames {γ : Type} (r : Registry κ) (construct : κ → Except ConfigError γ) :
    List String → Except ConfigError (List (String × γ))
  | [] => .ok []
  | n :: rest =>
    match r.collector? n with
    | none => .error (.unknownCollectors [n])
    | some registration =>
      match construct registration.constructor with
      | .error e => .error e
      | .ok c => (r.buildNames construct rest).map fun cs => (n, c) :: cs

/-- The enabled collectors, built in order. -/
def build {γ : Type} (r : Registry κ) (construct : κ → Except ConfigError γ) (e : EnabledSet) :
    Except ConfigError (List (String × γ)) :=
  r.buildNames construct e.names

end Registry

end MetricScraper
