/-!
# Request targets

What a request asks for: a path, with or without a query; the server as a whole, `*`; a host alone;
or an absolute target, with a scheme and a host before the path.
-/

namespace MetricScraper.Http

/-! ### Paths -/

/-- Characters that may stand in a path as they are. -/
def isPathChar (c : Char) : Bool :=
  let n := c.toNat
  (0x21 ≤ n && n ≤ 0x3B && n != 0x23) || n = 0x3D || (0x40 ≤ n && n ≤ 0x5F) || 0x61 ≤ n

/-- Characters that may stand in a query as they are. -/
def isQueryChar (c : Char) : Bool :=
  let n := c.toNat
  n = 0x21 || (0x24 ≤ n && n ≤ 0x3B) || n = 0x3D || 0x3F ≤ n

/-- The path before a query and a fragment; a fragment may hold anything. -/
def pathBeforeQuery? (target : List Char) : Option (List Char) :=
  let endsPath (c : Char) : Bool := c = '?' || c = '#'
  let path := target.takeWhile fun c => !endsPath c
  let query :=
    match target.dropWhile fun c => !endsPath c with
    | '?' :: rest => rest.takeWhile (· ≠ '#')
    | _ => []
  if path.all isPathChar && query.all isQueryChar then some path else none

/-! ### Hosts -/

/-- What has been met of a host and what stands around it. -/
structure HostScan where
  /-- The colons that may come before a port. -/
  colons : Nat
  opened : Bool
  closed : Bool
  /-- Whether a percent sign stands outside of brackets and of a user name. -/
  percent : Bool
  /-- Whether the last character ends a user name. -/
  afterUser : Bool
  deriving DecidableEq, Repr, Inhabited

def HostScan.start : HostScan := ⟨0, false, false, false, false⟩

/-- The most colons in a row of parts of a host. -/
def HostScan.maxColons : Nat := 8

/-- Characters of hosts and user names that have no meaning of their own. -/
def isHostChar (c : Char) : Bool :=
  c.isAlphanum || c.toNat = 0x27 || "!$&()*+,-.;=_~".toList.contains c

/-- Takes in one more character. -/
def HostScan.step (s : HostScan) (c : Char) : Option HostScan :=
  if c = ':' then
    if HostScan.maxColons ≤ s.colons then none
    else some { s with colons := s.colons + 1, afterUser := false }
  else if c = '[' then
    if s.percent || s.opened then none else some { s with opened := true, afterUser := false }
  else if c = ']' then
    if !s.opened || s.closed then none
    else some { s with closed := true, colons := 0, percent := false, afterUser := false }
  else if c = '@' then some { s with colons := 0, percent := false, afterUser := true }
  else if c = '%' then some { s with percent := true, afterUser := false }
  else if isHostChar c then some { s with afterUser := false }
  else none

/-- Whether a host may end here. -/
def HostScan.isComplete (s : HostScan) : Bool :=
  s.opened == s.closed && s.colons ≤ 1 && !s.percent && !s.afterUser

def endsHost (c : Char) : Bool := c = '/' || c = '?' || c = '#'

/-- A host, with user name and port, before a path, a query or a fragment. -/
def isHost (host : List Char) : Bool :=
  match host.foldlM HostScan.step HostScan.start with
  | some s => s.isComplete
  | none => false

/-! ### Targets -/

def isSchemeChar (c : Char) : Bool := c.isAlphanum || c = '+' || c = '-' || c = '.'

/-- The longest scheme, in characters. -/
def maxSchemeLength : Nat := 64

/-- The longest target, in bytes. -/
def maxTargetSize : Nat := 65534

/-- What follows the scheme of an absolute target. -/
def afterScheme? (target : List Char) : Option (List Char) :=
  match target.dropWhile isSchemeChar with
  | ':' :: '/' :: '/' :: rest => some rest
  | _ => none

/-- The path of an absolute target, after its scheme; no path is the root. -/
def absolutePath? (target : List Char) : Option (List Char) :=
  let host := target.takeWhile fun c => !endsHost c
  if host.isEmpty || !isHost host then none
  else (pathBeforeQuery? (target.dropWhile fun c => !endsHost c)).map fun path =>
    if path.isEmpty then ['/'] else path

/-- The path that a target asks for, if the target is one; a host alone asks for no path. -/
def targetPath? (target : String) : Option String :=
  if maxTargetSize < target.utf8ByteSize then none
  else
    let cs := target.toList
    let path :=
      if cs.isEmpty then none
      else if cs = ['*'] then some cs
      else if cs.head? = some '/' then pathBeforeQuery? cs
      else
        match afterScheme? cs with
        | some rest =>
          if maxSchemeLength < (cs.takeWhile isSchemeChar).length then none else absolutePath? rest
        | none => if isHost cs then some [] else none
    path.map String.ofList

end MetricScraper.Http
