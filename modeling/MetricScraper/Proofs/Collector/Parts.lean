import MetricScraper.Collector.Composite

/-!
# Parts of an output

The output of a composite is made of one part for each child: the samples of the child, if it
succeeded, and its two figures.
-/

namespace MetricScraper

/-- What an output has of one run: its samples and its two figures. -/
structure Part where
  samples : List Sample
  duration : Sample
  success : Sample

namespace Part

def figures (p : Part) : List Sample := [p.duration, p.success]

/-- The part of a run in an output. -/
def ofRun (duration success : Descriptor) (name : String) (samples : List Sample)
    (elapsed : Duration) (succeeded : Bool) : Part :=
  ⟨samples, ⟨duration, elapsed.toSeconds, [name]⟩,
    ⟨success, if succeeded then 1.0 else 0.0, [name]⟩⟩

/-- Whether the success sample of a part is zero. -/
def hasFailed (p : Part) : Bool := p.success.value = 0.0

variable (duration success : Descriptor) (name : String) (samples : List Sample)
  (elapsed : Duration) (succeeded : Bool)

@[simp] theorem samples_ofRun :
    (ofRun duration success name samples elapsed succeeded).samples = samples := rfl

@[simp] theorem figures_ofRun :
    (ofRun duration success name samples elapsed succeeded).figures =
      metaSamples duration success name elapsed succeeded := rfl

@[simp] theorem hasFailed_ofRun :
    (ofRun duration success name samples elapsed succeeded).hasFailed = !succeeded := by
  have hne : (1.0 : Float) ≠ 0.0 := by decide
  cases succeeded with
  | true => simp [hasFailed, ofRun, hne]
  | false => simp [hasFailed, ofRun]

theorem value_eq_one_iff :
    (ofRun duration success name samples elapsed succeeded).success.value = 1.0 ↔
      succeeded = true := by
  have hne : (0.0 : Float) ≠ 1.0 := by decide
  cases succeeded with
  | true => simp [ofRun]
  | false => simpa [ofRun] using hne

end Part

namespace Composite

/-- The part of a child in the output of a composite. -/
def part (c : Composite) (child : Child) (h : Handover) : Part :=
  .ofRun c.duration c.success child.name (if h.isOk then h.samples else []) h.elapsed h.isOk

def parts (c : Composite) (runs : List Handover) : List Part :=
  (c.children.zip runs).map fun (child, h) => c.part child h

variable (c : Composite) (runs : List Handover)

theorem append_eq (done : List Sample × Nat) (child : Child) (h : Handover) :
    c.append done (child, h) =
      (done.1 ++ ((c.part child h).samples ++ (c.part child h).figures),
        done.2 + if (c.part child h).hasFailed then 1 else 0) := by
  cases hr : h.result with
  | ok u =>
    have hk : h.isOk = true := by simp [Handover.isOk, hr]
    simp [append, part, hr, hk]
  | error e =>
    have hk : h.isOk = false := by simp [Handover.isOk, hr]
    simp [append, part, hr, hk]

theorem foldl_append (pairs : List (Child × Handover)) (done : List Sample × Nat) :
    pairs.foldl c.append done =
      (done.1 ++ (pairs.map fun p => c.part p.1 p.2).flatMap fun p => p.samples ++ p.figures,
        done.2 + (pairs.map fun p => c.part p.1 p.2).countP Part.hasFailed) := by
  induction pairs generalizing done with
  | nil => simp
  | cons p pairs ih =>
    rw [List.foldl_cons, ih, append_eq, List.map_cons, List.flatMap_cons, List.countP_cons]
    simp only [Prod.mk.injEq, List.append_assoc, true_and]
    omega

theorem foldl_children (prior : List Sample) :
    (c.children.zip runs).foldl c.append (prior, 0) =
      (prior ++ (c.parts runs).flatMap fun p => p.samples ++ p.figures,
        (c.parts runs).countP Part.hasFailed) := by
  rw [foldl_append, Nat.zero_add]
  rfl

/-- The output of a composite stands behind what was there before, part after part, and its result
counts the parts that have failed. -/
theorem collect_eq (prior : List Sample) :
    c.collect runs prior =
      (prior ++ (c.parts runs).flatMap fun p => p.samples ++ p.figures,
        if (c.parts runs).countP Part.hasFailed = 0 then .ok ()
        else .error
          (.childrenFailed ((c.parts runs).countP Part.hasFailed) c.children.length)) := by
  unfold collect
  rw [foldl_children]
  simp only [result]
  by_cases h : (c.parts runs).countP Part.hasFailed = 0
  · rw [if_pos h, if_neg (by omega)]
  · rw [if_neg h, if_pos (by omega)]

theorem length_parts (h : runs.length = c.children.length) :
    (c.parts runs).length = c.children.length := by
  rw [parts, List.length_map, List.length_zip, h, Nat.min_self]

theorem getElem?_parts {k : Nat} {child : Child} {h : Handover}
    (hc : c.children[k]? = some child) (hr : runs[k]? = some h) :
    (c.parts runs)[k]? = some (c.part child h) := by
  have hz : (c.children.zip runs)[k]? = some (child, h) :=
    List.getElem?_zip_eq_some.mpr ⟨hc, hr⟩
  simp [parts, hz]

end Composite

end MetricScraper
