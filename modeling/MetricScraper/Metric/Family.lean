import MetricScraper.Metric.Basic

/-!
# Families

Samples of one metric name form a family.  Families stand in the order in which their names first
occur, and keep the order of their samples.
-/

namespace MetricScraper

namespace Sample

/-- The samples of the metric of `s`. -/
def namesakes (s : Sample) (samples : List Sample) : List Sample :=
  samples.filter fun other => other.name == s.name

/-- The samples of other metrics than that of `s`. -/
def others (s : Sample) (samples : List Sample) : List Sample :=
  samples.filter fun other => !(other.name == s.name)

theorem length_others_le (s : Sample) (samples : List Sample) :
    (s.others samples).length ≤ samples.length := List.length_filter_le _ _

end Sample

/-- The families of a list of samples. -/
def families : List Sample → List (List Sample)
  | [] => []
  | s :: rest => (s :: s.namesakes rest) :: families (s.others rest)
termination_by samples => samples.length
decreasing_by
  have := s.length_others_le rest
  simp only [List.length_cons]
  omega

theorem families_nil : families [] = [] := by
  rw [families]

theorem families_cons (s : Sample) (rest : List Sample) :
    families (s :: rest) = (s :: s.namesakes rest) :: families (s.others rest) := by
  rw [families]

theorem ne_nil_of_mem_families {samples family : List Sample} (h : family ∈ families samples) :
    family ≠ [] := by
  fun_induction families samples with
  | case1 => simp at h
  | case2 s rest ih =>
    rw [List.mem_cons] at h
    rcases h with h | h
    · subst h
      simp
    · exact ih h

end MetricScraper
