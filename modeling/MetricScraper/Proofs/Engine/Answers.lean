import MetricScraper.Engine.Report
import MetricScraper.Proofs.Engine.Outcomes

/-!
# Answers of scrapes

A scrape that has answered does not change any more.  Its report has one outcome for each unit, in
order, made of what the scrape has taken for the unit.
-/

namespace MetricScraper

theorem Report.outcomes_ofHandovers {sc : Scraper} {handovers : List Handover} {k : Nat}
    {u : String × Collector} {h : Handover} (hu : sc.units[k]? = some u)
    (hh : handovers[k]? = some h) :
    (Report.ofHandovers sc handovers).outcomes[k]? = some (Outcome.ofHandover u.1 h) := by
  have hz : (sc.units.zip handovers)[k]? = some (u, h) := by
    rw [List.getElem?_zip_eq_some]
    exact ⟨hu, hh⟩
  simp [Report.ofHandovers, hz]

namespace Engine

variable {sc : Scraper} {past : History} {e e' : State} {m : Move}

theorem of_answer? {s : Scrape} {report : Report} (h : s.answer? sc = some (.ok report)) :
    s.outcomes.length = sc.units.length ∧ report = .ofHandovers sc s.outcomes := by
  cases hp : s.phase with
  | fetching => simp [Scrape.answer?, hp] at h
  | failed => simp [Scrape.answer?, hp] at h
  | collecting c =>
    simp only [Scrape.answer?, hp, Scrape.isReturned, beq_iff_eq] at h
    split at h
    · rename_i hlen
      cases h
      exact ⟨hlen, rfl⟩
    · cases h

/-! ### A scrape that has answered -/

theorem outcomes_of_returned {s : Scrape} {units : Nat} (hf : s.Fits units)
    (hr : s.isReturned units = true) (hx : s.starts ≠ []) : s.outcomes.length = units := by
  cases hp : s.phase with
  | fetching => simp [Scrape.isReturned, hp] at hr
  | failed => exact absurd (hf.idle (by simp [hp])).1 hx
  | collecting c => simpa [Scrape.isReturned, hp] using hr

theorem returned_turn {i : Nat} {s t : Scrape} (h : s.Turn sc e i m t)
    (hf : s.Fits sc.units.length) (hr : s.isReturned sc.units.length = true) : t = s := by
  have hle := hf.outcomes_le
  cases h with
  | idle => rfl
  | fetch phase hp => simp [Scrape.isReturned, hp] at hr
  | note hp hlt =>
    simp only [Scrape.isReturned, hp, beq_iff_eq] at hr
    omega
  | start hp hn hlt hx =>
    simp only [Scrape.isReturned, hp, beq_iff_eq] at hr
    omega
  | outcome o hm hx =>
    obtain ⟨hlen, hx⟩ := nextStart?_eq_some.mp hx
    have hlt := (List.getElem?_eq_some_iff.mp hx).1
    have hne : s.starts ≠ [] := List.ne_nil_of_length_pos (by omega)
    have hall := outcomes_of_returned hf hr hne
    omega

theorem returned_step (h : Effect sc e m e') (hl : Linked sc e) {i : Nat} {s : Scrape}
    (hs : e.scrapes[i]? = some s) (hr : s.isReturned sc.units.length = true) :
    e'.scrapes[i]? = some s := by
  obtain ⟨t, ht, hturn⟩ := scrape_stays h hs
  rw [returned_turn hturn (hl.fits hs) hr] at ht
  exact ht

theorem returned_lasts {later before : History} {s₁ : State}
    (hc : Course sc (later ++ (s₁, m) :: before) e) {i : Nat} {s : Scrape}
    (hs : s₁.scrapes[i]? = some s) (hr : s.isReturned sc.units.length = true) :
    e.scrapes[i]? = some s := by
  refine hc.lasts (P := fun e => e.scrapes[i]? = some s) ?_ hs
  intro past e e' m hc h hs
  exact returned_step h (linked_of_course hc) hs hr

/-! ### Runs last -/

theorem finished_lasts {later before : History} {s₁ : State}
    (hc : Course sc (later ++ (s₁, m) :: before) e) {n : Nat} {r : Run}
    (hr : s₁.runs[n]? = some r) (hs : r.status = .finished) :
    ∃ r', e.runs[n]? = some r' ∧ r'.status = .finished := by
  refine hc.lasts (P := fun e => ∃ r', e.runs[n]? = some r' ∧ r'.status = .finished) ?_
    ⟨r, hr, hs⟩
  intro past e e' m hc h hex
  obtain ⟨r₀, hr₀, hs₀⟩ := hex
  obtain ⟨r', hr', hturn⟩ := run_stays h hr₀
  exact ⟨r', hr', hturn.finished hs₀⟩

end Engine

end MetricScraper
