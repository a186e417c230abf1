import Mathlib.Data.List.DropRight
import MetricScraper.Text.CommaList

/-!
# Texts of comma separated lists

A text is parted at its commas, so that a list may be written as two lists with a comma between
them.  Each part is an entry with white space around it or white space alone, and this tells
exactly which texts write a list: white space and empty parts count for nothing, and all the rest
counts.
-/

namespace MetricScraper.Text

/-! ### Trimming -/

/-- Something that neither begins nor ends with white space. -/
structure Trimmed (cs : List Char) : Prop where
  ne_nil : cs ≠ []
  head : isBlank (cs.head ne_nil) = false
  last : isBlank (cs.getLast ne_nil) = false

def Blank (cs : List Char) : Prop := ∀ c ∈ cs, isBlank c = true

instance (cs : List Char) : Decidable (Blank cs) :=
  decidable_of_iff (cs.all isBlank = true) List.all_eq_true

theorem trimEnd_eq (cs : List Char) : trimEnd cs = cs.rdropWhile isBlank := rfl

theorem Blank.notMem_comma {cs : List Char} (h : Blank cs) : ',' ∉ cs := by
  intro hc
  have hblank := h ',' hc
  rw [isBlank_comma] at hblank
  cases hblank

theorem Blank.trim_eq {cs : List Char} (h : Blank cs) : trim cs = [] := by
  induction cs with
  | nil => exact trim_nil
  | cons c cs ih =>
    rw [trim_cons_blank (h c List.mem_cons_self)]
    exact ih fun c' hc' => h c' (List.mem_cons_of_mem c hc')

theorem Trimmed.trim_around {cs before after : List Char} (h : Trimmed cs) (hb : Blank before)
    (ha : Blank after) : trim (before ++ cs ++ after) = cs := by
  obtain ⟨hne, hhead, hlast⟩ := h
  have hfront : (before ++ cs ++ after).dropWhile isBlank = cs ++ after := by
    rw [List.append_assoc, List.dropWhile_append_of_pos hb]
    cases cs with
    | nil => exact absurd rfl hne
    | cons c cs =>
      rw [List.head_cons] at hhead
      rw [List.cons_append, List.dropWhile_cons_of_neg (by simp [hhead])]
  have hback : (cs ++ after).reverse.dropWhile isBlank = cs.reverse := by
    rw [List.reverse_append, List.dropWhile_append_of_pos fun c hc => ha c (List.mem_reverse.mp hc),
      List.dropWhile_eq_self_iff]
    intro hpos
    simp only [List.getElem_reverse, Nat.sub_zero, ← List.getLast_eq_getElem hne, hlast,
      Bool.false_eq_true, not_false_eq_true]
  unfold trim trimEnd
  rw [hfront, hback, List.reverse_reverse]

theorem trimmed_trim {cs : List Char} (h : trim cs ≠ []) : Trimmed (trim cs) := by
  refine ⟨h, ?_, ?_⟩
  · -- what is left begins as it does before its end is trimmed
    obtain ⟨rest, hrest⟩ := List.rdropWhile_prefix isBlank (cs.dropWhile isBlank)
    have hfirst := List.head?_dropWhile_not isBlank cs
    rw [← hrest, ← trimEnd_eq, ← trim, List.head?_append_of_ne_nil _ h,
      List.head?_eq_some_head h] at hfirst
    exact hfirst
  · exact Bool.eq_false_iff.mpr (List.rdropWhile_last_not isBlank (cs.dropWhile isBlank) h)

theorem exists_around_trim (cs : List Char) :
    ∃ before after, Blank before ∧ Blank after ∧ cs = before ++ trim cs ++ after := by
  refine ⟨cs.takeWhile isBlank, (cs.dropWhile isBlank).rtakeWhile isBlank,
    fun c => List.mem_takeWhile_imp, fun c => List.mem_rtakeWhile_imp, ?_⟩
  rw [trim, trimEnd_eq, List.append_assoc, List.rdropWhile_append_rtakeWhile,
    List.takeWhile_append_dropWhile]

/-! ### Commas -/

theorem splitCommas_of_ne {c : Char} (hc : c ≠ ',') (cs : List Char) :
    splitCommas (c :: cs) = (splitCommas cs).modifyHead (c :: ·) := by
  rw [splitCommas, if_neg hc]
  cases hcs : splitCommas cs with
  | nil => exact absurd hcs (splitCommas_ne_nil cs)
  | cons piece pieces => rfl

theorem splitCommas_append (a b : List Char) :
    splitCommas (a ++ ',' :: b) = splitCommas a ++ splitCommas b := by
  induction a with
  | nil => rfl
  | cons c a ih =>
    by_cases hc : c = ','
    · subst hc
      show [] :: splitCommas (a ++ ',' :: b) = ([] :: splitCommas a) ++ splitCommas b
      rw [ih, List.cons_append]
    · rw [List.cons_append, splitCommas_of_ne hc, splitCommas_of_ne hc, ih]
      cases ha : splitCommas a with
      | nil => exact absurd ha (splitCommas_ne_nil a)
      | cons piece pieces => rfl

theorem splitCommas_of_notMem {cs : List Char} (h : ',' ∉ cs) : splitCommas cs = [cs] := by
  induction cs with
  | nil => rfl
  | cons c cs ih =>
    rw [List.mem_cons, not_or] at h
    rw [splitCommas_of_ne (Ne.symm h.1), ih h.2]
    rfl

theorem notMem_of_mem_splitCommas {cs piece : List Char} (h : piece ∈ splitCommas cs) :
    ',' ∉ piece := by
  induction cs generalizing piece with
  | nil =>
    rw [List.mem_singleton.mp h]
    exact List.not_mem_nil
  | cons c cs ih =>
    by_cases hc : c = ','
    · subst hc
      rcases List.mem_cons.mp h with rfl | h
      · exact List.not_mem_nil
      · exact ih h
    · rw [splitCommas_of_ne hc] at h
      cases hcs : splitCommas cs with
      | nil => exact absurd hcs (splitCommas_ne_nil cs)
      | cons first pieces =>
        rw [hcs, List.modifyHead_cons] at h
        rw [hcs] at ih
        rcases List.mem_cons.mp h with rfl | h
        · rw [List.mem_cons, not_or]
          exact ⟨Ne.symm hc, ih List.mem_cons_self⟩
        · exact ih (List.mem_cons_of_mem _ h)

theorem splitCommas_intercalate {pieces : List (List Char)} (hne : pieces ≠ [])
    (h : ∀ piece ∈ pieces, ',' ∉ piece) : splitCommas ([','].intercalate pieces) = pieces := by
  induction pieces with
  | nil => exact absurd rfl hne
  | cons piece pieces ih =>
    have hpiece := h piece List.mem_cons_self
    cases pieces with
    | nil =>
      rw [List.intercalate_singleton]
      exact splitCommas_of_notMem hpiece
    | cons next pieces =>
      have hrest := ih (List.cons_ne_nil _ _) fun p hp => h p (List.mem_cons_of_mem _ hp)
      rw [List.intercalate_cons_cons, List.append_assoc, List.singleton_append,
        splitCommas_append, splitCommas_of_notMem hpiece, hrest, List.singleton_append]

theorem intercalate_splitCommas (cs : List Char) : [','].intercalate (splitCommas cs) = cs := by
  induction cs with
  | nil => rfl
  | cons c cs ih =>
    obtain ⟨piece, pieces, hcs⟩ := List.exists_cons_of_ne_nil (splitCommas_ne_nil cs)
    rw [hcs] at ih
    by_cases hc : c = ','
    · subst hc
      show [','].intercalate ([] :: splitCommas cs) = ',' :: cs
      rw [hcs, List.intercalate_cons_cons, ih]
      rfl
    · rw [splitCommas_of_ne hc, hcs, List.modifyHead_cons]
      cases pieces with
      | nil =>
        rw [List.intercalate_singleton] at ih ⊢
        rw [ih]
      | cons next pieces =>
        rw [List.intercalate_cons_cons] at ih ⊢
        rw [← ih]
        rfl

/-! ### Entries -/

/-- What can be an entry of a list. -/
structure IsEntry (entry : String) : Prop where
  trimmed : Trimmed entry.toList
  comma_notMem : ',' ∉ entry.toList

theorem parseCommaList_append (a b : String) :
    parseCommaList (a ++ "," ++ b) = parseCommaList a ++ parseCommaList b := by
  have hchars : (a ++ "," ++ b).toList = a.toList ++ ',' :: b.toList := by
    simp [String.toList_append]
  unfold parseCommaList commaEntries
  rw [hchars, splitCommas_append, List.map_append, List.filter_append, List.map_append]

theorem mem_commaEntries {cs entry : List Char} (h : entry ∈ commaEntries cs) :
    Trimmed entry ∧ ',' ∉ entry := by
  obtain ⟨hentry, hne⟩ := List.mem_filter.mp h
  obtain ⟨piece, hpiece, rfl⟩ := List.mem_map.mp hentry
  refine ⟨trimmed_trim (by simpa using hne), ?_⟩
  intro hcomma
  obtain ⟨before, after, -, -, heq⟩ := exists_around_trim piece
  apply notMem_of_mem_splitCommas hpiece
  rw [heq]
  exact List.mem_append_left after (List.mem_append_right before hcomma)

theorem isEntry_of_mem {s entry : String} (h : entry ∈ parseCommaList s) : IsEntry entry := by
  obtain ⟨cs, hcs, rfl⟩ := List.mem_map.mp h
  obtain ⟨htrimmed, hcomma⟩ := mem_commaEntries hcs
  constructor
  · rwa [String.toList_ofList]
  · rwa [String.toList_ofList]

/-! ### Written lists -/

/-- What stands between two commas: white space, with an entry in it or without. -/
structure Piece where
  before : String
  entry : Option String
  after : String
  deriving DecidableEq, Repr, Inhabited

namespace Piece

def text (p : Piece) : String := p.before ++ p.entry.getD "" ++ p.after

structure WellFormed (p : Piece) : Prop where
  before : Blank p.before.toList
  entry : ∀ e ∈ p.entry, IsEntry e
  after : Blank p.after.toList

def ofEntry (entry : String) : Piece := ⟨"", some entry, ""⟩

theorem toList_text (p : Piece) :
    p.text.toList = p.before.toList ++ (p.entry.getD "").toList ++ p.after.toList := by
  simp [text, String.toList_append]

theorem text_ofEntry (entry : String) : (ofEntry entry).text = entry := by
  simp [text, ofEntry]

theorem wellFormed_ofEntry {entry : String} (h : IsEntry entry) : (ofEntry entry).WellFormed := by
  refine ⟨fun c hc => ?_, fun e he => ?_, fun c hc => ?_⟩
  · simp [ofEntry] at hc
  · rw [← Option.some.inj he]
    exact h
  · simp [ofEntry] at hc

namespace WellFormed

variable {p : Piece}

theorem notMem_comma (h : p.WellFormed) : ',' ∉ p.text.toList := by
  rw [toList_text, List.mem_append, List.mem_append, not_or, not_or]
  refine ⟨⟨h.before.notMem_comma, ?_⟩, h.after.notMem_comma⟩
  cases he : p.entry with
  | none => simp
  | some e => exact (h.entry e he).comma_notMem

theorem trim_eq (h : p.WellFormed) : trim p.text.toList = (p.entry.getD "").toList := by
  rw [toList_text]
  cases he : p.entry with
  | none =>
    apply Blank.trim_eq
    intro c hc
    simp only [Option.getD_none, String.toList_empty, List.append_nil, List.mem_append] at hc
    exact hc.elim (h.before c) (h.after c)
  | some e => exact (h.entry e he).trimmed.trim_around h.before h.after

end WellFormed

/-- Every part of a text without commas in it is such a piece. -/
theorem exists_of_part {cs : List Char} (h : ',' ∉ cs) :
    ∃ p : Piece, p.WellFormed ∧ p.text.toList = cs := by
  obtain ⟨before, after, hbefore, hafter, heq⟩ := exists_around_trim cs
  by_cases hne : trim cs = []
  · refine ⟨⟨String.ofList before, none, String.ofList after⟩, ⟨?_, nofun, ?_⟩, ?_⟩
    · rwa [String.toList_ofList]
    · rwa [String.toList_ofList]
    · rw [toList_text, String.toList_ofList, String.toList_ofList, heq, hne]
      rfl
  · have hcomma : ',' ∉ trim cs := by
      intro hmem
      apply h
      rw [heq]
      exact List.mem_append_left after (List.mem_append_right before hmem)
    refine ⟨⟨String.ofList before, some (String.ofList (trim cs)), String.ofList after⟩,
      ⟨?_, fun e he => ?_, ?_⟩, ?_⟩
    · rwa [String.toList_ofList]
    · cases he
      refine ⟨?_, ?_⟩
      · rw [String.toList_ofList]
        exact trimmed_trim hne
      · rwa [String.toList_ofList]
    · rwa [String.toList_ofList]
    · rw [toList_text, String.toList_ofList, Option.getD_some, String.toList_ofList,
        String.toList_ofList, ← heq]

theorem exists_of_parts {parts : List (List Char)} (h : ∀ part ∈ parts, ',' ∉ part) :
    ∃ pieces : List Piece, (∀ p ∈ pieces, p.WellFormed) ∧
      (pieces.map fun p => p.text.toList) = parts := by
  induction parts with
  | nil => exact ⟨[], by simp, rfl⟩
  | cons part parts ih =>
    obtain ⟨p, hp, htext⟩ := exists_of_part (h part List.mem_cons_self)
    obtain ⟨pieces, hpieces, htexts⟩ := ih fun q hq => h q (List.mem_cons_of_mem _ hq)
    refine ⟨p :: pieces, List.forall_mem_cons.mpr ⟨hp, hpieces⟩, ?_⟩
    rw [List.map_cons, htext, htexts]

end Piece

/-- The text of a list, part by part. -/
def joinPieces (pieces : List Piece) : String := ",".intercalate (pieces.map Piece.text)

theorem toList_joinPieces (pieces : List Piece) :
    (joinPieces pieces).toList = [','].intercalate (pieces.map fun p => p.text.toList) := by
  unfold joinPieces
  rw [String.toList_intercalate, List.map_map]
  rfl

theorem filter_trimmed {pieces : List Piece} (h : ∀ p ∈ pieces, p.WellFormed) :
    (((pieces.map fun p => p.text.toList).map trim).filter fun cs => !cs.isEmpty).map
      String.ofList = pieces.filterMap Piece.entry := by
  -- part by part: a part without an entry is trimmed to nothing and left out on both sides
  induction pieces with
  | nil => rfl
  | cons p pieces ih =>
    have hp := h p List.mem_cons_self
    have hrest := ih fun q hq => h q (List.mem_cons_of_mem _ hq)
    rw [List.map_cons, List.map_cons, hp.trim_eq]
    cases he : p.entry with
    | none =>
      rw [List.filter_cons_of_neg (by simp), List.filterMap_cons_none he]
      exact hrest
    | some e =>
      have hne : e.toList ≠ [] := (hp.entry e he).trimmed.ne_nil
      rw [Option.getD_some, List.filter_cons_of_pos (by simpa using hne), List.map_cons,
        List.filterMap_cons_some he, String.ofList_toList, hrest]

theorem parseCommaList_joinPieces {pieces : List Piece} (h : ∀ p ∈ pieces, p.WellFormed) :
    parseCommaList (joinPieces pieces) = pieces.filterMap Piece.entry := by
  cases pieces with
  | nil => rfl
  | cons p pieces =>
    have hsplit : splitCommas (joinPieces (p :: pieces)).toList =
        (p :: pieces).map fun q => q.text.toList := by
      rw [toList_joinPieces]
      apply splitCommas_intercalate
      · simp
      · intro part hpart
        obtain ⟨q, hq, rfl⟩ := List.mem_map.mp hpart
        exact (h q hq).notMem_comma
    unfold parseCommaList commaEntries
    rw [hsplit]
    exact filter_trimmed h

theorem parseCommaList_intercalate {entries : List String} (h : ∀ entry ∈ entries, IsEntry entry) :
    parseCommaList (",".intercalate entries) = entries := by
  have hpieces : ∀ p ∈ entries.map Piece.ofEntry, p.WellFormed := by
    intro p hp
    obtain ⟨entry, hentry, rfl⟩ := List.mem_map.mp hp
    exact Piece.wellFormed_ofEntry (h entry hentry)
  have hparse := parseCommaList_joinPieces hpieces
  have htexts : (entries.map Piece.ofEntry).map Piece.text = entries := by
    rw [List.map_map]
    exact List.map_id'' Piece.text_ofEntry entries
  have hentries : (entries.map Piece.ofEntry).filterMap Piece.entry = entries := by
    rw [List.filterMap_map]
    exact List.filterMap_some
  rwa [joinPieces, htexts, hentries] at hparse

theorem exists_pieces (s : String) :
    ∃ pieces : List Piece, (∀ p ∈ pieces, p.WellFormed) ∧ s = joinPieces pieces := by
  obtain ⟨pieces, hpieces, htexts⟩ :=
    Piece.exists_of_parts fun part (h : part ∈ splitCommas s.toList) => notMem_of_mem_splitCommas h
  refine ⟨pieces, hpieces, ?_⟩
  rw [← String.toList_inj, toList_joinPieces, htexts, intercalate_splitCommas]

/-! ### Which texts write a list -/

/-- A list is written as its parts are, with commas between them; only entries are in it; and the
texts that write it are exactly its entries in order, joined with commas, with any white space
around them and any number of parts without an entry.  So a list that is joined and read again is
the same list. -/
theorem lists_written_with_commas :
    (∀ a b : String, parseCommaList (a ++ "," ++ b) = parseCommaList a ++ parseCommaList b) ∧
    (∀ s : String, ∀ entry ∈ parseCommaList s, IsEntry entry) ∧
    (∀ (s : String) (entries : List String), parseCommaList s = entries ↔
      ∃ pieces : List Piece, (∀ p ∈ pieces, p.WellFormed) ∧ s = joinPieces pieces ∧
        pieces.filterMap Piece.entry = entries) ∧
    (∀ entries : List String, (∀ entry ∈ entries, IsEntry entry) →
      parseCommaList (",".intercalate entries) = entries) ∧
    ∀ s : String, parseCommaList (",".intercalate (parseCommaList s)) = parseCommaList s := by
  refine ⟨parseCommaList_append, fun s entry => isEntry_of_mem, ?_,
    fun entries => parseCommaList_intercalate, ?_⟩
  · intro s entries
    constructor
    · rintro rfl
      obtain ⟨pieces, hpieces, rfl⟩ := exists_pieces s
      exact ⟨pieces, hpieces, rfl, (parseCommaList_joinPieces hpieces).symm⟩
    · rintro ⟨pieces, hpieces, rfl, rfl⟩
      exact parseCommaList_joinPieces hpieces
  · intro s
    exact parseCommaList_intercalate fun entry => isEntry_of_mem

/-- White space that is not that of ASCII, empty parts, and a space within an entry. -/
theorem lists_written_with_commas_spaced :
    IsEntry "net" ∧ IsEntry "two words" ∧
      parseCommaList " net\t,\u2003,,two words\u00A0" = ["net", "two words"] ∧
      parseCommaList (",".intercalate ["net", "two words"]) = ["net", "two words"] := by
  obtain ⟨-, -, hiff, hjoin, -⟩ := lists_written_with_commas
  have hnet : IsEntry "net" := ⟨⟨by decide, by decide, by decide⟩, by decide⟩
  have hwords : IsEntry "two words" := ⟨⟨by decide, by decide, by decide⟩, by decide⟩
  refine ⟨hnet, hwords, (hiff _ _).mpr ?_, hjoin _ ?_⟩
  · refine ⟨[⟨" ", some "net", "\t"⟩, ⟨"\u2003", none, ""⟩, ⟨"", none, ""⟩,
      ⟨"", some "two words", "\u00A0"⟩], ?_, by decide, rfl⟩
    simp only [List.forall_mem_cons, List.not_mem_nil, false_imp_iff, implies_true, and_true]
    refine ⟨⟨by decide, ?_, by decide⟩, ⟨by decide, nofun, by decide⟩,
      ⟨by decide, nofun, by decide⟩, ⟨by decide, ?_, by decide⟩⟩
    · rintro e he
      cases he
      exact hnet
    · rintro e he
      cases he
      exact hwords
  · simp [hnet, hwords]

end MetricScraper.Text
