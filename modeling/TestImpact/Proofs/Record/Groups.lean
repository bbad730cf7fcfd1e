import TestImpact.Proofs.Text
import TestImpact.Record

/-!
Lines in groups. Grouping loses no line and moves none, and there is only one way to do it: so a
text falls apart into records in just one way.
-/
namespace TestImpact.Record
open Text

/-- Put a line before lines in groups, those of them that no line has opened yet on the left. -/
def addLine (line : List Char) (p : List (List Char) × List (List (List Char))) :
    List (List Char) × List (List (List Char)) :=
  if startsBlank line then (line :: p.1, p.2) else ([], (line :: p.1) :: p.2)

theorem groups_eq (lines : List (List Char)) : groups lines =
    let p := lines.foldr addLine ([], [])
    if p.1.isEmpty then p.2 else p.1 :: p.2 := rfl

theorem foldr_addLine_of_startsBlank {more : List (List Char)}
    (h : ∀ line ∈ more, startsBlank line = true) (closed : List (List (List Char))) :
    more.foldr addLine ([], closed) = (more, closed) := by
  induction more with
  | nil => rfl
  | cons line rest ih =>
    obtain ⟨hline, hrest⟩ := List.forall_mem_cons.mp h
    rw [List.foldr_cons, ih hrest, addLine, if_pos hline]

/-- A group that opens with a line of its own and goes on with blank starts. -/
def IsGroup (l : List (List Char)) : Prop :=
  ∃ first more, l = first :: more ∧ startsBlank first = false ∧ ∀ x ∈ more, startsBlank x = true

theorem foldr_addLine_flatten {ls : List (List (List Char))} (h : ∀ l ∈ ls, IsGroup l) :
    ls.flatten.foldr addLine ([], []) = ([], ls) := by
  induction ls with
  | nil => rfl
  | cons l rest ih =>
    obtain ⟨⟨first, more, rfl, hfirst, hmore⟩, hrest⟩ := List.forall_mem_cons.mp h
    rw [List.flatten_cons, List.foldr_append, ih hrest, List.foldr_cons,
      foldr_addLine_of_startsBlank hmore, addLine, if_neg (Bool.eq_false_iff.mp hfirst)]

/-- Lines that were written in groups are found in these groups again. -/
theorem groups_flatten {ls : List (List (List Char))} (h : ∀ l ∈ ls, IsGroup l) :
    groups ls.flatten = ls := by
  rw [groups_eq, foldr_addLine_flatten h]
  rfl

/-! ### The only grouping -/

section Groups
variable {line : List Char} {lines g : List (List Char)} {gs : List (List (List Char))}
  {p : List (List Char) × List (List (List Char))}

theorem IsGroup.ne_nil (h : IsGroup g) : g ≠ [] := by
  obtain ⟨first, more, rfl, -, -⟩ := h
  exact List.cons_ne_nil _ _

theorem IsGroup.opened (h : IsGroup g) : ∀ line ∈ g.head?, startsBlank line = false := by
  obtain ⟨first, more, rfl, hfirst, -⟩ := h
  intro line hline
  cases hline
  exact hfirst

theorem IsGroup.continued (h : IsGroup g) : ∀ line ∈ g.tail, startsBlank line = true := by
  obtain ⟨first, more, rfl, -, hmore⟩ := h
  exact hmore

/-- The lines, as far as they are grouped: first those that no line has opened. -/
structure Splits (lines : List (List Char)) (p : List (List Char) × List (List (List Char))) :
    Prop where
  lines_eq : p.1 ++ p.2.flatten = lines
  leading : ∀ line ∈ p.1, startsBlank line = true
  closed : ∀ g ∈ p.2, IsGroup g

theorem Splits.addLine (h : Splits lines p) (line : List Char) :
    Splits (line :: lines) (addLine line p) := by
  unfold Record.addLine
  cases hline : startsBlank line with
  | true =>
    refine ⟨?_, List.forall_mem_cons.mpr ⟨hline, h.leading⟩, h.closed⟩
    simp [← h.lines_eq]
  | false =>
    refine ⟨?_, by simp, List.forall_mem_cons.mpr ⟨⟨line, p.1, rfl, hline, h.leading⟩, h.closed⟩⟩
    simp [← h.lines_eq]

theorem splits_foldr_addLine (lines : List (List Char)) :
    Splits lines (lines.foldr addLine ([], [])) := by
  induction lines with
  | nil => exact ⟨rfl, by simp, by simp⟩
  | cons line rest ih => exact ih.addLine line

/-- The groups hold the lines in order. A line that starts with a blank goes on with its group, and
any other one opens a group; the first group opens with the first line. -/
structure IsGrouping (lines : List (List Char)) (gs : List (List (List Char))) : Prop where
  flatten_eq : gs.flatten = lines
  ne_nil : ∀ g ∈ gs, g ≠ []
  continued : ∀ g ∈ gs, ∀ line ∈ g.tail, startsBlank line = true
  opened : ∀ g ∈ gs.tail, ∀ line ∈ g.head?, startsBlank line = false

theorem isGrouping_groups (lines : List (List Char)) : IsGrouping lines (groups lines) := by
  have hsplits := splits_foldr_addLine lines
  rw [groups_eq]
  generalize lines.foldr addLine ([], []) = p at hsplits ⊢
  obtain ⟨leading, closed⟩ := p
  obtain ⟨hlines, hleading, hclosed⟩ := hsplits
  cases leading with
  | nil =>
    refine ⟨hlines, fun g hg => (hclosed g hg).ne_nil, fun g hg => (hclosed g hg).continued, ?_⟩
    exact fun g hg => (hclosed g (List.mem_of_mem_tail hg)).opened
  | cons first more =>
    have hmore : ∀ line ∈ more, startsBlank line = true := (List.forall_mem_cons.mp hleading).2
    refine ⟨hlines, ?_, ?_, fun g hg => (hclosed g hg).opened⟩
    · exact List.forall_mem_cons.mpr ⟨List.cons_ne_nil _ _, fun g hg => (hclosed g hg).ne_nil⟩
    · exact List.forall_mem_cons.mpr ⟨hmore, fun g hg => (hclosed g hg).continued⟩

theorem IsGrouping.groups_eq (h : IsGrouping lines gs) : groups lines = gs := by
  obtain ⟨rfl, hne, hcontinued, hopened⟩ := h
  cases gs with
  | nil => rfl
  | cons g rest =>
    obtain ⟨hg, hrestne⟩ := List.forall_mem_cons.mp hne
    obtain ⟨hmore, hrestmore⟩ := List.forall_mem_cons.mp hcontinued
    obtain ⟨first, more, rfl⟩ := List.exists_cons_of_ne_nil hg
    have hrest : ∀ l ∈ rest, IsGroup l := by
      intro l hl
      obtain ⟨first, more, rfl⟩ := List.exists_cons_of_ne_nil (hrestne l hl)
      exact ⟨first, more, rfl, hopened _ hl _ rfl, hrestmore _ hl⟩
    cases hfirst : startsBlank first with
    | false =>
      have hgroup : IsGroup (first :: more) := ⟨first, more, rfl, hfirst, hmore⟩
      exact groups_flatten (List.forall_mem_cons.mpr ⟨hgroup, hrest⟩)
    | true =>
      have hleading : ∀ line ∈ first :: more, startsBlank line = true :=
        List.forall_mem_cons.mpr ⟨hfirst, hmore⟩
      rw [Record.groups_eq, List.flatten_cons, List.foldr_append, foldr_addLine_flatten hrest,
        foldr_addLine_of_startsBlank hleading]
      rfl

end Groups

/-! ### The only way to split -/

/-- The lines of a text that are not blank. -/
def fullLines (text : String) : List (List Char) :=
  (lines text.toList).filter fun l => !allBlank l

/-- The lines that a record is joined from. -/
def linesIn (record : String) : List (List Char) := splitOn '\n' record.toList

/-- The records hold all lines of the text that are not blank, in order. In a record each line after
the first starts with a blank, and no record but the first does so itself. -/
structure IsSplit (text : String) (records : List String) : Prop where
  lines_eq : records.flatMap linesIn = fullLines text
  continued : ∀ r ∈ records, ∀ line ∈ (linesIn r).tail, startsBlank line = true
  opened : ∀ r ∈ records.tail, ∃ c, r.toList.head? = some c ∧ isBlank c = false
  first : ∀ r ∈ records.head?, startsBlank r.toList = true →
    ∀ line ∈ (fullLines text).head?, startsBlank line = true

theorem intercalate_cons (line : List Char) (lines : List (List Char)) :
    List.intercalate ['\n'] (line :: lines) = line ++ lines.flatMap ('\n' :: ·) := by
  induction lines generalizing line with
  | nil => simp
  | cons next rest ih => rw [List.intercalate_cons_cons, ih]; simp

theorem ofList_intercalate_linesIn (record : String) :
    String.ofList (List.intercalate ['\n'] (linesIn record)) = record := by
  rw [linesIn, intercalate_splitOn, String.ofList_toList]

theorem newline_not_mem_of_mem_fullLines {text : String} {line : List Char}
    (h : line ∈ fullLines text) : '\n' ∉ line :=
  newline_not_mem_of_mem_lines (List.mem_filter.mp h).1

theorem ne_nil_of_mem_fullLines {text : String} {line : List Char} (h : line ∈ fullLines text) :
    line ≠ [] := by
  rintro rfl
  simp [fullLines, allBlank] at h

/-- The lines of the records that a text is split into are its groups of lines. -/
theorem map_linesIn_split (text : String) :
    (split text).map linesIn = groups (fullLines text) := by
  have hgroups := isGrouping_groups (fullLines text)
  rw [split, List.map_map]
  refine (List.map_congr_left fun g hg => ?_).trans (List.map_id _)
  have hlines : ∀ l ∈ g, '\n' ∉ l := by
    intro l hl
    have hfull : l ∈ fullLines text := by
      rw [← hgroups.flatten_eq]
      exact List.mem_flatten.mpr ⟨g, hg, hl⟩
    exact newline_not_mem_of_mem_fullLines hfull
  rw [Function.comp_apply, linesIn, String.toList_ofList, splitOn_eq,
    List.splitOn_intercalate _ hlines (hgroups.ne_nil g hg), id]

variable {text : String} {records : List String}

/-- Where the lines of records are full lines of a text, a record starts as its first line does. -/
theorem head?_of_lines_eq (h : records.flatMap linesIn = fullLines text) {r : String}
    (hr : r ∈ records) :
    ∃ c rest more, linesIn r = (c :: rest) :: more ∧ r.toList.head? = some c := by
  obtain ⟨first, more, hlines⟩ := List.exists_cons_of_ne_nil (splitOn_ne_nil '\n' r.toList)
  have hmem : first ∈ fullLines text := by
    rw [← h]
    exact List.mem_flatMap.mpr ⟨r, hr, by rw [linesIn, hlines]; exact List.mem_cons_self⟩
  obtain ⟨c, rest, rfl⟩ := List.exists_cons_of_ne_nil (ne_nil_of_mem_fullLines hmem)
  refine ⟨c, rest, more, hlines, ?_⟩
  rw [← intercalate_splitOn '\n' r.toList, hlines, intercalate_cons]
  rfl

theorem IsSplit.isGrouping (h : IsSplit text records) :
    IsGrouping (fullLines text) (records.map linesIn) where
  flatten_eq := by rw [← List.flatMap_def, h.lines_eq]
  ne_nil := List.forall_mem_map.mpr fun r _ => splitOn_ne_nil '\n' r.toList
  continued := List.forall_mem_map.mpr h.continued
  opened := by
    rw [← List.map_tail, List.forall_mem_map]
    intro r hr line hline
    obtain ⟨c, rest, more, hlines, hhead⟩ := head?_of_lines_eq h.lines_eq (List.mem_of_mem_tail hr)
    obtain ⟨d, hd, hblank⟩ := h.opened r hr
    rw [hlines] at hline
    cases hline
    cases hhead.symm.trans hd
    exact hblank

theorem isSplit_of_isGrouping (h : IsGrouping (fullLines text) (records.map linesIn)) :
    IsSplit text records := by
  have hlines : records.flatMap linesIn = fullLines text := by rw [List.flatMap_def, h.flatten_eq]
  refine ⟨hlines, List.forall_mem_map.mp h.continued, ?_, ?_⟩
  · have hopened := h.opened
    rw [← List.map_tail, List.forall_mem_map] at hopened
    intro r hr
    obtain ⟨c, rest, more, hr', hhead⟩ := head?_of_lines_eq hlines (List.mem_of_mem_tail hr)
    exact ⟨c, hhead, hopened r hr (c :: rest) (by rw [hr']; rfl)⟩
  · intro r hr hblank line hline
    obtain ⟨more, rfl⟩ := List.head?_eq_some_iff.mp hr
    obtain ⟨c, rest, more, hr', hhead⟩ := head?_of_lines_eq hlines List.mem_cons_self
    rw [← hlines, List.flatMap_cons, hr'] at hline
    cases hline
    rwa [startsBlank, hhead] at hblank

/-- Splitting a text loses, doubles and moves no line but the blank ones, and it is the only way to
bring the lines together with those that continue them. -/
theorem split_eq_iff (text : String) (records : List String) :
    split text = records ↔ IsSplit text records := by
  constructor
  · rintro rfl
    apply isSplit_of_isGrouping
    rw [map_linesIn_split]
    exact isGrouping_groups _
  · intro h
    have hgroups : groups (fullLines text) = records.map linesIn := h.isGrouping.groups_eq
    show (groups (fullLines text)).map _ = records
    rw [hgroups, List.map_map]
    refine (List.map_congr_left fun r _ => ?_).trans (List.map_id _)
    exact ofList_intercalate_linesIn r

end TestImpact.Record
