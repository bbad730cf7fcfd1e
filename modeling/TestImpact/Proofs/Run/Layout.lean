import TestImpact.Proofs.Files.Tree
import TestImpact.Proofs.NodeList
import TestImpact.Proofs.Record.Groups
import TestImpact.Proofs.Run.Reading
import TestImpact.Proofs.Text
import TestImpact.Text
import Mathlib.Data.List.Basic

/-! Texts that are laid out in another way are read as the same. -/
namespace TestImpact.Text

/-! ## Lines

The layout of a text: how its lines end, and the blank lines between them. A carriage return in
front of each newline changes no line, and blank lines change none of the others. -/

section Lines
/-- The text with a carriage return in front of each newline. -/
def withReturns (s : List Char) : List Char :=
  s.flatMap fun c => if c = '\n' then ['\r', '\n'] else [c]

/-- The second text is the first with blank lines in front of some of its lines. -/
inductive Spaced : List Char → List Char → Prop
  | same (s : List Char) : Spaced s s
  | line {s t : List Char} (l : List Char) (h : Spaced s t) :
      Spaced (l ++ '\n' :: s) (l ++ '\n' :: t)
  | blank {s t : List Char} (l : List Char) (hline : '\n' ∉ l) (hblank : allBlank l = true)
      (h : Spaced s t) : Spaced s (l ++ '\n' :: t)

variable {l s t : List Char}

/-- A newline finishes the lines before it. -/
theorem lines_append_newline (l s : List Char) :
    lines (l ++ '\n' :: s) = (splitOn '\n' l).map dropReturn ++ lines s := by
  have hne : splitOn '\n' s ≠ [] := splitOn_ne_nil '\n' s
  have hsplit : splitOn '\n' (l ++ '\n' :: s) = splitOn '\n' l ++ splitOn '\n' s := by
    simp only [splitOn_eq, List.splitOn_append_cons_self]
  rw [lines, hsplit, List.dropLast_append_of_ne_nil hne, List.map_append,
    List.getLast?_append_of_ne_nil _ hne, List.append_assoc, ← lines]

theorem lines_cons_line (hline : '\n' ∉ l) (s : List Char) :
    lines (l ++ '\n' :: s) = dropReturn l :: lines s := by
  rw [lines_append_newline, splitOn_eq, List.splitOn_eq_singleton hline]
  rfl

/-! ### Line ends -/

theorem withReturns_of_not_mem (h : '\n' ∉ s) : withReturns s = s := by
  induction s with
  | nil => rfl
  | cons c rest ih =>
    obtain ⟨hc, hrest⟩ := List.ne_and_not_mem_of_not_mem_cons h
    rw [withReturns, List.flatMap_cons, if_neg hc.symm, ← withReturns, ih hrest]
    rfl

theorem withReturns_append_newline (hline : '\n' ∉ l) (s : List Char) :
    withReturns (l ++ '\n' :: s) = (l ++ ['\r']) ++ '\n' :: withReturns s := by
  have hl : withReturns l = l := withReturns_of_not_mem hline
  rw [withReturns] at hl ⊢
  rw [List.flatMap_append, hl, List.flatMap_cons, ← withReturns]
  simp

/-- The carriage return of a line end is no part of the line. -/
theorem dropReturn_append_return (l : List Char) : dropReturn (l ++ ['\r']) = l := by
  rw [dropReturn, List.getLast?_concat, if_pos rfl, List.dropLast_concat]

theorem lines_withReturns (h : '\r' ∉ s) : lines (withReturns s) = lines s := by
  induction hlength : s.length using Nat.strongRecOn generalizing s with
  | ind n ih =>
    by_cases hnewline : '\n' ∈ s
    · obtain ⟨l, rest, rfl, hl⟩ := List.eq_append_cons_of_mem hnewline
      obtain ⟨hreturn, hrest⟩ : '\r' ∉ l ∧ '\r' ∉ rest := by simpa using h
      have hlast : l.getLast? ≠ some '\r' := fun he => hreturn (List.mem_of_getLast? he)
      have hlonger : '\n' ∉ l ++ ['\r'] := by simpa using hl
      have hshort : rest.length < n := by
        rw [← hlength, List.length_append, List.length_cons]
        omega
      rw [withReturns_append_newline hl, lines_cons_line hlonger, lines_cons_line hl,
        dropReturn_append_return, dropReturn_of_getLast? hlast, ih _ hshort hrest rfl]
    · rw [withReturns_of_not_mem hnewline]

/-! ### Blank lines -/

theorem allBlank_dropReturn (h : allBlank l = true) : allBlank (dropReturn l) = true := by
  rw [allBlank, List.all_eq_true] at h ⊢
  exact fun c hc => h c ((isPrefix_dropReturn l).subset hc)

/-- Blank lines leave the other lines as they are. -/
theorem Spaced.filter_lines (h : Spaced s t) :
    ((lines t).filter fun l => !allBlank l) = (lines s).filter fun l => !allBlank l := by
  induction h with
  | same s => rfl
  | line l _ ih =>
    rw [lines_append_newline, lines_append_newline, List.filter_append, List.filter_append, ih]
  | blank l hline hblank _ ih =>
    rw [lines_cons_line hline, List.filter_cons_of_neg (by simp [allBlank_dropReturn hblank]), ih]

end Lines

end TestImpact.Text

namespace TestImpact
open Record Text

/-! ## Readers

Input files that are laid out in another way. Each reader goes by the lines that are not blank, so
what is read does not change with blank lines between the others or carriage returns at their ends.
-/

/-- What the readers make of a text. -/
structure Readings where
  records : List String
  changes : Granularity → ChangeSet
  tests : Universe
  names : List String

def readings (text : String) : Readings where
  records := Record.split text
  changes level := ChangeSet.ofLines level (linesOf text)
  tests := Universe.ofLines (linesOf text)
  names := namesIn text

/-! ### The lines that are not blank -/

theorem filter_linesOf (text : String) :
    ((linesOf text).filter fun line => !isBlankLine line) =
      (fullLines text).map String.ofList := by
  rw [linesOf, fullLines, List.filter_map]
  refine congrArg (List.map String.ofList) (List.filter_congr fun l _ => ?_)
  rw [Function.comp_apply, isBlankLine, String.toList_ofList]

theorem NodeList.read_linesOf (level : Granularity) (text : String) :
    read level (linesOf text) = read level ((fullLines text).map String.ofList) := by
  rw [← filter_linesOf, read, read, List.filter_filter]
  simp only [Bool.and_self]

/-- A trimmed line is empty if the line is blank. -/
theorem isEmpty_trimmed (line : String) : (trimmed line).isEmpty = isBlankLine line := by
  rw [Bool.eq_iff_iff, String.isEmpty_iff, trimmed, ← String.toList_eq_nil_iff,
    String.toList_ofList, trim_eq_nil_iff, isBlankLine, allBlank, List.all_eq_true]

theorem namesIn_eq (text : String) :
    namesIn text = ((fullLines text).map String.ofList).map trimmed := by
  rw [namesIn, List.filter_map, ← filter_linesOf]
  refine congrArg (List.map trimmed) (List.filter_congr fun line _ => ?_)
  rw [Function.comp_apply, isEmpty_trimmed]

/-- Texts are read alike if they agree on the lines that are not blank. -/
theorem readings_congr {text text' : String} (h : fullLines text = fullLines text') :
    readings text = readings text' := by
  have hnodes (level : Granularity) :
      NodeList.read level (linesOf text) = NodeList.read level (linesOf text') := by
    rw [NodeList.read_linesOf, h, ← NodeList.read_linesOf]
  have hsplit : Record.split text = Record.split text' :=
    congrArg (fun lines => (groups lines).map fun g => String.ofList (List.intercalate ['\n'] g)) h
  have hnames : namesIn text = namesIn text' := by rw [namesIn_eq, h, ← namesIn_eq]
  simp only [readings, ChangeSet.ofLines, Universe.ofLines, hsplit, hnodes, hnames]

/-! ### Files -/

/-- The path leads to a file that holds the text. -/
def Session.Holds (s : Session) (path text : String) : Prop := s.read path = some text.toUTF8

section Files
variable {s : Session} {path text : String} {input : InputKind}

theorem Session.Holds.textOf? (h : s.Holds path text) : textOf? (s.read path) = some text := by
  rw [h, TestImpact.textOf?, Option.bind_some, String.toUTF8_eq_toByteArray, String.fromUTF8?,
    dif_pos text.isValidUTF8]
  rfl

theorem Session.Holds.text_eq (h : s.Holds path text) : s.text path = text := by
  rw [Session.text, h.textOf?, Option.getD_some]

theorem Session.Holds.firstFault_eq (h : s.Holds path text) :
    firstFault (s.fileChecks input path) = none := by
  have hfile : s.isFile path = true := by rw [isFile_eq, h, Option.isSome_some]
  simp [fileChecks, hfile, h.textOf?]

/-- What is read from a file that holds a text is made of the text. -/
theorem Session.Holds.on_eq {α : Type} {a : Act α} {v : String → α} (h : s.Holds path text)
    (ha : Act.Reads a s (s.fileChecks input path) (v (s.text path))) :
    (Act.on a s).1 = .ok (v text) := by
  obtain ⟨log, hon⟩ := ha.on_eq
  rw [hon, answer, h.firstFault_eq, h.text_eq]

/-- Each reader of a file answers what it makes of the text in it. -/
theorem on_readers_of_holds (h : s.Holds path text) :
    (Act.on (readRecords path) s).1 = .ok (readings text).records ∧
      (∀ level, (Act.on (readChanges path level) s).1 = .ok ((readings text).changes level)) ∧
      (Act.on (readTests path) s).1 = .ok (readings text).tests ∧
      (Act.on (readNames path) s).1 = .ok (readings text).names := by
  refine ⟨?_, fun level => ?_, ?_, ?_⟩
  · exact h.on_eq (v := Record.split) reads_readRecords
  · exact h.on_eq (v := fun text => ChangeSet.ofLines level (linesOf text)) reads_readChanges
  · exact h.on_eq (v := fun text => Universe.ofLines (linesOf text)) reads_readTests
  · exact h.on_eq (v := namesIn) reads_readNames

end Files

/-! ### Other layouts -/

/-- Carriage returns in front of the newlines of a text without them, and blank lines between the
lines of any text, do not change what the text is read as; and the readers of files answer what the
texts in them are read as. -/
theorem readings_of_layout (text : String) :
    ('\r' ∉ text.toList → readings (String.ofList (withReturns text.toList)) = readings text) ∧
      (∀ text' : String, Spaced text.toList text'.toList → readings text' = readings text) ∧
      ∀ (s : Session) (path : String), s.Holds path text →
        (Act.on (readRecords path) s).1 = .ok (readings text).records ∧
          (∀ level, (Act.on (readChanges path level) s).1 = .ok ((readings text).changes level)) ∧
          (Act.on (readTests path) s).1 = .ok (readings text).tests ∧
          (Act.on (readNames path) s).1 = .ok (readings text).names := by
  refine ⟨fun h => ?_, fun text' h => ?_, fun s path h => on_readers_of_holds h⟩
  · apply readings_congr
    rw [fullLines, String.toList_ofList, lines_withReturns h, fullLines]
  · apply readings_congr
    exact h.filter_lines

/-- Blank lines before, inside and behind a record of two lines, and carriage returns at the ends of
the lines. -/
theorem readings_of_layout_of_record :
    let text := "Lp/A p.A.f()V\n - x\nLB\n"
    let spaced := "\u2003\nLp/A p.A.f()V\n\t\r\n - x\n\nLB\n"
    let s := Session.ofTree (FileTree.empty.put [] "c" (.file text.toUTF8))
    '\r' ∉ text.toList ∧ Spaced text.toList spaced.toList ∧ s.Holds "c" text ∧
      (readings text).records = ["Lp/A p.A.f()V\n - x", "LB"] ∧
      readings "Lp/A p.A.f()V\r\n - x\r\nLB\r\n" = readings text ∧
      readings spaced = readings text ∧
      (Act.on (readNames "c") s).1 = .ok (readings text).names := by
  intro text spaced s
  have hreturn : '\r' ∉ text.toList := by decide +kernel
  have hreturns : String.ofList (withReturns text.toList) =
      "Lp/A p.A.f()V\r\n - x\r\nLB\r\n" := by decide +kernel
  have hrecords : (readings text).records = ["Lp/A p.A.f()V\n - x", "LB"] := by decide +kernel
  have hholds : s.Holds "c" text := by
    show s.read "c" = some text.toUTF8
    decide +kernel
  have hspaced : Spaced text.toList spaced.toList := by
    have htext : text.toList =
        "Lp/A p.A.f()V".toList ++ '\n' :: (" - x".toList ++ '\n' :: "LB\n".toList) := by
      decide +kernel
    have hlonger : spaced.toList = ['\u2003'] ++ '\n' :: ("Lp/A p.A.f()V".toList ++ '\n' ::
        (['\t', '\r'] ++ '\n' :: (" - x".toList ++ '\n' :: ([] ++ '\n' :: "LB\n".toList)))) := by
      decide +kernel
    rw [htext, hlonger]
    refine .blank _ (by decide) (by decide) (.line _ ?_)
    refine .blank _ (by decide) (by decide) (.line _ ?_)
    exact .blank _ (by decide) (by decide) (.same _)
  clear_value text spaced s
  obtain ⟨hread, hblank, hfile⟩ := readings_of_layout text
  refine ⟨hreturn, hspaced, hholds, hrecords, ?_, hblank spaced hspaced, ?_⟩
  · rw [← hreturns]
    exact hread hreturn
  · exact (hfile s "c" hholds).2.2.2

end TestImpact
