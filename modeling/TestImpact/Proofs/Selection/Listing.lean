import TestImpact.Proofs.NodeList
import TestImpact.Proofs.Selection.Members
import TestImpact.Proofs.Text
import TestImpact.Selection

/-! The listing of a selection: read back it is the selection, and its lines ascend. -/
namespace TestImpact
open Std

/-! ## Reading back

The selection read back from its file. Tests that were found in lines can be written on lines, so
each selected test has a line of its own and is found in it again. -/

theorem newline_not_mem_of_mem_linesOf {line text : String} (h : line ∈ linesOf text) :
    '\n' ∉ line.toList := by
  obtain ⟨l, hl, rfl⟩ := List.mem_map.mp h
  simpa using Text.newline_not_mem_of_mem_lines hl

/-- A node with a line of its own: what was found in a line. -/
structure Node.OnLine (n : Node) : Prop where
  readable : n.Readable
  method : n.granularity = .method
  newline_not_mem : '\n' ∉ n.text.toList

theorem Universe.onLine_of_mem {text : String} {t : Node} (h : t ∈ ofLines (linesOf text)) :
    t.OnLine := by
  obtain ⟨line, hline, -, hparse⟩ := NodeList.mem_nodes_read.mp h
  obtain ⟨hreadable, hlevel⟩ := Node.readable_of_parse hparse
  exact ⟨hreadable, hlevel, Node.newline_not_mem_text hparse (newline_not_mem_of_mem_linesOf hline)⟩

namespace Selection
variable {s : Selection}

/-- No test is selected that is not known, whatever the graphs are. -/
theorem mem_of_mem_tests {graphs : Graphs} {tests : Universe} {m : ClassMatch}
    {names : List String} {changes : ChangeSet} {t : Node}
    (h : t ∈ (select graphs tests m names changes).tests) : t ∈ tests := by
  unfold select at h
  split at h
  · exact (mem_tests_ofMethods.mp h).1
  · exact (mem_tests_ofClasses.mp h).1

/-- Each line of the file is finished by a newline. -/
theorem toList_text (s : Selection) :
    s.text.toList = (s.lines.map String.toList).flatMap fun l => l ++ ['\n'] := by
  simp [text, List.flatMap_map]

/-- The lines of the file are those that were written. -/
theorem linesOf_text (h : ∀ t ∈ s.tests, t.OnLine) : linesOf s.text = s.lines := by
  rw [linesOf, toList_text, Text.lines_flatMap, List.map_map]
  · exact (List.map_congr_left fun _ _ => String.ofList_toList).trans (List.map_id _)
  · intro l hl
    obtain ⟨_, hline, rfl⟩ := List.mem_map.mp hl
    obtain ⟨t, ht, rfl⟩ := List.mem_map.mp hline
    have honLine := h t (ExtTreeSet.mem_toList.mp ht)
    refine ⟨honLine.newline_not_mem, fun hlast => ?_⟩
    -- a carriage return is a blank, and no blank ends the line
    exact absurd (honLine.readable.isTrimmed_text.last _ hlast) (by decide)

theorem map_parse_lines (h : ∀ t ∈ s.tests, t.OnLine) :
    s.lines.map (Node.parse · .method) = s.tests.toList.map .ok := by
  rw [lines, List.map_map]
  refine List.map_congr_left fun t ht => ?_
  have honLine := h t (ExtTreeSet.mem_toList.mp ht)
  exact honLine.method ▸ Node.parse_text honLine.readable

/-- The lines are those of the selected tests, and are read as these tests, one by one and as a
whole: as a list of methods, as known tests and as changes. -/
structure ReadBack (s : Selection) (lines : List String) : Prop where
  length_eq : lines.length = s.tests.size
  nodup : lines.Nodup
  map_parse_eq : lines.map (Node.parse · .method) = s.tests.toList.map .ok
  read_eq : NodeList.read .method lines = ⟨s.tests, []⟩
  universe_eq : Universe.ofLines lines = s.tests
  changes_eq : ChangeSet.ofLines .method lines = ⟨.method, s.tests, 0⟩

theorem readBack_of_onLine (h : ∀ t ∈ s.tests, t.OnLine) : s.ReadBack (linesOf s.text) := by
  have hparse := map_parse_lines h
  have hread : NodeList.read .method s.lines = ⟨s.tests, []⟩ := by
    rw [NodeList.read_of_map_parse hparse, setOfList_toList]
  rw [linesOf_text h]
  constructor
  case length_eq => rw [lines, List.length_map, ExtTreeSet.length_toList]
  case nodup =>
    apply List.Nodup.of_map (Node.parse · .method)
    rw [hparse]
    exact (nodup_toList _).map fun _ _ h => Except.ok.inj h
  case map_parse_eq => exact hparse
  case read_eq => exact hread
  case universe_eq => rw [Universe.ofLines, hread]
  case changes_eq =>
    rw [ChangeSet.ofLines, hread]
    rfl

/-- The file of a selection has a line for each selected test; each line is read as its test, no
two are alike, and the whole is read as the selected tests, as known tests or as changes. -/
theorem read_linesOf_text (graphs : Graphs) (text : String) (m : ClassMatch) (names : List String)
    (changes : ChangeSet) :
    let selection := select graphs (Universe.ofLines (linesOf text)) m names changes
    selection.ReadBack (linesOf selection.text) :=
  readBack_of_onLine fun _ ht => Universe.onLine_of_mem (mem_of_mem_tests ht)

end Selection

/-! ## Order

The order of the lines in a selection file. Tests are listed in node order, by class and then by
member; as texts their lines are in order too, because the space behind a class comes before all
characters of classes. -/

namespace Node
variable {n n' : Node}

theorem compare_eq_lt_iff : compare n n' = .lt ↔ compare n.className n'.className = .lt ∨
    n.className = n'.className ∧ compare n.member n'.member = .lt := by
  show byKeys className member n n' = .lt ↔ _
  rw [byKeys, compareLex, Ordering.then_eq_lt, compareOn, compareOn, Std.compare_eq_iff_eq]

/-- Methods in node order are in text order. -/
theorem text_lt_text (hn : n.granularity = .method) (hn' : n'.granularity = .method)
    (hclass : ∀ c ∈ n'.className.toList, ' ' < c) (h : compare n n' = .lt) : n.text < n'.text := by
  obtain ⟨className, _ | member⟩ := n
  · cases hn
  obtain ⟨className', _ | member'⟩ := n'
  · cases hn'
  rw [String.lt_iff, ← ofMethod, ← ofMethod, toList_text_ofMethod, toList_text_ofMethod]
  rcases compare_eq_lt_iff.mp h with hlt | ⟨rfl, hlt⟩
  · have hless : className < className' := Text.compare_eq_lt_iff.mp hlt
    exact Text.append_cons_lt_append_cons (String.lt_iff.mp hless) hclass _ _
  · have hless : member < member' := Text.compare_eq_lt_iff.mp hlt
    exact List.append_left_lt
      (List.cons_lt_cons_iff.mpr (.inr ⟨rfl, String.lt_iff.mp hless⟩))

end Node

namespace Selection

/-- If all characters of the classes come after the space, the lines of the file ascend strictly;
and they are the lines that a reader of the file finds, if no test holds a newline. -/
theorem lines_ascend (s : Selection) (hmethod : ∀ t ∈ s.tests, t.granularity = .method)
    (hclass : ∀ t ∈ s.tests, ∀ c ∈ t.className.toList, ' ' < c) :
    s.lines.Pairwise (· < ·) ∧
      ((∀ t ∈ s.tests, '\n' ∉ t.text.toList) →
        Text.splitOn '\n' s.text.toList = s.lines.map String.toList ++ [[]]) := by
  constructor
  · rw [lines, List.pairwise_map]
    refine List.Pairwise.imp_of_mem ?_ (ExtTreeSet.ordered_toList (t := s.tests))
    intro t t' ht ht' hlt
    have ht : t ∈ s.tests := ExtTreeSet.mem_toList.mp ht
    have ht' : t' ∈ s.tests := ExtTreeSet.mem_toList.mp ht'
    exact Node.text_lt_text (hmethod t ht) (hmethod t' ht') (hclass t' ht') hlt
  · intro hnewline
    rw [toList_text, Text.splitOn_flatMap]
    intro l hl
    obtain ⟨_, hline, rfl⟩ := List.mem_map.mp hl
    obtain ⟨t, ht, rfl⟩ := List.mem_map.mp hline
    exact hnewline t (ExtTreeSet.mem_toList.mp ht)

/-- The name of a class starts the names of an inner class and of another class, and one class has
two tests. -/
theorem lines_ascend_foo :
    let tests : List Node := [.ofMethod "Lp/FooBar" "c()V", .ofMethod "Lp/Foo$In" "b()V",
      .ofMethod "Lp/Foo" "z()V", .ofMethod "Lp/Foo" "a()V"]
    let s : Selection := ⟨.method, ExtTreeSet.ofList tests, ⟨∅, 0⟩, ∅, 0⟩
    (∀ t ∈ s.tests, t.granularity = .method) ∧
      (∀ t ∈ s.tests, ∀ c ∈ t.className.toList, ' ' < c) ∧
      s.lines = ["Lp/Foo a()V", "Lp/Foo z()V", "Lp/Foo$In b()V", "Lp/FooBar c()V"] ∧
      s.lines.Pairwise (· < ·) ∧
      Text.splitOn '\n' s.text.toList = s.lines.map String.toList ++ [[]] := by
  intro tests s
  have hmethod : ∀ t ∈ s.tests, t.granularity = .method := by
    simp only [s, mem_setOfList]
    decide
  have hclass : ∀ t ∈ s.tests, ∀ c ∈ t.className.toList, ' ' < c := by
    have hall : tests.all fun t => t.className.toList.all (' ' < ·) := by decide +kernel
    simpa only [s, mem_setOfList, List.all_eq_true, decide_eq_true_eq] using hall
  have hnewline : ∀ t ∈ s.tests, '\n' ∉ t.text.toList := by
    simp only [s, mem_setOfList]
    decide +kernel
  obtain ⟨hlines, hsplit⟩ := lines_ascend s hmethod hclass
  exact ⟨hmethod, hclass, by decide +kernel, hlines, hsplit hnewline⟩

end Selection

end TestImpact
