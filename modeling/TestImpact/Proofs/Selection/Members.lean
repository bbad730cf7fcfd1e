import TestImpact.Proofs.CallGraph.Closure
import TestImpact.Proofs.Graphs
import TestImpact.Proofs.NodeList
import TestImpact.Proofs.Record.Calls
import TestImpact.Proofs.Text
import TestImpact.Selection

/-! Which tests and which test classes a selection holds, told by the calls alone. -/
namespace TestImpact

/-! ## Names of test classes

The two ways to recognise a test class: its simple name is a part of its descriptor, the one behind
its packages. -/

/-- The name of a class occurs in its descriptor. -/
theorem ClassMatch.accepts_substring_of_exact {className name : String}
    (h : exact.accepts className name = true) : substring.accepts className name = true := by
  rw [accepts_substring_iff]
  rcases accepts_exact_iff.mp h with ⟨-, before, hclass⟩ | ⟨-, hclass | ⟨-, rfl⟩⟩
  · exact ⟨before ++ ['/'], [], by simp [hclass]⟩
  · exact ⟨['L'], [], by simp [hclass]⟩
  · exact List.infix_rfl

/-- The descriptor of a class in packages, the outermost one first. -/
def classIn (packages : List String) (name : String) : String :=
  "L" ++ String.intercalate "/" (packages ++ [name])

/-- A class is recognised by its name in either way. -/
theorem ClassMatch.accepts_classIn {name : String} (h : '/' ∉ name.toList)
    (packages : List String) (m : ClassMatch) : m.accepts (classIn packages name) name = true := by
  have hexact : exact.accepts (classIn packages name) name = true := by
    rw [accepts_exact_iff]
    rcases eq_or_ne packages [] with rfl | hne
    · have hclass : (classIn [] name).toList = 'L' :: name.toList := by
        simp [classIn]
      exact .inr ⟨by simp [hclass, h], .inl hclass⟩
    · have hclass :
          classIn packages name = "L" ++ String.intercalate "/" packages ++ "/" ++ name := by
        rw [classIn, String.intercalate_append_of_ne_nil hne (List.cons_ne_nil _ _),
          String.intercalate_singleton, ← String.append_assoc, ← String.append_assoc]
      exact .inl ⟨h, ("L" ++ String.intercalate "/" packages).toList, by simp [hclass]⟩
  cases m with
  | substring => exact accepts_substring_of_exact hexact
  | exact => exact hexact

end TestImpact

namespace TestImpact.Selection
open Std

/-! ## Any two graphs

Which tests and which test classes a selection holds, for any pair of graphs. -/

section TwoGraphs
variable {graphs : Graphs} {tests : Universe} {m : ClassMatch} {names : List String}
  {changes : ChangeSet} {n : Node}

/-- At method level the affected tests are selected. -/
theorem mem_tests_ofMethods : n ∈ (ofMethods graphs tests changes).tests ↔
    n ∈ tests ∧ Affected (CalledBy graphs.method.edges) {c | c ∈ changes.nodes} n := by
  simp [ofMethods, CallGraph.mem_closure, and_comm]

theorem isNamed_iff : isNamed m names n = true ↔ ∃ name ∈ names, m.accepts n.className name := by
  simp [isNamed]

/-- The test classes found are the affected ones that a name matches. -/
theorem mem_candidates_ofClasses : n ∈ (ofClasses graphs tests m names changes).candidates ↔
    Affected (CalledBy graphs.class.edges) {c | c ∈ changes.nodes} n ∧
      ∃ name ∈ names, m.accepts n.className name := by
  simp [ofClasses, CallGraph.mem_closure, isNamed_iff]

theorem mem_takeIn {classNames : ExtTreeSet String} {found : NodeSet} {k : Node} :
    n ∈ takeIn tests classNames found k ↔
      n ∈ found ∨ n = k ∧ n.className ∈ classNames ∧ n ∈ tests := by
  unfold takeIn
  split
  · rename_i h
    obtain ⟨hclass, htest⟩ : k.className ∈ classNames ∧ k ∈ tests := by simpa using h
    have hinsert : n ∈ found.insert k ↔ k = n ∨ n ∈ found := by simp
    rw [hinsert]
    constructor
    · rintro (rfl | hn)
      · exact .inr ⟨rfl, hclass, htest⟩
      · exact .inl hn
    · rintro (hn | ⟨rfl, -⟩)
      · exact .inr hn
      · exact .inl rfl
  · rename_i h
    constructor
    · exact .inl
    · rintro (hn | ⟨rfl, hclass, htest⟩)
      · exact hn
      · exact absurd (by simp [hclass, htest]) h

theorem mem_takeInEnds {classNames : ExtTreeSet String} {found : NodeSet} {e : Edge} :
    n ∈ takeInEnds tests classNames found e ↔
      n ∈ found ∨ (n = e.callee ∨ n = e.caller) ∧ n.className ∈ classNames ∧ n ∈ tests := by
  rw [takeInEnds, mem_takeIn, mem_takeIn, or_assoc, ← or_and_right]

/-- Edge after edge, the ends that count are taken in. -/
theorem mem_foldl_takeInEnds {classNames : ExtTreeSet String} {edges : List Edge}
    {found : NodeSet} : n ∈ edges.foldl (takeInEnds tests classNames) found ↔
      n ∈ found ∨
        (∃ e ∈ edges, n = e.callee ∨ n = e.caller) ∧ n.className ∈ classNames ∧ n ∈ tests := by
  induction edges generalizing found with
  | nil => simp
  | cons e rest ih =>
    rw [List.foldl_cons, ih, mem_takeInEnds, or_assoc, ← or_and_right, List.exists_mem_cons_iff]

/-- The scan of the edges keeps what could be kept of the nodes. -/
theorem testsIn_eq (tests : Universe) (graph : CallGraph) (classes : NodeSet) :
    testsIn tests graph classes = (ExtTreeSet.ofList (graph.nodes.filter fun n =>
      classes.toList.any fun q => q.className = n.className)).filter tests.contains := by
  refine ExtTreeSet.ext_mem fun n => ?_
  simp only [testsIn, mem_foldl_takeInEnds, ← graph.mem_nodes, ExtTreeSet.not_mem_empty, false_or,
    mem_setFilter, mem_setOfList, List.mem_filter, List.any_eq_true, List.mem_map,
    decide_eq_true_iff, ExtTreeSet.contains_iff_mem, and_assoc]

theorem mem_testsIn {graph : CallGraph} {classes : NodeSet} : n ∈ testsIn tests graph classes ↔
    n ∈ tests ∧ n ∈ graph.nodes ∧ ∃ q ∈ classes, q.className = n.className := by
  simp [testsIn_eq, and_comm]

/-- At class level the tests of the test classes found are selected, if the method graph knows
them. -/
theorem mem_tests_ofClasses : n ∈ (ofClasses graphs tests m names changes).tests ↔
    n ∈ tests ∧ n ∈ graphs.method.nodes ∧
      ∃ q ∈ (ofClasses graphs tests m names changes).candidates, q.className = n.className := by
  rw [ofClasses, mem_testsIn]

end TwoGraphs

end TestImpact.Selection

namespace TestImpact
open Std

/-! ## By methods

Selection by methods, from the text of the records to the tests: a test is selected if and only if
a chain of calls that the records tell of leads up to it from a changed method. -/

/-- Some record tells of the call, and neither of its ends lies in the platform. -/
def Told (f : PlatformFilter) (records : List String) (callee caller : MethodRef) : Prop :=
  (∃ r ∈ records, Record.Tells r callee caller) ∧
    ¬ f.Covers callee.className ∧ ¬ f.Covers caller.className

theorem kept_ofRecords {f : PlatformFilter} {records : List String} :
    Kept f (Normalized.ofRecords records).edges = Told f records := by
  funext callee caller
  simp [Kept, Told, Normalized.mem_edges_ofRecords]

namespace Selection

/-- No affected test is missed and no other one is added. -/
theorem mem_tests_of_texts (descriptors tests changes : String) (prefixes names : List String)
    (m : ClassMatch) (t : Node) :
    let records := Record.split descriptors
    let graphs := Graphs.build ⟨prefixes⟩ (Normalized.ofRecords records).edges
    let known := Universe.ofLines (linesOf tests)
    let changed := ChangeSet.ofLines .method (linesOf changes)
    t ∈ (select graphs known m names changed).tests ↔ t ∈ known ∧
      Affected (Relation.Map (Told ⟨prefixes⟩ records) Node.ofMethodRef Node.ofMethodRef)
        {c | c ∈ changed.nodes} t := by
  intro records graphs known changed
  have hcalls : CalledBy graphs.method.edges =
      Relation.Map (Told ⟨prefixes⟩ records) Node.ofMethodRef Node.ofMethodRef := by
    rw [Graphs.calledBy_method, kept_ofRecords]
  rw [← hcalls]
  exact mem_tests_ofMethods

end Selection

/-! ## By classes

Selection by classes: the test classes lie above a changed class in the calls between classes, and
the tests are the methods of those classes that take part in a call. -/

section ByClasses
variable {f : PlatformFilter} {calls : ExtTreeSet CallEdge}

/-- In the class graph only classes are affected, and those along the calls between classes. -/
theorem affected_class_iff {changed : Set Node} {n : Node} :
    Affected (CalledBy (Graphs.build f calls).class.edges) changed n ↔
      ∃ q, Node.ofClass q = n ∧
        Affected (Relation.Map (Kept f calls) MethodRef.className MethodRef.className)
          {c | Node.ofClass c ∈ changed} q := by
  rw [Graphs.calledBy_class]
  exact affected_map_iff Node.ofClass_injective

namespace Selection
variable {tests : Universe} {m : ClassMatch} {names : List String} {changes : ChangeSet}

theorem mem_candidates_build {n : Node} :
    n ∈ (ofClasses (Graphs.build f calls) tests m names changes).candidates ↔
      ∃ q, n = .ofClass q ∧
        Affected (Relation.Map (Kept f calls) MethodRef.className MethodRef.className)
          {c | .ofClass c ∈ changes.nodes} q ∧
        ∃ name ∈ names, m.accepts q name := by
  rw [mem_candidates_ofClasses, affected_class_iff]
  constructor
  · rintro ⟨⟨q, rfl, hq⟩, hname⟩
    exact ⟨q, rfl, hq, hname⟩
  · rintro ⟨q, rfl, hq, hname⟩
    exact ⟨⟨q, rfl, hq⟩, hname⟩

/-- The candidates are classes, so one with the name of a method's class is that class. -/
theorem toClass_mem_candidates_build {t : Node} :
    t.toClass ∈ (ofClasses (Graphs.build f calls) tests m names changes).candidates ↔
      ∃ q ∈ (ofClasses (Graphs.build f calls) tests m names changes).candidates,
        q.className = t.className := by
  constructor
  · intro h
    exact ⟨t.toClass, h, rfl⟩
  · rintro ⟨n, hn, hname⟩
    obtain ⟨q, rfl, -⟩ := mem_candidates_build.mp hn
    rwa [Node.toClass, ← hname]

/-- The candidates and the tests of a selection by classes, each told by the calls alone. -/
theorem mem_select_classes (f : PlatformFilter) (calls : ExtTreeSet CallEdge) (tests : Universe)
    (m : ClassMatch) (names : List String) (changed : NodeSet) (skipped : Nat) :
    let selection := select (Graphs.build f calls) tests m names ⟨.class, changed, skipped⟩
    (∀ n, n ∈ selection.candidates ↔ ∃ q, n = .ofClass q ∧
      Affected (Relation.Map (Kept f calls) MethodRef.className MethodRef.className)
        {c | .ofClass c ∈ changed} q ∧
      ∃ name ∈ names, m.accepts q name) ∧
    ∀ t, t ∈ selection.tests ↔ t ∈ tests ∧
      (∃ callee caller, Kept f calls callee caller ∧
        (t = .ofMethodRef callee ∨ t = .ofMethodRef caller)) ∧
      t.toClass ∈ selection.candidates := by
  intro selection
  constructor
  · intro n
    exact mem_candidates_build
  · intro t
    refine mem_tests_ofClasses.trans (and_congr_right fun _ => and_congr ?_ ?_)
    · exact Graphs.mem_nodes_method
    · exact toClass_mem_candidates_build.symm

end Selection

end ByClasses

/-! ## Both levels

The two levels compared: by classes no test is lost that methods select. -/

namespace Selection

/-- If the names match the class of every test that the changed methods select, the classes that
the same lines name select all these tests too. -/
theorem tests_method_subset_tests_class (f : PlatformFilter) (calls : ExtTreeSet CallEdge)
    (tests : Universe) (m : ClassMatch) (names : List String) (text : String) :
    let graphs := Graphs.build f calls
    let byMethod := select graphs tests m names (.ofLines .method (linesOf text))
    let byClass := select graphs tests m names (.ofLines .class (linesOf text))
    (∀ t ∈ byMethod.tests, ∃ name ∈ names, m.accepts t.className name) →
      ∀ t ∈ byMethod.tests, t ∈ byClass.tests := by
  intro graphs byMethod byClass hnamed t ht
  obtain ⟨htest, haffected⟩ := mem_tests_ofMethods.mp ht
  have hnode : t ∈ graphs.method.nodes :=
    CallGraph.mem_nodes_iff_calledBy.mpr haffected.endpoint
  have hclass : t.toClass ∈ byClass.candidates := by
    refine mem_candidates_ofClasses.mpr ⟨?_, hnamed t ht⟩
    exact haffected.toClass fun _ => ChangeSet.toClass_mem_ofLines
  exact mem_tests_ofClasses.mpr ⟨htest, hnode, t.toClass, hclass, rfl⟩

/-- A cycle of calls below the test, and lines with a dotted name, with nothing, and with a class
that only the class level reads. -/
theorem mem_tests_class_above_cycle :
    let f : MethodRef := ⟨"Lp/A", "f()V"⟩
    let g : MethodRef := ⟨"Lp/B", "g()V"⟩
    let t : MethodRef := ⟨"Lp/T", "t()V"⟩
    let calls : List CallEdge := [⟨f, g⟩, ⟨g, f⟩, ⟨g, t⟩]
    let graphs := Graphs.build .standard (ExtTreeSet.ofList calls)
    let tests : Universe := ExtTreeSet.ofList [Node.ofMethodRef t]
    let text := "p.A p.A.f()V\n\nLp/C\n"
    let byMethod := select graphs tests .exact ["T"] (.ofLines .method (linesOf text))
    let byClass := select graphs tests .exact ["T"] (.ofLines .class (linesOf text))
    (∀ n ∈ byMethod.tests, ∃ name ∈ ["T"], ClassMatch.exact.accepts n.className name) ∧
      Node.ofMethodRef t ∈ byMethod.tests ∧ Node.ofMethodRef t ∈ byClass.tests := by
  intro f g t calls graphs tests text byMethod byClass
  have hnamed : ∀ n ∈ byMethod.tests, ∃ name ∈ ["T"],
      ClassMatch.exact.accepts n.className name := by
    intro n hn
    obtain ⟨htest, -⟩ := mem_tests_ofMethods.mp hn
    obtain rfl : Node.ofMethodRef t = n := by simpa [tests] using htest
    exact ⟨"T", by decide, by decide⟩
  have hmem : Node.ofMethodRef t ∈ byMethod.tests := by decide +kernel
  exact ⟨hnamed, hmem, tests_method_subset_tests_class _ _ _ _ _ text hnamed _ hmem⟩

end Selection

end TestImpact
