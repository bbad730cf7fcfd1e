import TestImpact.CallGraph
import TestImpact.Error
import TestImpact.Node
import TestImpact.Record
import TestImpact.Text

/-!
The selection of tests: the calls that count, the graphs that they make, the names of test classes
and what is selected.
-/
namespace TestImpact
open Std

/-! ## The platform

Classes of the platform, recognised by the start of their names. -/

structure PlatformFilter where
  prefixes : List String
  deriving DecidableEq, Repr

namespace PlatformFilter

/-- The Java platform's own classes. -/
def standard : PlatformFilter := ⟨["Ljava"]⟩

def isPlatform (f : PlatformFilter) (className : String) : Bool :=
  f.prefixes.any fun p => p.toList.isPrefixOf className.toList

end PlatformFilter

/-! ## Two graphs

The class graph and the method graph of a set of calls. -/

structure Graphs where
  «class» : CallGraph
  method : CallGraph

namespace PlatformFilter

/-- A call is kept if neither of its classes belongs to the platform. -/
def keeps (f : PlatformFilter) (e : CallEdge) : Bool :=
  !f.isPlatform e.callee.className && !f.isPlatform e.caller.className

def kept (f : PlatformFilter) (edges : ExtTreeSet CallEdge) : List CallEdge :=
  edges.toList.filter f.keeps

end PlatformFilter

namespace CallEdge

def classEdge (e : CallEdge) : Edge := ⟨.ofClass e.callee.className, .ofClass e.caller.className⟩

def methodEdge (e : CallEdge) : Edge := ⟨.ofMethodRef e.callee, .ofMethodRef e.caller⟩

end CallEdge

namespace Graphs

def build (f : PlatformFilter) (edges : ExtTreeSet CallEdge) : Graphs where
  «class» := CallGraph.ofEdges .class ((f.kept edges).map CallEdge.classEdge)
  method := CallGraph.ofEdges .method ((f.kept edges).map CallEdge.methodEdge)

def get (graphs : Graphs) : Granularity → CallGraph
  | .class => graphs.class
  | .method => graphs.method

end Graphs

/-! ## Names of test classes

How a test class is recognised by the bare name of its file. -/

inductive ClassMatch where
  /-- The name occurs in the class descriptor. -/
  | substring
  /-- The name is the simple name of the class. -/
  | exact
  deriving DecidableEq, Repr

/-- What follows the last slash, or without a slash the name after its leading `L`. -/
def simpleName (className : List Char) : List Char :=
  if '/' ∈ className then (className.reverse.takeWhile (· ≠ '/')).reverse
  else match className with
    | 'L' :: rest => rest
    | _ => className

/-- The simple name is what follows the last slash, wherever there are others. -/
theorem simpleName_append {name : List Char} (h : '/' ∉ name) (before : List Char) :
    simpleName (before ++ '/' :: name) = name := by
  have hname : ∀ c ∈ name.reverse, decide (c ≠ '/') = true := by
    intro c hc
    rw [decide_eq_true_iff]
    rintro rfl
    exact h (List.mem_reverse.mp hc)
  unfold simpleName
  rw [if_pos (by simp), List.reverse_append, List.reverse_cons, List.append_assoc,
    List.takeWhile_append_of_pos hname, List.singleton_append,
    List.takeWhile_cons_of_neg (by simp), List.append_nil, List.reverse_reverse]

theorem simpleName_eq_iff {className name : List Char} : simpleName className = name ↔
    ('/' ∉ name ∧ ∃ before, className = before ++ '/' :: name) ∨
      '/' ∉ className ∧
        (className = 'L' :: name ∨ className.head? ≠ some 'L' ∧ className = name) := by
  by_cases hslash : '/' ∈ className
  · -- the first slash from behind is the last one
    obtain ⟨after, before, hsplit, hafter⟩ :=
      List.eq_append_cons_of_mem (List.mem_reverse.mpr hslash)
    obtain rfl : className = before.reverse ++ '/' :: after.reverse := by
      rw [← List.reverse_reverse className, hsplit]
      simp
    have hname : simpleName (before.reverse ++ '/' :: after.reverse) = after.reverse :=
      simpleName_append (mt List.mem_reverse.mp hafter) _
    rw [hname]
    constructor
    · rintro rfl
      exact .inl ⟨mt List.mem_reverse.mp hafter, _, rfl⟩
    · rintro (⟨hnone, before', heq⟩ | ⟨hnone, -⟩)
      · rw [← hname, heq, simpleName_append hnone]
      · exact absurd hslash hnone
  · have hno : ∀ before, className ≠ before ++ '/' :: name := by
      rintro before rfl
      exact hslash (by simp)
    simp only [hno, exists_false, and_false, false_or, hslash, not_false_eq_true, true_and]
    unfold simpleName
    rw [if_neg hslash]
    split
    · simp
    · rename_i hplain
      have hhead : className.head? ≠ some 'L' := by
        intro hstart
        obtain ⟨rest, hrest⟩ := List.head?_eq_some_iff.mp hstart
        exact hplain rest hrest
      have hne : className ≠ 'L' :: name := hplain name
      simp [hne, hhead]

namespace ClassMatch

def name : ClassMatch → String
  | .substring => "substring"
  | .exact => "exact"

def parse (text : String) : Except Error ClassMatch :=
  if keyword text = "substring" then .ok .substring
  else if keyword text = "exact" then .ok .exact
  else .error (.unknownClassMatch text)

def accepts (m : ClassMatch) (className baseName : String) : Bool :=
  match m with
  | .substring => Text.hasInfix baseName.toList className.toList
  | .exact => simpleName className.toList == baseName.toList

variable {className baseName : String}

/-- A name is a part of the descriptors it occurs in. -/
theorem accepts_substring_iff : substring.accepts className baseName = true ↔
    baseName.toList <:+: className.toList := Text.hasInfix_iff

/-- A name is what follows the last slash of a descriptor, or a whole descriptor without slashes
apart from its leading `L`. -/
theorem accepts_exact_iff : exact.accepts className baseName = true ↔
    ('/' ∉ baseName.toList ∧ ∃ before, className.toList = before ++ '/' :: baseName.toList) ∨
      '/' ∉ className.toList ∧ (className.toList = 'L' :: baseName.toList ∨
        className.toList.head? ≠ some 'L' ∧ className = baseName) := by
  rw [accepts, beq_iff_eq, simpleName_eq_iff, String.toList_inj]

end ClassMatch

/-! ## Tests

The selection of tests. At method level it holds the tests in the closure of the changed methods.
At class level, test classes are looked up by name in the closure of the changed classes, and their
tests are those that the method graph knows. -/

structure Selection where
  granularity : Granularity
  tests : NodeSet
  closure : Closure
  /-- The test classes found; none at method level. -/
  candidates : NodeSet
  /-- How many changed elements the graph does not hold. -/
  unmatched : Nat

namespace Selection

/-- How many changed elements lie outside a graph. -/
def unmatchedIn (graph : CallGraph) (changes : ChangeSet) : Nat :=
  changes.nodes.toList.countP fun n => !graph.contains n

def ofMethods (graphs : Graphs) (tests : Universe) (changes : ChangeSet) : Selection :=
  let closure := graphs.method.closure changes.nodes.toList
  { granularity := .method
    tests := closure.nodes.filter tests.contains
    closure
    candidates := ∅
    unmatched := unmatchedIn graphs.method changes }

/-- Whether a class belongs to one of the test files. -/
def isNamed (m : ClassMatch) (names : List String) (n : Node) : Bool :=
  names.any fun name => m.accepts n.className name

/-- Take in a known test that belongs to a class with one of the given names. -/
def takeIn (tests : Universe) (names : ExtTreeSet String) (found : NodeSet) (n : Node) : NodeSet :=
  if names.contains n.className && tests.contains n then found.insert n else found

def takeInEnds (tests : Universe) (names : ExtTreeSet String) (found : NodeSet) (e : Edge) :
    NodeSet :=
  takeIn tests names (takeIn tests names found e.callee) e.caller

/-- The known tests that belong to one of the given classes, looked up at both ends of each edge of
a graph. -/
def testsIn (tests : Universe) (graph : CallGraph) (classes : NodeSet) : NodeSet :=
  let names : ExtTreeSet String := ExtTreeSet.ofList (classes.toList.map (·.className))
  graph.edges.foldl (takeInEnds tests names) ∅

def ofClasses (graphs : Graphs) (tests : Universe) (m : ClassMatch) (names : List String)
    (changes : ChangeSet) : Selection :=
  let closure := graphs.class.closure changes.nodes.toList
  let candidates := closure.nodes.filter (isNamed m names)
  { granularity := .class
    tests := testsIn tests graphs.method candidates
    closure
    candidates
    unmatched := unmatchedIn graphs.class changes }

/-- Select at the level at which the changes are given. -/
def select (graphs : Graphs) (tests : Universe) (m : ClassMatch) (names : List String)
    (changes : ChangeSet) : Selection :=
  match changes.granularity with
  | .method => ofMethods graphs tests changes
  | .class => ofClasses graphs tests m names changes

end Selection

end TestImpact

namespace TestImpact.Selection

/-! ## The listing

The selection as a file: one test on a line, in node order. -/

def fileName (g : Granularity) : String := "selection-" ++ g.name ++ ".txt"

def lines (s : Selection) : List String := s.tests.toList.map Node.text

def text (s : Selection) : String := String.join (s.lines.map (· ++ "\n"))

end TestImpact.Selection
