import Std.Data.ExtTreeSet
import TestImpact.Error
import TestImpact.Text

/-!
Classes and methods: their order, references to methods, the nodes of a call graph and the lines
that name them.
-/
namespace TestImpact
open Std

/-! ## Order

Lexicographic orders on records of two keys, and sets as values. -/

/-- Compare by a first key, and by a second where the first ones agree. -/
@[reducible] def byKeys {α β γ : Type} [Ord β] [Ord γ] (first : α → β) (second : α → γ) :
    α → α → Ordering :=
  compareLex (compareOn first) (compareOn second)

/-- Two keys that together determine the value order it lawfully. -/
theorem lawfulEqCmp_byKeys {α β γ : Type} [Ord β] [Ord γ] [LawfulEqOrd β] [LawfulEqOrd γ]
    {first : α → β} {second : α → γ}
    (h : ∀ a b, first a = first b → second a = second b → a = b) :
    LawfulEqCmp (byKeys first second) where
  compare_self := by
    intro a
    simp [compareLex, compareOn]
  eq_of_compare := by
    intro a b hab
    rw [compareLex_eq_eq] at hab
    exact h a b (LawfulEqCmp.eq_of_compare hab.1) (LawfulEqCmp.eq_of_compare hab.2)

section Sets
variable {α : Type} [Ord α] [TransOrd α] [LawfulEqOrd α] [BEq α] [LawfulBEq α]

@[simp] theorem mem_setOfList {l : List α} {a : α} : a ∈ ExtTreeSet.ofList l ↔ a ∈ l := by
  simp [ExtTreeSet.mem_ofList]

omit [BEq α] [LawfulBEq α] in
@[simp] theorem mem_setFilter {s : ExtTreeSet α} {p : α → Bool} {a : α} :
    a ∈ s.filter p ↔ a ∈ s ∧ p a = true := by
  simp [ExtTreeSet.mem_filter]

/-- The list of a set, read back, is the set. -/
theorem setOfList_toList (s : ExtTreeSet α) : ExtTreeSet.ofList s.toList = s :=
  ExtTreeSet.ext_mem fun _ => by simp [ExtTreeSet.mem_toList]

omit [BEq α] [LawfulBEq α] in
theorem nodup_toList (s : ExtTreeSet α) : s.toList.Nodup :=
  ExtTreeSet.distinct_toList.imp fun h he => h (by simp [he])

omit [BEq α] [LawfulBEq α] in
theorem exists_mem_of_isEmpty_eq_false {s : ExtTreeSet α} (h : s.isEmpty = false) : ∃ a, a ∈ s := by
  refine Classical.byContradiction fun hn => ?_
  have : s = ∅ := ExtTreeSet.ext_mem fun k => by
    simpa using fun hk => hn ⟨k, hk⟩
  simp [this] at h

end Sets

/-! ## Methods

Methods as the call-graph records name them. -/

structure MethodRef where
  className : String
  selector : String
  deriving DecidableEq, Repr

namespace MethodRef

/-- The class in dotted form: no leading `L`, dots for slashes. -/
def dottedClass (m : MethodRef) : String :=
  let bare := match m.className.toList with
    | 'L' :: rest => rest
    | chars => chars
  String.ofList (bare.map fun c => if c = '/' then '.' else c)

/-- The selector behind its dotted class. -/
def qualified (m : MethodRef) : String := m.dottedClass ++ "." ++ m.selector

instance : Ord MethodRef := ⟨byKeys className selector⟩

instance : TransOrd MethodRef := inferInstanceAs (TransCmp (byKeys className selector))

instance : LawfulEqOrd MethodRef :=
  lawfulEqCmp_byKeys fun a b hc hs => by cases a; cases b; simp_all

end MethodRef

/-! ## Nodes

The classes and methods that graphs and change sets are made of. -/

/-- A class, or one of its methods. -/
structure Node where
  className : String
  member : Option String
  deriving DecidableEq, Repr

/-- From an element to one that calls it. -/
structure Edge where
  callee : Node
  caller : Node
  deriving DecidableEq, Repr

namespace Node

/-- Nodes are ordered by class; a class comes before its methods. -/
instance : Ord Node := ⟨byKeys className member⟩

instance : TransOrd Node := inferInstanceAs (TransCmp (byKeys className member))

instance : LawfulEqOrd Node :=
  lawfulEqCmp_byKeys fun a b hc hm => by cases a; cases b; simp_all

def ofClass (className : String) : Node := ⟨className, none⟩

def ofMethod (className member : String) : Node := ⟨className, some member⟩

def ofMethodRef (m : MethodRef) : Node := ofMethod m.className m.qualified

def granularity (n : Node) : Granularity := if n.member.isSome then .method else .class

/-- The class that a node belongs to. -/
def toClass (n : Node) : Node := ofClass n.className

/-- A node on a line of its own. -/
def text (n : Node) : String :=
  match n.member with
  | none => n.className
  | some member => n.className ++ " " ++ member

/-- A dotted class name as a descriptor; a name with a slash or without a dot is one already. -/
def descriptor (className : List Char) : List Char :=
  if '/' ∈ className ∨ '.' ∉ className then className
  else 'L' :: className.map fun c => if c = '.' then '/' else c

/-- The first word names the class; at method level the rest of the line is the member. -/
def parse (text : String) (g : Granularity) : Except Error Node :=
  let t := Text.trim text.toList
  let className := t.takeWhile (!Text.isBlank ·)
  let member := Text.trim (t.dropWhile (!Text.isBlank ·))
  match g with
  | .class =>
    if className.isEmpty then .error (.invalidNode g text)
    else .ok (ofClass (String.ofList (descriptor className)))
  | .method =>
    if className.isEmpty || member.isEmpty then .error (.invalidNode g text)
    else .ok (ofMethod (String.ofList (descriptor className)) (String.ofList member))

/-- A class is named by the first word of a line. -/
def parseClass (text : String) : Except Error Node :=
  match (Text.words (Text.trim text.toList)).head? with
  | some className => .ok (ofClass (String.ofList (descriptor className)))
  | none => .error (.invalidNode .class text)

/-- A method is named by a line that is cut in two at its first blank. -/
def parseMethod (text : String) : Except Error Node :=
  match Text.cutAtBlank? (Text.trim text.toList) with
  | none => .error (.invalidNode .method text)
  | some (className, rest) =>
    let member := Text.trim rest
    if className.isEmpty || member.isEmpty then .error (.invalidNode .method text)
    else .ok (ofMethod (String.ofList (descriptor className)) (String.ofList member))

end Node

namespace Edge

instance : Ord Edge := ⟨byKeys callee caller⟩

instance : TransOrd Edge := inferInstanceAs (TransCmp (byKeys callee caller))

instance : LawfulEqOrd Edge :=
  lawfulEqCmp_byKeys fun a b hc hr => by cases a; cases b; simp_all

end Edge

/-- Nodes as a value: equal sets are equal, and list in node order. -/
abbrev NodeSet := ExtTreeSet Node

/-! ## Lines

Lists of nodes as users write them, one on a line: the changed elements and the known tests. -/

/-- Whether a line says nothing. -/
def isBlankLine (line : String) : Bool := Text.allBlank line.toList

/-- The nodes that lines name, and the errors of the lines that name none. -/
structure NodeList where
  nodes : NodeSet
  rejected : List Error

namespace NodeList

/-- Blank lines do not count. -/
def read (g : Granularity) (lines : List String) : NodeList :=
  let entries := (lines.filter fun l => !isBlankLine l).map fun l => Node.parse l g
  { nodes := ExtTreeSet.ofList (entries.filterMap Except.toOption)
    rejected := entries.filterMap fun
      | .ok _ => none
      | .error e => some e }

end NodeList

/-- The changed elements, and how many lines could not be read. -/
structure ChangeSet where
  granularity : Granularity
  nodes : NodeSet
  skipped : Nat

namespace ChangeSet

def empty (g : Granularity) : ChangeSet := ⟨g, ∅, 0⟩

def ofNodeList (g : Granularity) (l : NodeList) : ChangeSet := ⟨g, l.nodes, l.rejected.length⟩

def ofLines (g : Granularity) (lines : List String) : ChangeSet :=
  ofNodeList g (NodeList.read g lines)

/-- The flag tells whether the node is new. -/
def insert (c : ChangeSet) (n : Node) : Bool × ChangeSet :=
  (!c.nodes.contains n, { c with nodes := c.nodes.insert n })

/-- Take in one line more: a node, or a line that cannot be read. Blank lines do not count. -/
def add (c : ChangeSet) (line : String) : ChangeSet :=
  if isBlankLine line then c
  else match Node.parse line c.granularity with
    | .ok n => (c.insert n).2
    | .error _ => { c with skipped := c.skipped + 1 }

end ChangeSet

/-- The test methods that may be selected. -/
abbrev Universe := NodeSet

def Universe.ofLines (lines : List String) : Universe := (NodeList.read .method lines).nodes

/-- Take in one line more, if it names a method. -/
def Universe.add (tests : Universe) (line : String) : Universe :=
  if isBlankLine line then tests
  else match Node.parse line .method with
    | .ok n => tests.insert n
    | .error _ => tests

end TestImpact
