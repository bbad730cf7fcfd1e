import Std.Data.ExtTreeMap
import TestImpact.CallGraph

/-! Call graphs as they are stored, and the search for a closure in them. -/
namespace TestImpact
open Std

/-! ## Positions

Call graphs as they can be stored: a directed graph that numbers its nodes, and an index from each
node to its position. -/

/-- Directed graphs whose nodes stand at the positions 0, 1, 2 and so on. Edges join positions. -/
class PositionGraph (G : Type) where
  empty : G
  /-- Add a node. The answer is its position. -/
  addNode (g : G) (n : Node) : Nat × G
  /-- Add an edge, also next to one that joins the same positions. -/
  addEdge (g : G) (source target : Nat) : G
  /-- The number of an edge that joins two positions, if there is one. -/
  findEdge (g : G) (source target : Nat) : Option Nat
  /-- Where the edges lead that leave a position, one entry for each edge. -/
  neighbors (g : G) (source : Nat) : List Nat
  /-- The nodes in the order of their positions. -/
  nodes (g : G) : List Node
  /-- The two ends of each edge, in the order of their numbers. -/
  edges (g : G) : List (Nat × Nat)

/-- Nodes and edges are numbered as they arrive, and an edge is found where it was added. -/
class LawfulPositionGraph (G : Type) [PositionGraph G] : Prop where
  nodes_empty : PositionGraph.nodes (PositionGraph.empty : G) = []
  edges_empty : PositionGraph.edges (PositionGraph.empty : G) = []
  addNode_fst : ∀ (g : G) (n : Node),
    (PositionGraph.addNode g n).1 = (PositionGraph.nodes g).length
  nodes_addNode : ∀ (g : G) (n : Node),
    PositionGraph.nodes (PositionGraph.addNode g n).2 = PositionGraph.nodes g ++ [n]
  edges_addNode : ∀ (g : G) (n : Node),
    PositionGraph.edges (PositionGraph.addNode g n).2 = PositionGraph.edges g
  nodes_addEdge : ∀ (g : G) {i j : Nat}, i < (PositionGraph.nodes g).length →
    j < (PositionGraph.nodes g).length →
    PositionGraph.nodes (PositionGraph.addEdge g i j) = PositionGraph.nodes g
  edges_addEdge : ∀ (g : G) {i j : Nat}, i < (PositionGraph.nodes g).length →
    j < (PositionGraph.nodes g).length →
    PositionGraph.edges (PositionGraph.addEdge g i j) = PositionGraph.edges g ++ [(i, j)]
  getElem?_findEdge : ∀ {g : G} {i j k : Nat}, PositionGraph.findEdge g i j = some k →
    (PositionGraph.edges g)[k]? = some (i, j)
  findEdge_eq_none : ∀ {g : G} {i j : Nat}, PositionGraph.findEdge g i j = none →
    (i, j) ∉ PositionGraph.edges g
  neighbors_perm : ∀ (g : G) (i : Nat), (PositionGraph.neighbors g i).Perm
    (((PositionGraph.edges g).filter fun e => e.1 == i).map Prod.snd)

structure IndexedGraph (G : Type) where
  granularity : Granularity
  inner : G
  index : ExtTreeMap Node Nat

namespace IndexedGraph
variable {G : Type} [PositionGraph G]

def new (granularity : Granularity) : IndexedGraph G := ⟨granularity, PositionGraph.empty, ∅⟩

/-- The position of a node, which is added first if it is not there. -/
def intern (g : IndexedGraph G) (n : Node) : Nat × IndexedGraph G :=
  match g.index[n]? with
  | some i => (i, g)
  | none =>
    let (i, inner) := PositionGraph.addNode g.inner n
    (i, { g with inner, index := g.index.insert n i })

/-- The positions of the two ends of an edge, callee first. -/
def internEnds (g : IndexedGraph G) (e : Edge) : (Nat × Nat) × IndexedGraph G :=
  let (callee, g) := g.intern e.callee
  let (caller, g) := g.intern e.caller
  ((callee, caller), g)

/-- Add an edge. The flag tells whether it is new. -/
def addEdge (g : IndexedGraph G) (e : Edge) : Bool × IndexedGraph G :=
  let ((callee, caller), g) := g.internEnds e
  match PositionGraph.findEdge g.inner callee caller with
  | some _ => (false, g)
  | none => (true, { g with inner := PositionGraph.addEdge g.inner callee caller })

/-- Add edges one after the other, and collect the flags. -/
def addEdges (g : IndexedGraph G) : List Edge → List Bool × IndexedGraph G
  | [] => ([], g)
  | e :: rest =>
    let (new, g) := g.addEdge e
    let (flags, g) := g.addEdges rest
    (new :: flags, g)

def nodes (g : IndexedGraph G) : List Node := PositionGraph.nodes g.inner

def nodeCount (g : IndexedGraph G) : Nat := g.nodes.length

def edgeCount (g : IndexedGraph G) : Nat := (PositionGraph.edges g.inner).length

def contains (g : IndexedGraph G) (n : Node) : Bool := g.index.contains n

/-- The edges, with the nodes that stand at their ends. -/
def edges (g : IndexedGraph G) : List Edge :=
  (PositionGraph.edges g.inner).filterMap fun (i, j) => do
    return ⟨← g.nodes[i]?, ← g.nodes[j]?⟩

/-- The callers of a node, each once. -/
def callers (g : IndexedGraph G) (n : Node) : List Node :=
  match g.index[n]? with
  | some i => (PositionGraph.neighbors g.inner i).filterMap fun j => g.nodes[j]?
  | none => []

end IndexedGraph

/-- A graph with positions as two lists. -/
structure ListedGraph where
  nodes : List Node
  edges : List (Nat × Nat)

namespace ListedGraph

/-- The latest of the edges that leave a position comes first. -/
instance : PositionGraph ListedGraph where
  empty := ⟨[], []⟩
  addNode g n := (g.nodes.length, { g with nodes := g.nodes ++ [n] })
  addEdge g i j := { g with edges := g.edges ++ [(i, j)] }
  findEdge g i j := g.edges.idxOf? (i, j)
  neighbors g i := ((g.edges.filter fun e => e.1 == i).map Prod.snd).reverse
  nodes := nodes
  edges := edges

instance : LawfulPositionGraph ListedGraph where
  nodes_empty := rfl
  edges_empty := rfl
  addNode_fst _ _ := rfl
  nodes_addNode _ _ := rfl
  edges_addNode _ _ := rfl
  nodes_addEdge _ _ _ _ _ := rfl
  edges_addEdge _ _ _ _ _ := rfl
  getElem?_findEdge h := by
    obtain ⟨hk, hget, -⟩ := List.findIdx?_eq_some_iff_getElem.mp h
    exact List.getElem?_eq_some_iff.mpr ⟨hk, eq_of_beq hget⟩
  findEdge_eq_none h := List.idxOf?_eq_none_iff.mp h
  neighbors_perm _ _ := List.reverse_perm _

end ListedGraph

/-! ## Search

The closure of changed nodes as a stored graph finds it: from position to position, with a list of
those found last and the set of all that were seen. -/

/-- Take the positions that were not seen before, each once, and count them as seen. -/
def visit (seen : ExtTreeSet Nat) : List Nat → List Nat × ExtTreeSet Nat
  | [] => ([], seen)
  | i :: rest =>
    if seen.contains i then visit seen rest
    else
      let (new, seen) := visit (seen.insert i) rest
      (i :: new, seen)

theorem mem_visit (seen : ExtTreeSet Nat) (found : List Nat) (i : Nat) :
    (i ∈ (visit seen found).1 ↔ i ∈ found ∧ i ∉ seen) ∧
      (i ∈ (visit seen found).2 ↔ i ∈ seen ∨ i ∈ found) := by
  induction found generalizing seen with
  | nil => simp [visit]
  | cons j rest ih =>
    unfold visit
    split
    · rename_i hj
      have hold : j ∈ seen := ExtTreeSet.contains_iff_mem.1 hj
      rw [(ih seen).1, (ih seen).2, List.mem_cons]
      grind
    · rename_i hj
      have hnew : j ∉ seen := mt ExtTreeSet.contains_iff_mem.2 hj
      have hinsert : i ∈ seen.insert j ↔ j = i ∨ i ∈ seen := by simp
      dsimp only
      rw [List.mem_cons, (ih (seen.insert j)).1, (ih (seen.insert j)).2, hinsert, List.mem_cons]
      grind

section Visit
variable {seen : ExtTreeSet Nat} {found : List Nat} {i : Nat}

theorem mem_visit_fst : i ∈ (visit seen found).1 ↔ i ∈ found ∧ i ∉ seen := (mem_visit _ _ _).1

theorem mem_visit_snd : i ∈ (visit seen found).2 ↔ i ∈ seen ∨ i ∈ found := (mem_visit _ _ _).2

end Visit

namespace IndexedGraph
variable {G : Type} [PositionGraph G]

/-- The positions of the callers of what stands at the given positions. -/
def callersAt (g : IndexedGraph G) (frontier : List Nat) : List Nat :=
  frontier.flatMap (PositionGraph.neighbors g.inner)

/-- The edges that lead to a position not yet seen. -/
def unseen (g : IndexedGraph G) (seen : ExtTreeSet Nat) : List (Nat × Nat) :=
  (PositionGraph.edges g.inner).filter fun e => !seen.contains e.2

theorem mem_neighbors [LawfulPositionGraph G] {g : IndexedGraph G} {i j : Nat} :
    j ∈ PositionGraph.neighbors g.inner i ↔ (i, j) ∈ PositionGraph.edges g.inner := by
  rw [(LawfulPositionGraph.neighbors_perm g.inner i).mem_iff]
  simp

theorem mem_callersAt [LawfulPositionGraph G] {g : IndexedGraph G} {frontier : List Nat} {j : Nat} :
    j ∈ g.callersAt frontier ↔ ∃ i ∈ frontier, (i, j) ∈ PositionGraph.edges g.inner := by
  simp only [callersAt, List.mem_flatMap, mem_neighbors]

/-- Each round that finds something leaves fewer edges to what was not seen. -/
theorem length_unseen_lt [LawfulPositionGraph G] {g : IndexedGraph G} {seen : ExtTreeSet Nat}
    {frontier : List Nat}
    (h : (visit seen (g.callersAt frontier)).1.isEmpty = false) :
    (g.unseen (visit seen (g.callersAt frontier)).2).length < (g.unseen seen).length := by
  obtain ⟨j, hj⟩ := List.isEmpty_eq_false_iff_exists_mem.1 h
  obtain ⟨hfound, hnew⟩ := mem_visit_fst.1 hj
  obtain ⟨i, -, he⟩ := mem_callersAt.1 hfound
  have hless : g.unseen (visit seen (g.callersAt frontier)).2 =
      (g.unseen seen).filter fun e => !(visit seen (g.callersAt frontier)).2.contains e.2 := by
    rw [unseen, unseen, List.filter_filter]
    refine List.filter_congr fun e _ => ?_
    cases hold : seen.contains e.2
    · simp
    · have hseen : e.2 ∈ (visit seen (g.callersAt frontier)).2 :=
        mem_visit_snd.2 (.inl (ExtTreeSet.contains_iff_mem.1 hold))
      simp [hseen]
  rw [hless]
  refine List.length_filter_lt_length_iff_exists.2 ⟨(i, j), ?_, ?_⟩
  · exact List.mem_filter.2 ⟨he, by simpa [← Bool.not_eq_true] using hnew⟩
  · simpa using mem_visit_snd.2 (.inr hfound)

/-- Round after round, until one finds nothing new. -/
def search [LawfulPositionGraph G] (g : IndexedGraph G) (seen : ExtTreeSet Nat)
    (frontier : List Nat) (rounds : Nat) : ExtTreeSet Nat × Nat :=
  let found := visit seen (g.callersAt frontier)
  if found.1.isEmpty then (found.2, rounds)
  else search g found.2 found.1 (rounds + 1)
termination_by (g.unseen seen).length
decreasing_by exact length_unseen_lt (Bool.eq_false_iff.2 ‹_›)

/-- The nodes at the given positions. -/
def nodesAt (g : IndexedGraph G) (positions : List Nat) : NodeSet :=
  ExtTreeSet.ofList (positions.filterMap fun i => g.nodes[i]?)

/-- The positions of the seeds that something calls. -/
def seedsAt (g : IndexedGraph G) (seeds : List Node) : List Nat :=
  (seeds.filterMap fun n => g.index[n]?).filter fun i =>
    !(PositionGraph.neighbors g.inner i).isEmpty

/-- The search begins at the called seeds; the round in which they are found counts if there are
any. -/
def closure [LawfulPositionGraph G] (g : IndexedGraph G) (seeds : List Node) : Closure :=
  let start := visit ∅ (g.seedsAt seeds)
  let result := g.search start.2 start.1 (if start.1.isEmpty then 0 else 1)
  ⟨g.nodesAt result.1.toList, result.2⟩

end IndexedGraph

end TestImpact
