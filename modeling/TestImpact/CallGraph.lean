import TestImpact.Node
import TestImpact.Text.Lowercase

/-! Call graphs, what lies above some of their nodes, and their pictures. -/
namespace TestImpact
open Std

/-! ## Graphs

Call graphs. Edges run from callee to caller. Nodes and edges keep the order in which they first
arrived; each is there once, and the nodes are the endpoints of the edges. -/

structure CallGraph where
  granularity : Granularity
  nodes : List Node
  edges : List Edge
  nodes_nodup : nodes.Nodup
  edges_nodup : edges.Nodup
  mem_nodes : ∀ n, n ∈ nodes ↔ ∃ e ∈ edges, n = e.callee ∨ n = e.caller

namespace CallGraph

def empty (granularity : Granularity) : CallGraph where
  granularity
  nodes := []
  edges := []
  nodes_nodup := .nil
  edges_nodup := .nil
  mem_nodes := by simp

/-- Add a node at the end unless it is there. -/
def intern (nodes : List Node) (n : Node) : List Node := if n ∈ nodes then nodes else nodes ++ [n]

theorem mem_intern {nodes : List Node} {n m : Node} : m ∈ intern nodes n ↔ m ∈ nodes ∨ m = n := by
  unfold intern
  split
  · rename_i h
    exact ⟨.inl, fun hm => hm.elim id fun e => e ▸ h⟩
  · simp

theorem nodup_intern {nodes : List Node} (n : Node) (h : nodes.Nodup) : (intern nodes n).Nodup := by
  unfold intern
  split
  · exact h
  · rename_i hn
    exact List.nodup_append.2 ⟨h, by simp, by rintro a ha b hb rfl; simp_all⟩

/-- Add an edge. The flag tells whether it is new. -/
def addEdge (g : CallGraph) (e : Edge) : Bool × CallGraph :=
  if h : e ∈ g.edges then (false, g)
  else (true,
    { granularity := g.granularity
      nodes := intern (intern g.nodes e.callee) e.caller
      edges := g.edges ++ [e]
      nodes_nodup := nodup_intern _ (nodup_intern _ g.nodes_nodup)
      edges_nodup :=
        List.nodup_append.2 ⟨g.edges_nodup, by simp, by rintro a ha b hb rfl; simp_all⟩
      mem_nodes := by
        intro n
        simp only [mem_intern, g.mem_nodes, List.mem_append, List.mem_singleton]
        constructor
        · rintro ((⟨d, hd, hn⟩ | hn) | hn)
          · exact ⟨d, .inl hd, hn⟩
          · exact ⟨e, .inr rfl, .inl hn⟩
          · exact ⟨e, .inr rfl, .inr hn⟩
        · rintro ⟨d, hd | rfl, hn⟩
          · exact .inl (.inl ⟨d, hd, hn⟩)
          · exact hn.elim (fun h => .inl (.inr h)) .inr })

def ofEdges (granularity : Granularity) (edges : List Edge) : CallGraph :=
  edges.foldl (fun g e => (g.addEdge e).2) (empty granularity)

def nodeCount (g : CallGraph) : Nat := g.nodes.length

def edgeCount (g : CallGraph) : Nat := g.edges.length

def contains (g : CallGraph) (n : Node) : Bool := g.nodes.contains n

/-- The callers of a node, each once. -/
def callers (g : CallGraph) (n : Node) : List Node :=
  (g.edges.filter fun e => e.callee == n).map (·.caller)

/-- A summary on one line. -/
def summary (g : CallGraph) : String :=
  let level := match g.granularity with
    | .class => "Class"
    | .method => "Method"
  "CallGraph \x7b granularity: " ++ level ++ ", node_count: " ++ toString g.nodeCount ++
    ", edge_count: " ++ toString g.edgeCount ++ " \x7d"

end CallGraph

/-! ## Closures

The closure of changed nodes: everything that calls them, directly or not. It is found in layers,
the n-th of which holds the nodes that lie n calls above the seeds and no fewer. -/

/-- The callers of a set of nodes along the given edges. -/
def callersOf (edges : List Edge) (frontier : NodeSet) : NodeSet :=
  ExtTreeSet.ofList ((edges.filter fun e => frontier.contains e.callee).map (·.caller))

/-- The edges whose caller lies outside a set. -/
def leaving (edges : List Edge) (seen : NodeSet) : List Edge :=
  edges.filter fun e => !seen.contains e.caller

theorem length_leaving_lt {edges : List Edge} {frontier : NodeSet}
    (h : (callersOf edges frontier).isEmpty = false) :
    (leaving edges (callersOf edges frontier)).length < edges.length := by
  obtain ⟨n, hn⟩ := exists_mem_of_isEmpty_eq_false h
  obtain ⟨e, he, rfl⟩ := List.mem_map.1 (mem_setOfList.1 hn)
  refine List.length_filter_lt_length_iff_exists.2 ⟨e, (List.mem_filter.1 he).1, ?_⟩
  simpa using hn

/-- The layers above a frontier. The edges are those whose callers no layer holds yet. -/
def layers (edges : List Edge) (frontier : NodeSet) : List NodeSet :=
  if frontier.isEmpty then []
  else
    let next := callersOf edges frontier
    frontier :: layers (leaving edges next) next
termination_by 2 * edges.length + if frontier.isEmpty then 0 else 1
decreasing_by
  rename_i h
  rw [if_neg h]
  cases hn : (callersOf edges frontier).isEmpty
  · have := length_leaving_lt hn
    split <;> omega
  · have : (leaving edges (callersOf edges frontier)).length ≤ edges.length :=
      List.length_filter_le _ _
    rw [if_pos rfl]
    omega

structure Closure where
  nodes : NodeSet
  rounds : Nat

namespace CallGraph

/-- The seeds that something calls. -/
def calledSeeds (g : CallGraph) (seeds : List Node) : NodeSet :=
  ExtTreeSet.ofList (seeds.filter fun s => g.edges.any fun e => e.callee == s)

/-- One round for each layer. -/
def closure (g : CallGraph) (seeds : List Node) : Closure :=
  let start := g.calledSeeds seeds
  let found := layers (leaving g.edges start) start
  ⟨found.foldl (· ∪ ·) ∅, found.length⟩

end CallGraph

/-! ## Pictures

Call graphs in the Graphviz language. A node shows as its member, or as its class if it has none;
lines are sorted, and equal ones merge. -/

/-- The name under which a node is drawn. -/
def Node.drawn (n : Node) : String := n.member.getD n.className

namespace CallGraph

def dotLine (e : Edge) : String :=
  "\t\"" ++ e.callee.drawn ++ "\" -> \"" ++ e.caller.drawn ++ "\";\n"

def dotLines (g : CallGraph) : List String :=
  let lines : ExtTreeSet String := ExtTreeSet.ofList (g.edges.map dotLine)
  lines.toList

def dot (g : CallGraph) (label : String) : String :=
  "digraph \"" ++ lowercased label ++ "_" ++ g.granularity.name ++ "\" \x7b\n" ++
    String.join g.dotLines ++ "\x7d\n"

def dotFileName (g : Granularity) (label : String) : String := g.name ++ "-" ++ label ++ ".dot"

end CallGraph

end TestImpact
