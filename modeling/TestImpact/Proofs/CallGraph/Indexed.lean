import TestImpact.CallGraph.Indexed
import TestImpact.Proofs.CallGraph.Closure
import Mathlib.Data.Finset.Card
import Mathlib.Data.List.Basic
import Mathlib.Data.List.Nodup

/-!
A stored graph and the graph it stands for. The index stays inverse to the positions while nodes and
edges are added, so the store holds the edges that were added, each once, and their endpoints.
-/
namespace TestImpact
open Std

/-! ### Positions in a list of nodes -/

section Positions
variable {nodes : List Node} {n m : Node} {i : Nat}

theorem idxOf?_of_mem (h : n ∈ nodes) : nodes.idxOf? n = some (nodes.idxOf n) :=
  List.findIdx?_eq_some_of_exists ⟨n, h, beq_self_eq_true n⟩

theorem idxOf?_concat (h : n ∉ nodes) :
    (nodes ++ [n]).idxOf? m = if n = m then some nodes.length else nodes.idxOf? m := by
  by_cases hm : m ∈ nodes
  · have hne : n ≠ m := fun he => h (he ▸ hm)
    rw [idxOf?_of_mem hm, idxOf?_of_mem (List.mem_append_left _ hm), List.idxOf_append_of_mem hm,
      if_neg hne]
  · split
    · rename_i he
      subst he
      rw [idxOf?_of_mem (by simp), List.idxOf_append, if_neg h]
      simp
    · rename_i hne
      rw [List.idxOf?_eq_none_iff.mpr hm, List.idxOf?_eq_none_iff]
      simp [hm, Ne.symm hne]

/-- Where no node repeats, the position of a node is the one that holds it. -/
theorem idxOf?_eq_some_iff_getElem? (h : nodes.Nodup) :
    nodes.idxOf? n = some i ↔ nodes[i]? = some n := by
  constructor
  · intro hi
    obtain ⟨hlt, hget, -⟩ := List.idxOf?_eq_some_iff.mp hi
    exact List.getElem?_eq_some_iff.mpr ⟨hlt, hget⟩
  · intro hget
    obtain ⟨hlt, rfl⟩ := List.getElem?_eq_some_iff.mp hget
    rw [idxOf?_of_mem (List.getElem_mem hlt), h.idxOf_getElem i hlt]

theorem idxOf_intern (h : m ∈ nodes) : (CallGraph.intern nodes n).idxOf m = nodes.idxOf m := by
  unfold CallGraph.intern
  split
  · rfl
  · exact List.idxOf_append_of_mem h

/-- Add the two ends of an edge unless they are there. -/
def CallGraph.internEnds (nodes : List Node) (e : Edge) : List Node :=
  intern (intern nodes e.callee) e.caller

theorem CallGraph.mem_internEnds {e : Edge} :
    n ∈ internEnds nodes e ↔ n ∈ nodes ∨ n = e.callee ∨ n = e.caller := by
  rw [internEnds, mem_intern, mem_intern, or_assoc]

theorem CallGraph.internEnds_of_mem {g : CallGraph} {e : Edge} (h : e ∈ g.edges) :
    internEnds g.nodes e = g.nodes := by
  rw [internEnds, intern, intern, if_pos (callee_mem_nodes h), if_pos (caller_mem_nodes h)]

/-- The positions of the two ends of an edge. -/
def Edge.positions (nodes : List Node) (e : Edge) : Nat × Nat :=
  (nodes.idxOf e.callee, nodes.idxOf e.caller)

/-- Edges between nodes of the list keep their positions while nodes are interned. -/
theorem map_positions_internEnds {edges : List Edge} (e : Edge)
    (h : ∀ d ∈ edges, d.callee ∈ nodes ∧ d.caller ∈ nodes) :
    edges.map (Edge.positions (CallGraph.internEnds nodes e)) =
      edges.map (Edge.positions nodes) := by
  have hposition {n : Node} (hn : n ∈ nodes) :
      (CallGraph.internEnds nodes e).idxOf n = nodes.idxOf n := by
    rw [CallGraph.internEnds, idxOf_intern (CallGraph.mem_intern.mpr (.inl hn)), idxOf_intern hn]
  refine List.map_congr_left fun d hd => ?_
  rw [Edge.positions, hposition (h d hd).1, hposition (h d hd).2, Edge.positions]

/-- Different edges between nodes of the list have different positions. -/
theorem positions_mem_map_iff {edges : List Edge} {e : Edge}
    (h : ∀ d ∈ edges, d.callee ∈ nodes ∧ d.caller ∈ nodes) :
    e.positions nodes ∈ edges.map (Edge.positions nodes) ↔ e ∈ edges := by
  constructor
  · intro hmem
    obtain ⟨d, hd, hpositions⟩ := List.mem_map.mp hmem
    obtain ⟨hcallee, hcaller⟩ := Prod.mk.inj hpositions
    have heq : d = e := by
      cases d
      cases e
      exact Edge.mk.injEq .. ▸
        ⟨(List.idxOf_inj (h _ hd).1).mp hcallee, (List.idxOf_inj (h _ hd).2).mp hcaller⟩
    exact heq ▸ hd
  · exact List.mem_map_of_mem

end Positions

namespace IndexedGraph
variable {G : Type} [PositionGraph G] {s : IndexedGraph G} {g : CallGraph} {nodes : List Node}

/-- The store has these nodes in this order, and the index tells their positions. -/
structure Numbers (s : IndexedGraph G) (nodes : List Node) : Prop where
  nodes_eq : s.nodes = nodes
  index_eq : ∀ n, s.index[n]? = nodes.idxOf? n

theorem Numbers.idxOf_lt {n : Node} (h : s.Numbers nodes) (hn : n ∈ nodes) :
    nodes.idxOf n < (PositionGraph.nodes s.inner).length := by
  rw [← IndexedGraph.nodes, h.nodes_eq]
  exact List.idxOf_lt_length_iff.mpr hn

/-- The store stands for the graph: it has the same nodes at the same positions and the same edges
in the same order. -/
structure Holds (s : IndexedGraph G) (g : CallGraph) : Prop where
  granularity : s.granularity = g.granularity
  numbers : s.Numbers g.nodes
  edges : PositionGraph.edges s.inner = g.edges.map (Edge.positions g.nodes)

/-! ### What a store shows -/

theorem Holds.nodeCount_eq (h : s.Holds g) : s.nodeCount = g.nodeCount := by
  rw [IndexedGraph.nodeCount, h.numbers.nodes_eq, CallGraph.nodeCount]

theorem Holds.edgeCount_eq (h : s.Holds g) : s.edgeCount = g.edgeCount := by
  rw [IndexedGraph.edgeCount, h.edges, List.length_map, CallGraph.edgeCount]

/-- The index is the inverse of the positions. -/
theorem Holds.index_eq_some_iff (h : s.Holds g) (n : Node) (i : Nat) :
    s.index[n]? = some i ↔ s.nodes[i]? = some n := by
  rw [h.numbers.index_eq, h.numbers.nodes_eq, idxOf?_eq_some_iff_getElem? g.nodes_nodup]

theorem Holds.contains_eq (h : s.Holds g) (n : Node) : s.contains n = g.contains n := by
  have hindex := h.numbers.index_eq n
  rw [Bool.eq_iff_iff, IndexedGraph.contains, CallGraph.contains, List.contains_iff_mem,
    ExtTreeMap.contains_eq_isSome_getElem?, hindex, List.isSome_idxOf?]

theorem Holds.edges_eq (h : s.Holds g) : s.edges = g.edges := by
  rw [IndexedGraph.edges, h.edges, h.numbers.nodes_eq, List.filterMap_map]
  refine (List.filterMap_congr fun e he => ?_).trans List.filterMap_some
  simp [Edge.positions, List.getElem?_idxOf (CallGraph.callee_mem_nodes he),
    List.getElem?_idxOf (CallGraph.caller_mem_nodes he)]

theorem Holds.edges_leaving (h : s.Holds g) (n : Node) :
    (PositionGraph.edges s.inner).filter (fun e => e.1 == g.nodes.idxOf n) =
      (g.edges.filter fun e => e.callee == n).map (Edge.positions g.nodes) := by
  rw [h.edges, List.filter_map]
  refine congrArg _ (List.filter_congr fun e he => ?_)
  rw [Bool.eq_iff_iff]
  simp [Edge.positions, List.idxOf_inj (CallGraph.callee_mem_nodes he)]

/-- The edges that leave a position lead to the callers of the node there, in some order. -/
theorem Holds.callers_perm [LawfulPositionGraph G] (h : s.Holds g) (n : Node) :
    (s.callers n).Perm (g.callers n) := by
  rw [IndexedGraph.callers, h.numbers.index_eq]
  by_cases hn : n ∈ g.nodes
  · rw [idxOf?_of_mem hn]
    refine ((LawfulPositionGraph.neighbors_perm s.inner _).filterMap _).trans (.of_eq ?_)
    rw [h.edges_leaving, List.map_map, List.filterMap_map, CallGraph.callers,
      ← List.filterMap_eq_map]
    refine List.filterMap_congr fun e he => ?_
    have hcaller := CallGraph.caller_mem_nodes (List.mem_filter.mp he).1
    simp [Edge.positions, h.numbers.nodes_eq, List.getElem?_idxOf hcaller]
  · have hnone : g.callers n = [] := by
      refine List.eq_nil_iff_forall_not_mem.mpr fun m hm => hn ?_
      exact CallGraph.callee_mem_nodes (CallGraph.mem_callers.mp hm)
    rw [List.idxOf?_eq_none_iff.mpr hn, hnone]

/-! ### Steps -/

variable [LawfulPositionGraph G]

theorem holds_new (level : Granularity) : (new level : IndexedGraph G).Holds (.empty level) where
  granularity := rfl
  numbers :=
    { nodes_eq := LawfulPositionGraph.nodes_empty
      index_eq := fun _ => ExtTreeMap.getElem?_empty }
  edges := LawfulPositionGraph.edges_empty

/-- A node that is interned is found, and nothing else is moved. -/
theorem Numbers.intern (h : s.Numbers nodes) (n : Node) :
    (s.intern n).1 = (CallGraph.intern nodes n).idxOf n ∧
      (s.intern n).2.Numbers (CallGraph.intern nodes n) ∧
      PositionGraph.edges (s.intern n).2.inner = PositionGraph.edges s.inner ∧
      (s.intern n).2.granularity = s.granularity := by
  by_cases hn : n ∈ nodes
  · have hindex : s.index[n]? = some (nodes.idxOf n) := (h.index_eq n).trans (idxOf?_of_mem hn)
    have hintern : s.intern n = (nodes.idxOf n, s) := by rw [IndexedGraph.intern, hindex]
    rw [hintern, CallGraph.intern, if_pos hn]
    exact ⟨rfl, h, rfl, rfl⟩
  · have hindex : s.index[n]? = none := (h.index_eq n).trans (List.idxOf?_eq_none_iff.mpr hn)
    have hposition : (PositionGraph.addNode s.inner n).1 = nodes.length :=
      (LawfulPositionGraph.addNode_fst _ _).trans (congrArg List.length h.nodes_eq)
    have hintern : s.intern n = (nodes.length,
        { s with
          inner := (PositionGraph.addNode s.inner n).2
          index := s.index.insert n nodes.length }) := by
      rw [IndexedGraph.intern, hindex, ← hposition]
    rw [hintern, CallGraph.intern, if_neg hn]
    refine ⟨?_, ⟨?_, ?_⟩, LawfulPositionGraph.edges_addNode _ _, rfl⟩
    · rw [List.idxOf_append, if_neg hn]
      simp
    · exact (LawfulPositionGraph.nodes_addNode _ _).trans (congrArg (· ++ [n]) h.nodes_eq)
    · intro m
      rw [ExtTreeMap.getElem?_insert, idxOf?_concat hn, h.index_eq]
      simp only [LawfulEqCmp.compare_eq_iff_eq]

theorem Numbers.internEnds (h : s.Numbers nodes) (e : Edge) :
    (s.internEnds e).1 = e.positions (CallGraph.internEnds nodes e) ∧
      (s.internEnds e).2.Numbers (CallGraph.internEnds nodes e) ∧
      PositionGraph.edges (s.internEnds e).2.inner = PositionGraph.edges s.inner ∧
      (s.internEnds e).2.granularity = s.granularity := by
  obtain ⟨hcallee, hnumbers, hedges, hlevel⟩ := h.intern e.callee
  obtain ⟨hcaller, hnumbers', hedges', hlevel'⟩ := hnumbers.intern e.caller
  refine ⟨Prod.ext ?_ hcaller, hnumbers', hedges'.trans hedges, hlevel'.trans hlevel⟩
  exact hcallee.trans (idxOf_intern (CallGraph.mem_intern.mpr (.inr rfl))).symm

/-- One step: the store and the graph answer alike, and the store goes on standing for the graph. -/
theorem Holds.addEdge (h : s.Holds g) (e : Edge) :
    (s.addEdge e).1 = (g.addEdge e).1 ∧ (s.addEdge e).2.Holds (g.addEdge e).2 := by
  obtain ⟨hends, hnumbers, hedges, hlevel⟩ := h.numbers.internEnds e
  rcases hs : s.internEnds e with ⟨⟨i, j⟩, s'⟩
  simp only [hs] at hends hnumbers hedges hlevel
  have hknown : ∀ d ∈ g.edges, d.callee ∈ g.nodes ∧ d.caller ∈ g.nodes := fun _ hd =>
    ⟨CallGraph.callee_mem_nodes hd, CallGraph.caller_mem_nodes hd⟩
  have hinner : PositionGraph.edges s'.inner =
      g.edges.map (Edge.positions (CallGraph.internEnds g.nodes e)) := by
    rw [hedges, h.edges, map_positions_internEnds e hknown]
  -- The look-up is at the two positions after both ends were interned, where only `e` can stand.
  have hmem : (i, j) ∈ PositionGraph.edges s'.inner ↔ e ∈ g.edges := by
    rw [hinner, hends]
    refine positions_mem_map_iff fun d hd => ?_
    exact (hknown d hd).imp (fun hn => CallGraph.mem_internEnds.mpr (.inl hn))
      fun hn => CallGraph.mem_internEnds.mpr (.inl hn)
  rw [IndexedGraph.addEdge, hs, CallGraph.addEdge]
  dsimp only
  split
  · rename_i k hfind
    have he : e ∈ g.edges :=
      hmem.mp (List.mem_of_getElem? (LawfulPositionGraph.getElem?_findEdge hfind))
    rw [dif_pos he]
    rw [CallGraph.internEnds_of_mem he] at hnumbers hinner
    exact ⟨rfl, hlevel.trans h.granularity, hnumbers, hinner⟩
  · rename_i hfind
    have he : e ∉ g.edges := mt hmem.mpr (LawfulPositionGraph.findEdge_eq_none hfind)
    rw [dif_neg he]
    obtain ⟨hcallee, hcaller⟩ := Prod.mk.inj hends
    have hi : i < (PositionGraph.nodes s'.inner).length :=
      hcallee ▸ hnumbers.idxOf_lt (CallGraph.mem_internEnds.mpr (.inr (.inl rfl)))
    have hj : j < (PositionGraph.nodes s'.inner).length :=
      hcaller ▸ hnumbers.idxOf_lt (CallGraph.mem_internEnds.mpr (.inr (.inr rfl)))
    refine ⟨rfl, hlevel.trans h.granularity, ⟨?_, hnumbers.index_eq⟩, ?_⟩
    · exact (LawfulPositionGraph.nodes_addEdge _ hi hj).trans hnumbers.nodes_eq
    · rw [LawfulPositionGraph.edges_addEdge _ hi hj, hinner, hends, List.map_append]
      rfl

/-! ### Whole runs -/

/-- The graph after edges were added to it one after the other. -/
theorem Holds.addEdges (h : s.Holds g) (added : List Edge) :
    (s.addEdges added).2.Holds (added.foldl (fun g e => (g.addEdge e).2) g) := by
  induction added generalizing s g with
  | nil => exact h
  | cons e rest ih => exact ih (h.addEdge e).2

/-- A flag is set where the edge is neither in the graph nor added before. -/
theorem Holds.getElem?_flags (h : s.Holds g) (added : List Edge) (i : Nat) :
    (s.addEdges added).1[i]? = added[i]?.map fun e => decide (e ∉ g.edges ∧ e ∉ added.take i) := by
  induction added generalizing s g i with
  | nil => rfl
  | cons e rest ih =>
    obtain ⟨hflag, hholds⟩ := h.addEdge e
    cases i with
    | zero =>
      rw [CallGraph.addEdge_fst] at hflag
      simpa [IndexedGraph.addEdges] using hflag
    | succ i =>
      refine (ih hholds i).trans ?_
      simp [CallGraph.mem_edges_addEdge, and_assoc]

/-- Each flag that is set counts an edge. -/
theorem Holds.edgeCount_addEdges (h : s.Holds g) (added : List Edge) :
    (s.addEdges added).2.edgeCount = s.edgeCount + (s.addEdges added).1.count true := by
  induction added generalizing s g with
  | nil => rfl
  | cons e rest ih =>
    obtain ⟨hflag, hholds⟩ := h.addEdge e
    have hstep : (s.addEdge e).2.edgeCount = s.edgeCount + (s.addEdge e).1.toNat := by
      rw [hholds.edgeCount_eq, h.edgeCount_eq, hflag, CallGraph.edgeCount_addEdge]
    have hcount : ((s.addEdges (e :: rest)).1).count true =
        (s.addEdge e).1.toNat + ((s.addEdge e).2.addEdges rest).1.count true := by
      rw [IndexedGraph.addEdges, List.count_cons]
      cases (s.addEdge e).1 <;> simp [Nat.add_comm]
    rw [hcount, ← Nat.add_assoc, ← hstep]
    exact ih hholds

/-- What a graph shows after edges were added to a new one: the index and the positions are inverse
to each other, and the nodes, the edges and the callers are those of the added edges, each once. -/
structure Shows (s : IndexedGraph G) (added : List Edge) : Prop where
  index_eq_some_iff : ∀ (n : Node) (i : Nat), s.index[n]? = some i ↔ s.nodes[i]? = some n
  nodup_nodes : s.nodes.Nodup
  mem_nodes : ∀ n, n ∈ s.nodes ↔ ∃ e ∈ added, n = e.callee ∨ n = e.caller
  nodup_edges : s.edges.Nodup
  mem_edges : ∀ e, e ∈ s.edges ↔ e ∈ added
  nodup_callers : ∀ n, (s.callers n).Nodup
  mem_callers : ∀ n m, m ∈ s.callers n ↔ ⟨n, m⟩ ∈ added
  callers_eq_nil : ∀ n, s.contains n = false → s.callers n = []
  nodeCount_eq : s.nodeCount = (added.flatMap fun e => [e.callee, e.caller]).toFinset.card
  edgeCount_eq : s.edgeCount = added.toFinset.card

theorem Holds.shows {level : Granularity} {added : List Edge}
    (h : s.Holds (.ofEdges level added)) : s.Shows added where
  index_eq_some_iff := h.index_eq_some_iff
  nodup_nodes := h.numbers.nodes_eq ▸ CallGraph.nodes_nodup _
  mem_nodes n := by
    rw [h.numbers.nodes_eq, CallGraph.mem_nodes]
    simp only [CallGraph.mem_edges_ofEdges]
  nodup_edges := h.edges_eq ▸ CallGraph.edges_nodup _
  mem_edges e := by rw [h.edges_eq, CallGraph.mem_edges_ofEdges]
  nodup_callers n := (h.callers_perm n).nodup_iff.mpr (CallGraph.nodup_callers _ n)
  mem_callers n m := by
    rw [(h.callers_perm n).mem_iff, CallGraph.mem_callers, CallGraph.mem_edges_ofEdges]
  callers_eq_nil n hn := by
    rw [h.contains_eq, CallGraph.contains, List.contains_eq_mem, decide_eq_false_iff_not] at hn
    refine List.eq_nil_iff_forall_not_mem.mpr fun m hm => hn ?_
    exact CallGraph.callee_mem_nodes (CallGraph.mem_callers.mp ((h.callers_perm n).mem_iff.mp hm))
  nodeCount_eq := by
    rw [h.nodeCount_eq, CallGraph.nodeCount,
      ← List.toFinset_card_of_nodup (CallGraph.nodes_nodup _)]
    congr 1
    ext n
    simp [CallGraph.mem_nodes]
  edgeCount_eq := by
    rw [h.edgeCount_eq, CallGraph.edgeCount,
      ← List.toFinset_card_of_nodup (CallGraph.edges_nodup _)]
    congr 1
    ext e
    simp

/-- After any edges were added to a new graph, the graph shows these edges; a flag was set where the
edge had not been added before, and the edges are as many as the flags that were set. -/
theorem addEdges_new (level : Granularity) (added : List Edge) :
    let run := (new level : IndexedGraph G).addEdges added
    run.2.Holds (.ofEdges level added) ∧ run.2.Shows added ∧
      (∀ i, run.1[i]? = added[i]?.map fun e => decide (e ∉ added.take i)) ∧
      run.2.edgeCount = run.1.count true := by
  intro run
  have hnew := holds_new (G := G) level
  have hholds : run.2.Holds (.ofEdges level added) := hnew.addEdges added
  refine ⟨hholds, hholds.shows, fun i => ?_, ?_⟩
  · simpa [CallGraph.empty] using hnew.getElem?_flags added i
  · have hcount := hnew.edgeCount_addEdges added
    rwa [hnew.edgeCount_eq, CallGraph.edgeCount, CallGraph.empty, List.length_nil,
      Nat.zero_add] at hcount

/-- A self loop, an edge from the same callee, the self loop again and the way back are three edges
between two nodes. -/
theorem addEdges_new_self_loop_again :
    let a : Node := ⟨"a.A", none⟩
    let b : Node := ⟨"b.B", none⟩
    let run := (new .class : IndexedGraph ListedGraph).addEdges [⟨a, a⟩, ⟨a, b⟩, ⟨a, a⟩, ⟨b, a⟩]
    run.1 = [true, true, false, true] ∧ run.2.edgeCount = 3 ∧ run.2.nodeCount = 2 ∧
      run.2.index[b]? = some 1 ∧ run.2.callers a = [b, a] ∧ (run.2.callers a).Nodup := by
  intro a b run
  obtain ⟨-, hshows, -, hcount⟩ :=
    addEdges_new (G := ListedGraph) .class [⟨a, a⟩, ⟨a, b⟩, ⟨a, a⟩, ⟨b, a⟩]
  have hflags : run.1 = [true, true, false, true] := by decide +kernel
  have hnodes : run.2.nodes = [a, b] := by decide +kernel
  refine ⟨hflags, ?_, ?_, ?_, by decide +kernel, hshows.nodup_callers a⟩
  · rw [hcount, hflags]
    rfl
  · rw [hshows.nodeCount_eq]
    rfl
  · rw [hshows.index_eq_some_iff, hnodes]
    rfl

end IndexedGraph
end TestImpact
