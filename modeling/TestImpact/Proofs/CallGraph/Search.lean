import TestImpact.CallGraph.Indexed
import TestImpact.Proofs.CallGraph.Closure
import TestImpact.Proofs.CallGraph.Indexed

/-!
The search of a stored graph, round by round, against the layers of the graph it stands for. What it
finds in a round is the next layer, so it finds the same closure in as many rounds.
-/
namespace TestImpact
open Std

theorem leaving_leaving (edges : List Edge) (s t : NodeSet) :
    leaving (leaving edges s) t = leaving edges (s ∪ t) := by
  rw [leaving, leaving, leaving, List.filter_filter]
  refine List.filter_congr fun e _ => ?_
  simp [Bool.and_comm]

@[simp] theorem callersOf_empty (edges : List Edge) : callersOf edges ∅ = ∅ :=
  ExtTreeSet.ext_mem fun n => by simp [mem_callersOf]

/-- The layers above a frontier, without the edges back to what was seen. -/
def layersAbove (edges : List Edge) (seen frontier : NodeSet) : List NodeSet :=
  let next := callersOf (leaving edges seen) frontier
  layers (leaving (leaving edges seen) next) next

theorem layersAbove_eq (edges : List Edge) (seen frontier : NodeSet) :
    layersAbove edges seen frontier =
      let next := callersOf (leaving edges seen) frontier
      if next.isEmpty then [] else next :: layersAbove edges (seen ∪ next) next := by
  rw [layersAbove, layers, leaving_leaving]
  rfl

theorem layers_leaving_eq (edges : List Edge) (start : NodeSet) :
    layers (leaving edges start) start =
      if start.isEmpty then [] else start :: layersAbove edges start start := by
  rw [layers]
  rfl

namespace IndexedGraph
variable {G : Type} [PositionGraph G] {s : IndexedGraph G} {g : CallGraph} {n : Node}
  {positions frontier : List Nat} {seen : ExtTreeSet Nat} {i j : Nat}

@[simp] theorem mem_nodesAt : n ∈ s.nodesAt positions ↔ ∃ i ∈ positions, s.nodes[i]? = some n := by
  simp [nodesAt]

/-- What is seen after a round was seen before or is found in it. -/
theorem nodesAt_visit_snd (s : IndexedGraph G) (seen : ExtTreeSet Nat) (found : List Nat) :
    s.nodesAt (visit seen found).2.toList =
      s.nodesAt seen.toList ∪ s.nodesAt (visit seen found).1 := by
  refine ExtTreeSet.ext_mem fun n => ?_
  simp only [ExtTreeSet.mem_union_iff, mem_nodesAt, ExtTreeSet.mem_toList, mem_visit_fst,
    mem_visit_snd]
  constructor
  · rintro ⟨i, hi, hn⟩
    by_cases hseen : i ∈ seen
    · exact .inl ⟨i, hseen, hn⟩
    · exact .inr ⟨i, ⟨hi.resolve_left hseen, hseen⟩, hn⟩
  · rintro (⟨i, hi, hn⟩ | ⟨i, hi, hn⟩)
    · exact ⟨i, .inl hi, hn⟩
    · exact ⟨i, .inr hi.1, hn⟩

/-- Positions that hold nodes are none exactly if their nodes are none. -/
theorem isEmpty_nodesAt (h : ∀ i ∈ positions, ∃ n, s.nodes[i]? = some n) :
    (s.nodesAt positions).isEmpty = positions.isEmpty := by
  cases positions with
  | nil => rfl
  | cons i rest =>
    obtain ⟨n, hn⟩ := h i List.mem_cons_self
    have hmem : n ∈ s.nodesAt (i :: rest) := mem_nodesAt.mpr ⟨i, List.mem_cons_self, hn⟩
    rw [Bool.eq_iff_iff, ExtTreeSet.isEmpty_iff]
    constructor
    · intro hempty
      simp [hempty] at hmem
    · intro hempty
      simp at hempty

theorem Holds.exists_position (h : s.Holds g) (hn : n ∈ g.nodes) :
    ∃ i : Nat, s.nodes[i]? = some n :=
  List.mem_iff_getElem?.mp (h.numbers.nodes_eq ▸ hn)

/-- A node stands at one position. -/
theorem Holds.position_inj (h : s.Holds g) (hi : s.nodes[i]? = some n) (hj : s.nodes[j]? = some n) :
    i = j := by
  have hindex := (h.index_eq_some_iff n i).mpr hi
  rw [(h.index_eq_some_iff n j).mpr hj] at hindex
  exact (Option.some.inj hindex).symm

/-- Edges join the positions of their ends. -/
theorem Holds.mem_edges_inner (h : s.Holds g) : (i, j) ∈ PositionGraph.edges s.inner ↔
    ∃ e ∈ g.edges, s.nodes[i]? = some e.callee ∧ s.nodes[j]? = some e.caller := by
  have hposition {m : Node} {k : Nat} (hm : m ∈ g.nodes) :
      g.nodes.idxOf m = k ↔ s.nodes[k]? = some m := by
    rw [h.numbers.nodes_eq, ← idxOf?_eq_some_iff_getElem? g.nodes_nodup, idxOf?_of_mem hm,
      Option.some.injEq]
  simp only [h.edges, List.mem_map, Edge.positions, Prod.mk.injEq]
  refine exists_congr fun e => and_congr_right fun he => ?_
  rw [hposition (CallGraph.callee_mem_nodes he), hposition (CallGraph.caller_mem_nodes he)]

variable [LawfulPositionGraph G]

theorem Holds.exists_node_of_mem_callersAt (h : s.Holds g) (hj : j ∈ s.callersAt frontier) :
    ∃ n, s.nodes[j]? = some n := by
  obtain ⟨i, -, he⟩ := mem_callersAt.mp hj
  obtain ⟨e, -, -, hcaller⟩ := h.mem_edges_inner.mp he
  exact ⟨e.caller, hcaller⟩

/-- What a round finds is the next layer. -/
theorem Holds.nodesAt_visit_fst (h : s.Holds g) (seen : ExtTreeSet Nat) (frontier : List Nat) :
    s.nodesAt (visit seen (s.callersAt frontier)).1 =
      callersOf (leaving g.edges (s.nodesAt seen.toList)) (s.nodesAt frontier) := by
  refine ExtTreeSet.ext_mem fun n => ?_
  simp only [mem_callersOf, calledBy_leaving, mem_nodesAt, ExtTreeSet.mem_toList, mem_visit_fst,
    mem_callersAt, h.mem_edges_inner]
  constructor
  · rintro ⟨j, ⟨⟨i, hi, ⟨callee, caller⟩, he, hcallee, hcaller⟩, hnew⟩, hn⟩
    obtain rfl : caller = n := Option.some.inj (hcaller.symm.trans hn)
    refine ⟨callee, ⟨i, hi, hcallee⟩, he, ?_⟩
    rintro ⟨k, hk, hstands⟩
    exact hnew (h.position_inj hn hstands ▸ hk)
  · rintro ⟨m, ⟨i, hi, hm⟩, he, hnew⟩
    obtain ⟨j, hj⟩ := h.exists_position (CallGraph.caller_mem_nodes he)
    exact ⟨j, ⟨⟨i, hi, _, he, hm, hj⟩, fun hseen => hnew ⟨j, hseen, hj⟩⟩, hj⟩

theorem Holds.isEmpty_nodesAt_visit (h : s.Holds g) (seen : ExtTreeSet Nat) (frontier : List Nat) :
    (s.nodesAt (visit seen (s.callersAt frontier)).1).isEmpty =
      (visit seen (s.callersAt frontier)).1.isEmpty := by
  refine isEmpty_nodesAt fun i hi => ?_
  exact h.exists_node_of_mem_callersAt (mem_visit_fst.mp hi).1

/-- A search finds the layers above its frontier and takes a round for each. -/
theorem Holds.search_eq (h : s.Holds g) (seen : ExtTreeSet Nat) (frontier : List Nat)
    (rounds : Nat) :
    let above := layersAbove g.edges (s.nodesAt seen.toList) (s.nodesAt frontier)
    s.nodesAt (s.search seen frontier rounds).1.toList =
        above.foldl (· ∪ ·) (s.nodesAt seen.toList) ∧
      (s.search seen frontier rounds).2 = rounds + above.length := by
  induction seen, frontier, rounds using search.induct (g := s) with
  | case1 seen frontier rounds found hempty =>
    have hnone : (callersOf (leaving g.edges (s.nodesAt seen.toList))
        (s.nodesAt frontier)).isEmpty = true := by
      rw [← h.nodesAt_visit_fst, h.isEmpty_nodesAt_visit]
      exact hempty
    rw [search, if_pos hempty, layersAbove_eq, if_pos hnone]
    refine ⟨?_, rfl⟩
    rw [nodesAt_visit_snd, h.nodesAt_visit_fst, ExtTreeSet.isEmpty_iff.mp hnone]
    exact ExtTreeSet.ext_mem fun n => by simp
  | case2 seen frontier rounds found hne ih =>
    have hsome : ¬ (callersOf (leaving g.edges (s.nodesAt seen.toList))
        (s.nodesAt frontier)).isEmpty = true := by
      rw [← h.nodesAt_visit_fst, h.isEmpty_nodesAt_visit]
      exact hne
    have hseen := s.nodesAt_visit_snd seen (s.callersAt frontier)
    rw [h.nodesAt_visit_fst] at hseen
    -- the rest of the search goes on from what is seen now, with what was just found
    obtain ⟨hnodes, hrounds⟩ := ih
    rw [hseen, h.nodesAt_visit_fst] at hnodes hrounds
    rw [search, if_neg hne, layersAbove_eq, if_neg hsome]
    constructor
    · rw [hnodes]
      rfl
    · rw [hrounds, List.length_cons]
      omega

/-- A position has neighbors exactly if something calls the node there. -/
theorem Holds.neighbors_isEmpty_eq_false_iff (h : s.Holds g) (hn : s.nodes[i]? = some n) :
    (PositionGraph.neighbors s.inner i).isEmpty = false ↔ ∃ m, CalledBy g.edges n m := by
  simp only [List.isEmpty_eq_false_iff_exists_mem, mem_neighbors, h.mem_edges_inner]
  constructor
  · rintro ⟨j, ⟨callee, caller⟩, he, hcallee, -⟩
    obtain rfl : callee = n := Option.some.inj (hcallee.symm.trans hn)
    exact ⟨caller, he⟩
  · rintro ⟨m, he⟩
    obtain ⟨j, hj⟩ := h.exists_position (CallGraph.caller_mem_nodes he)
    exact ⟨j, _, he, hn, hj⟩

theorem Holds.mem_seedsAt (h : s.Holds g) {seeds : List Node} : i ∈ s.seedsAt seeds ↔
    ∃ n ∈ g.calledSeeds seeds, s.nodes[i]? = some n := by
  simp only [seedsAt, List.mem_filter, List.mem_filterMap, h.index_eq_some_iff, Bool.not_eq_true',
    CallGraph.mem_calledSeeds]
  constructor
  · rintro ⟨⟨n, hseed, hn⟩, hcalled⟩
    exact ⟨n, ⟨hseed, (h.neighbors_isEmpty_eq_false_iff hn).mp hcalled⟩, hn⟩
  · rintro ⟨n, ⟨hseed, hcalled⟩, hn⟩
    exact ⟨⟨n, hseed, hn⟩, (h.neighbors_isEmpty_eq_false_iff hn).mpr hcalled⟩

theorem Holds.nodesAt_seedsAt (h : s.Holds g) (seeds : List Node) :
    s.nodesAt (visit ∅ (s.seedsAt seeds)).1 = g.calledSeeds seeds := by
  refine ExtTreeSet.ext_mem fun n => ?_
  simp only [mem_nodesAt, mem_visit_fst, h.mem_seedsAt, ExtTreeSet.not_mem_empty,
    not_false_eq_true, and_true]
  constructor
  · rintro ⟨i, ⟨m, hm, hstands⟩, hn⟩
    exact Option.some.inj (hstands.symm.trans hn) ▸ hm
  · intro hn
    obtain ⟨-, caller, he⟩ := CallGraph.mem_calledSeeds.mp hn
    obtain ⟨i, hi⟩ := h.exists_position (CallGraph.callee_mem_nodes he)
    exact ⟨i, ⟨n, hn, hi⟩, hi⟩

/-- A stored graph finds the closure of the graph it stands for, in the same number of rounds. -/
theorem Holds.closure_eq (h : s.Holds g) (seeds : List Node) :
    s.closure seeds = g.closure seeds := by
  have hstart := h.nodesAt_seedsAt seeds
  have hseen : s.nodesAt (visit ∅ (s.seedsAt seeds)).2.toList = g.calledSeeds seeds := by
    rw [nodesAt_visit_snd, hstart]
    exact ExtTreeSet.ext_mem fun n => by simp
  have hempty : (g.calledSeeds seeds).isEmpty = (visit ∅ (s.seedsAt seeds)).1.isEmpty := by
    rw [← hstart]
    refine isEmpty_nodesAt fun i hi => ?_
    obtain ⟨n, -, hn⟩ := h.mem_seedsAt.mp (mem_visit_fst.mp hi).1
    exact ⟨n, hn⟩
  obtain ⟨hnodes, hrounds⟩ := h.search_eq (visit ∅ (s.seedsAt seeds)).2
    (visit ∅ (s.seedsAt seeds)).1 (if (g.calledSeeds seeds).isEmpty then 0 else 1)
  rw [hseen, hstart] at hnodes hrounds
  rw [closure, CallGraph.closure, layers_leaving_eq, ← hempty, Closure.mk.injEq, hnodes, hrounds]
  split
  · rename_i hnone
    rw [ExtTreeSet.isEmpty_iff.mp hnone, layersAbove_eq]
    simp
  · constructor
    · refine ExtTreeSet.ext_mem fun n => ?_
      simp [mem_foldl_union]
    · rw [List.length_cons]
      omega

end IndexedGraph

/-! ### What a search finds -/

/-- However a graph is built, the closure of any seeds is what lies above a called one, and the
search of a stored graph finds just that. Each round adds a node, so it ends within as many rounds
as the graph has nodes. -/
theorem CallGraph.closure_ofEdges (G : Type) [PositionGraph G] [LawfulPositionGraph G]
    (level : Granularity) (added : List Edge) (seeds : List Node) :
    let found := (ofEdges level added).closure seeds
    (∀ n, n ∈ found.nodes ↔
      Affected (fun callee caller => ⟨callee, caller⟩ ∈ added) {s | s ∈ seeds} n) ∧
    found.rounds ≤ (ofEdges level added).nodeCount ∧
    ((IndexedGraph.new level : IndexedGraph G).addEdges added).2.closure seeds = found := by
  intro found
  refine ⟨fun n => ?_, rounds_closure_le.trans size_closure_le, ?_⟩
  · rw [mem_closure, calledBy_ofEdges]
    rfl
  · exact ((IndexedGraph.holds_new level).addEdges added).closure_eq seeds

/-- A seed twice, one outside the graph, a self loop and a cycle. What the cycle calls is not
found. -/
theorem CallGraph.closure_ofEdges_of_cycle :
    let a : Node := .ofClass "a.A"
    let b : Node := .ofMethod "b.B" "run"
    let c : Node := .ofClass "c.C"
    let added : List Edge := [⟨a, b⟩, ⟨b, b⟩, ⟨b, a⟩, ⟨c, a⟩]
    let seeds : List Node := [.ofClass "z.Z", a, a]
    let stored := ((IndexedGraph.new .class : IndexedGraph ListedGraph).addEdges added).2
    b ∈ (stored.closure seeds).nodes ∧ c ∉ (stored.closure seeds).nodes ∧
      Affected (fun callee caller => ⟨callee, caller⟩ ∈ added) {s | s ∈ seeds} b ∧
      ¬ Affected (fun callee caller => ⟨callee, caller⟩ ∈ added) {s | s ∈ seeds} c ∧
      (stored.closure seeds).rounds ≤ 3 := by
  intro a b c added seeds stored
  obtain ⟨hmem, hrounds, hstored⟩ := closure_ofEdges ListedGraph .class added seeds
  have hb : b ∈ ((ofEdges .class added).closure seeds).nodes := by decide +kernel
  have hc : c ∉ ((ofEdges .class added).closure seeds).nodes := by decide +kernel
  have hsize : (ofEdges .class added).nodeCount = 3 := by decide +kernel
  rw [hstored]
  exact ⟨hb, hc, (hmem b).mp hb, mt (hmem c).mpr hc, hsize ▸ hrounds⟩

/-- What was found, and in how many rounds, is told by how many calls above a called seed each node
lies. -/
structure TakesRounds (edges : List Edge) (seeds : List Node) (found : Closure) : Prop where
  mem_nodes : ∀ n, n ∈ found.nodes ↔ (heights (CalledBy edges) {s | s ∈ seeds} n).Nonempty
  rounds_of_empty : found.nodes = ∅ → found.rounds = 0
  /-- The rounds are one more than the greatest of the least heights. -/
  rounds_of_ne_empty : found.nodes ≠ ∅ → ∃ top, found.rounds = 1 + top ∧
    IsGreatest {d | ∃ n ∈ found.nodes, IsLeast (heights (CalledBy edges) {s | s ∈ seeds} n) d} top
  rounds_le_size : found.rounds ≤ found.nodes.size

theorem CallGraph.takesRounds_closure (level : Granularity) (added : List Edge)
    (seeds : List Node) : TakesRounds added seeds ((ofEdges level added).closure seeds) := by
  have hheights (n : Node) : heights (CalledBy added) {s | s ∈ seeds} n =
      heights (CalledBy (ofEdges level added).edges) {s | s ∈ seeds} n := by
    rw [calledBy_ofEdges]
  constructor
  case mem_nodes =>
    intro n
    rw [mem_closure, affected_iff_nonempty_heights, hheights]
  case rounds_of_empty => exact rounds_closure_eq_zero_iff.mpr
  case rounds_of_ne_empty =>
    simp only [hheights]
    exact exists_isGreatest_heights
  case rounds_le_size => exact rounds_closure_le

/-- A search that finds nothing takes no round. Any other takes one round more than there are calls
on the way to what lies highest, where the shortest way up from a called seed counts; so it takes no
more rounds than it finds nodes. -/
theorem IndexedGraph.rounds_closure_addEdges {G : Type} [PositionGraph G] [LawfulPositionGraph G]
    (level : Granularity) (added : List Edge) (seeds : List Node) :
    let graph := ((new level : IndexedGraph G).addEdges added).2
    let found := graph.closure seeds
    found = (CallGraph.ofEdges level added).closure seeds ∧ TakesRounds added seeds found ∧
      found.nodes.size ≤ graph.nodeCount := by
  intro graph found
  have hholds : graph.Holds (.ofEdges level added) := (holds_new level).addEdges added
  have hfound : found = (CallGraph.ofEdges level added).closure seeds := hholds.closure_eq seeds
  rw [hfound, hholds.nodeCount_eq]
  exact ⟨rfl, CallGraph.takesRounds_closure level added seeds, CallGraph.size_closure_le⟩

/-- A shortcut past one node, a cycle, a seed that nothing calls and one that is not in the graph:
the highest node lies two calls up. -/
theorem IndexedGraph.rounds_closure_past_shortcut :
    let a : Node := .ofClass "a.A"
    let b : Node := .ofClass "b.B"
    let c : Node := .ofClass "c.C"
    let d : Node := .ofClass "d.D"
    let added : List Edge := [⟨a, b⟩, ⟨b, c⟩, ⟨a, c⟩, ⟨c, d⟩, ⟨c, a⟩]
    let seeds : List Node := [.ofClass "z.Z", a, d]
    let found := ((new .class : IndexedGraph ListedGraph).addEdges added).2.closure seeds
    found.nodes ≠ ∅ ∧ found.rounds = 3 ∧ found.nodes.size = 4 ∧
      IsGreatest {k | ∃ n ∈ found.nodes,
        IsLeast (heights (CalledBy added) {s | s ∈ seeds} n) k} 2 := by
  intro a b c d added seeds found
  obtain ⟨-, htakes, -⟩ := rounds_closure_addEdges (G := ListedGraph) .class added seeds
  have hsize : found.nodes.size = 4 := by decide +kernel
  have hrounds : found.rounds = 3 := by decide +kernel
  have hne : found.nodes ≠ ∅ := by
    intro hempty
    rw [hempty] at hsize
    simp at hsize
  obtain ⟨top, htop, hgreatest⟩ := htakes.rounds_of_ne_empty hne
  obtain rfl : top = 2 := by
    have : found.rounds = 1 + top := htop
    omega
  exact ⟨hne, hrounds, hsize, hgreatest⟩

end TestImpact
