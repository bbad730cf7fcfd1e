import TestImpact.CallGraph
import TestImpact.Proofs.CallGraph.Closure
import TestImpact.Proofs.CallGraph.Search

/-!
Laws of closures: graphs with the same edges, more seeds, seeds that were closed before, and one
edge more.
-/
namespace TestImpact
open Std

/-! ## The same edges

Graphs with the same edges. They may list nodes, edges and callers in different orders, but draw the
same picture and close the same seeds in as many rounds. -/

/-- Sets of lists with the same members are equal. -/
theorem setOfList_congr {α : Type} [Ord α] [TransOrd α] [LawfulEqOrd α] [BEq α] [LawfulBEq α]
    {l l' : List α} (h : ∀ a, a ∈ l ↔ a ∈ l') : ExtTreeSet.ofList l = ExtTreeSet.ofList l' :=
  ExtTreeSet.ext_mem fun a => by simp [h a]

namespace CallGraph
variable {g g' : CallGraph}

/-- The graphs have the same edges at the same level. -/
structure Alike (g g' : CallGraph) : Prop where
  granularity : g.granularity = g'.granularity
  mem_edges : ∀ e, e ∈ g.edges ↔ e ∈ g'.edges

theorem Alike.refl (g : CallGraph) : g.Alike g := ⟨rfl, fun _ => Iff.rfl⟩

theorem alike_ofEdges {level : Granularity} {added added' : List Edge}
    (h : ∀ e, e ∈ added ↔ e ∈ added') : (ofEdges level added).Alike (ofEdges level added') where
  granularity := by rw [granularity_ofEdges, granularity_ofEdges]
  mem_edges e := by rw [mem_edges_ofEdges, mem_edges_ofEdges, h]

theorem Alike.calledBy_eq (h : g.Alike g') : CalledBy g.edges = CalledBy g'.edges := by
  funext callee caller
  exact propext (h.mem_edges _)

theorem Alike.mem_nodes (h : g.Alike g') (n : Node) : n ∈ g.nodes ↔ n ∈ g'.nodes := by
  rw [mem_nodes_iff_calledBy, mem_nodes_iff_calledBy, h.calledBy_eq]

theorem Alike.edges_perm (h : g.Alike g') : g.edges.Perm g'.edges :=
  (List.perm_ext_iff_of_nodup g.edges_nodup g'.edges_nodup).mpr h.mem_edges

theorem Alike.nodes_perm (h : g.Alike g') : g.nodes.Perm g'.nodes :=
  (List.perm_ext_iff_of_nodup g.nodes_nodup g'.nodes_nodup).mpr h.mem_nodes

theorem Alike.callers_perm (h : g.Alike g') (n : Node) : (g.callers n).Perm (g'.callers n) :=
  (h.edges_perm.filter _).map _

theorem Alike.contains_eq (h : g.Alike g') (n : Node) : g.contains n = g'.contains n := by
  rw [Bool.eq_iff_iff, contains, contains, List.contains_iff_mem, List.contains_iff_mem,
    h.mem_nodes]

/-- The lines of the picture are sorted and each is there once, so only the edges matter. -/
theorem Alike.dot_eq (h : g.Alike g') (label : String) : g.dot label = g'.dot label := by
  have hlines : g.dotLines = g'.dotLines := by
    have hset := setOfList_congr fun line => (h.edges_perm.map dotLine).mem_iff (a := line)
    exact congrArg ExtTreeSet.toList hset
  unfold dot
  rw [hlines, h.granularity]

/-- Closures of the same seeds in graphs with the same edges have the same heights. -/
theorem Alike.closure_eq (h : g.Alike g') {seeds seeds' : List Node}
    (hseeds : ∀ n, n ∈ seeds ↔ n ∈ seeds') : g.closure seeds = g'.closure seeds' := by
  apply closure_eq_of_heights
  intro n
  simp only [h.calledBy_eq, hseeds]

end CallGraph

end TestImpact

namespace TestImpact.CallGraph
open Std

/-! ## More seeds

Closures of more seeds, and closures of closures. Seeds close one by one, and what is closed stays
as it is: it is found again in one round, or in two if a node of it has no caller to start from. -/

section MoreSeeds
variable {g : CallGraph} {seeds seeds' again : List Node} {n : Node}

/-- The closure of seeds put together. -/
theorem nodes_closure_append : (g.closure (seeds ++ seeds')).nodes =
    (g.closure seeds).nodes ∪ (g.closure seeds').nodes := by
  refine ExtTreeSet.ext_mem fun n => ?_
  simp only [mem_closure, ExtTreeSet.mem_union_iff, List.mem_append, affected_or]

/-- What is found by itself in some round is found no later together with other seeds. -/
theorem rounds_closure_append_le : (g.closure (seeds ++ seeds')).rounds ≤
    max (g.closure seeds).rounds (g.closure seeds').rounds := by
  rw [rounds_closure_le_iff]
  intro n hn
  rw [nodes_closure_append, ExtTreeSet.mem_union_iff] at hn
  simp only [List.mem_append, heights_or]
  rcases hn with hn | hn
  · obtain ⟨j, hj, hlt⟩ := rounds_closure_le_iff.mp le_rfl n hn
    exact ⟨j, .inl hj, by omega⟩
  · obtain ⟨j, hj, hlt⟩ := rounds_closure_le_iff.mp le_rfl n hn
    exact ⟨j, .inr hj, by omega⟩

section Again
variable (hagain : ∀ n, n ∈ again ↔ n ∈ (g.closure seeds).nodes)
include hagain

/-- Nodes of the closure that have no caller are no effective seeds, but they lie above one. -/
theorem nodes_closure_again : (g.closure again).nodes = (g.closure seeds).nodes := by
  refine ExtTreeSet.ext_mem fun n => ?_
  simp only [mem_closure, hagain, affected_affected]

theorem rounds_closure_again_le_one_iff : (g.closure again).rounds ≤ 1 ↔
    ∀ n ∈ (g.closure seeds).nodes, ∃ m, CalledBy g.edges n m := by
  rw [rounds_closure_le_iff, nodes_closure_again hagain]
  refine forall₂_congr fun n hn => ?_
  constructor
  · rintro ⟨j, hj, hlt⟩
    obtain rfl : j = 0 := by omega
    exact (zero_mem_heights_iff.mp hj).2
  · intro hcall
    exact ⟨0, zero_mem_heights_iff.mpr ⟨(hagain n).mpr hn, hcall⟩, by omega⟩

theorem rounds_closure_again_le_two : (g.closure again).rounds ≤ 2 := by
  rw [rounds_closure_le_iff, nodes_closure_again hagain]
  intro n hn
  by_cases hcall : ∃ m, CalledBy g.edges n m
  · exact ⟨0, zero_mem_heights_iff.mpr ⟨(hagain n).mpr hn, hcall⟩, by omega⟩
  · obtain ⟨m, hm, step⟩ := (mem_closure.mp hn).exists_callee hcall
    have hseed : m ∈ again := (hagain m).mpr (mem_closure.mpr hm)
    exact ⟨1, ⟨m, hseed, ⟨n, step⟩, Above.here.call step⟩, by omega⟩

end Again

end MoreSeeds

/-- Laws of a function that closes seeds in a graph. -/
structure ClosureLaws (g : CallGraph) (close : List Node → Closure) : Prop where
  /-- More seeds close to what each of them closes to. -/
  nodes_append : ∀ seeds seeds',
    (close (seeds ++ seeds')).nodes = (close seeds).nodes ∪ (close seeds').nodes
  rounds_append_le : ∀ seeds seeds',
    (close (seeds ++ seeds')).rounds ≤ max (close seeds).rounds (close seeds').rounds
  /-- All that a closure holds closes to that closure. -/
  nodes_again : ∀ seeds again, (∀ n, n ∈ again ↔ n ∈ (close seeds).nodes) →
    (close again).nodes = (close seeds).nodes
  rounds_again_of_empty : ∀ seeds again, (∀ n, n ∈ again ↔ n ∈ (close seeds).nodes) →
    (close seeds).nodes = ∅ → (close again).rounds = 0
  rounds_again_of_called : ∀ seeds again, (∀ n, n ∈ again ↔ n ∈ (close seeds).nodes) →
    (close seeds).nodes ≠ ∅ → (∀ n ∈ (close seeds).nodes, ∃ m, CalledBy g.edges n m) →
    (close again).rounds = 1
  rounds_again_of_uncalled : ∀ seeds again, (∀ n, n ∈ again ↔ n ∈ (close seeds).nodes) →
    (∃ n ∈ (close seeds).nodes, ¬ ∃ m, CalledBy g.edges n m) → (close again).rounds = 2

theorem closureLaws_closure (g : CallGraph) : g.ClosureLaws g.closure where
  nodes_append _ _ := nodes_closure_append
  rounds_append_le _ _ := rounds_closure_append_le
  nodes_again _ _ := nodes_closure_again
  rounds_again_of_empty seeds again hagain hempty := by
    rwa [rounds_closure_eq_zero_iff, nodes_closure_again hagain]
  rounds_again_of_called seeds again hagain hne hcalled := by
    have hle := (rounds_closure_again_le_one_iff hagain).mpr hcalled
    have hpos : (g.closure again).rounds ≠ 0 := by
      rwa [Ne, rounds_closure_eq_zero_iff, nodes_closure_again hagain]
    omega
  rounds_again_of_uncalled := by
    rintro seeds again hagain ⟨n, hn, huncalled⟩
    have hle := rounds_closure_again_le_two hagain
    have hmore : ¬ (g.closure again).rounds ≤ 1 := fun h =>
      huncalled ((rounds_closure_again_le_one_iff hagain).mp h n hn)
    omega

/-- The closure of more seeds is what each of them closes to, in no more rounds than the longer of
the two takes; and the closure of all that a closure holds is that closure, in no round if it is
empty, in one if something calls each of its nodes, and in two if not. The search of a stored graph
obeys the same laws. -/
theorem closure_append_and_again (G : Type) [PositionGraph G] [LawfulPositionGraph G]
    (g : CallGraph) :
    g.ClosureLaws g.closure ∧ ∀ s : IndexedGraph G, s.Holds g → g.ClosureLaws s.closure := by
  refine ⟨g.closureLaws_closure, fun s hs => ?_⟩
  rw [show s.closure = g.closure from funext hs.closure_eq]
  exact g.closureLaws_closure

/-- The top of a chain has no caller, so it takes a second round to find it again. -/
theorem closure_again_below_top :
    let a : Node := .ofClass "a.A"
    let b : Node := .ofClass "b.B"
    let c : Node := .ofClass "c.C"
    let d : Node := .ofClass "d.D"
    let added : List Edge := [⟨a, b⟩, ⟨b, c⟩, ⟨c, c⟩, ⟨b, d⟩]
    let stored := ((IndexedGraph.new .class : IndexedGraph ListedGraph).addEdges added).2
    let again : List Node := [d, c, b, a]
    stored.Holds (ofEdges .class added) ∧
      (∀ n, n ∈ again ↔ n ∈ (stored.closure [a]).nodes) ∧
      (stored.closure again).nodes = (stored.closure [a]).nodes ∧
      (stored.closure again).rounds = 2 ∧
      (stored.closure ([a] ++ [c])).rounds ≤
        max (stored.closure [a]).rounds (stored.closure [c]).rounds := by
  intro a b c d added stored again
  have hstored : stored.Holds (ofEdges .class added) :=
    (IndexedGraph.holds_new .class).addEdges added
  have laws := (closure_append_and_again ListedGraph (ofEdges .class added)).2 stored hstored
  have hagain : ∀ n, n ∈ again ↔ n ∈ (stored.closure [a]).nodes := by
    intro n
    have hlist : (stored.closure [a]).nodes = ExtTreeSet.ofList again := by decide +kernel
    rw [hlist, mem_setOfList]
  have htop : d ∈ (stored.closure [a]).nodes := (hagain d).mp (by decide)
  have huncalled : ¬ ∃ m, CalledBy (ofEdges .class added).edges d m := by
    rintro ⟨m, hm⟩
    rw [calledBy_ofEdges] at hm
    simp [added, a, b, c, d, CalledBy, Node.ofClass] at hm
  exact ⟨hstored, hagain, laws.nodes_again [a] again hagain,
    laws.rounds_again_of_uncalled [a] again hagain ⟨d, htop, huncalled⟩,
    laws.rounds_append_le [a] [c]⟩

end TestImpact.CallGraph

namespace TestImpact
open Std

/-! ## One edge more

What one edge more does to a closure. It does nothing, in the rounds neither, if its callee is no
seed and was not reached; else it brings in its two ends and what lies above its caller. -/

namespace CallGraph
variable {g : CallGraph} {seeds : List Node} {a b : Node}

theorem calledBy_addEdge :
    CalledBy (g.addEdge ⟨a, b⟩).2.edges = withCall (CalledBy g.edges) a b := by
  funext callee caller
  simp only [CalledBy, withCall, mem_edges_addEdge, Edge.mk.injEq]

theorem closure_addEdge_of_not_mem (hclosed : a ∉ (g.closure seeds).nodes) (hseed : a ∉ seeds) :
    (g.addEdge ⟨a, b⟩).2.closure seeds = g.closure seeds := by
  apply closure_eq_of_heights
  intro n
  rw [calledBy_addEdge]
  exact heights_withCall hseed (mt mem_closure.mpr hclosed)

theorem nodes_closure_addEdge_of_mem (h : a ∈ (g.closure seeds).nodes ∨ a ∈ seeds) :
    ((g.addEdge ⟨a, b⟩).2.closure seeds).nodes =
      (g.closure seeds).nodes ∪ ExtTreeSet.ofList [a, b] ∪ (g.closure [b]).nodes := by
  rw [mem_closure] at h
  apply ExtTreeSet.ext_mem
  intro n
  simp only [ExtTreeSet.mem_union_iff, mem_setOfList, mem_closure, List.mem_cons, List.not_mem_nil,
    or_false, calledBy_addEdge, or_assoc]
  rw [affected_withCall_iff h, or_assoc]

end CallGraph

namespace IndexedGraph
variable {G : Type} [PositionGraph G] [LawfulPositionGraph G]

/-- After one edge more a closure is as it was, rounds included, if the callee is neither in it nor
a seed; else it has gained just the two ends of the edge and the closure of the caller. A stored
graph that stands for the old graph finds the closures of both. -/
theorem closure_addEdge (g : CallGraph) (seeds : List Node) (a b : Node) :
    let g' := (g.addEdge ⟨a, b⟩).2
    let closed := g.closure seeds
    (a ∉ closed.nodes ∧ a ∉ seeds → g'.closure seeds = closed) ∧
      (a ∈ closed.nodes ∨ a ∈ seeds → (g'.closure seeds).nodes =
        closed.nodes ∪ ExtTreeSet.ofList [a, b] ∪ (g.closure [b]).nodes) ∧
      ∀ s : IndexedGraph G, s.Holds g → (∀ starts, s.closure starts = g.closure starts) ∧
        (s.addEdge ⟨a, b⟩).2.closure seeds = g'.closure seeds := by
  intro g' closed
  refine ⟨?_, CallGraph.nodes_closure_addEdge_of_mem, ?_⟩
  · rintro ⟨hclosed, hseed⟩
    exact CallGraph.closure_addEdge_of_not_mem hclosed hseed
  · intro s hs
    exact ⟨hs.closure_eq, (hs.addEdge ⟨a, b⟩).2.closure_eq seeds⟩

/-- A seed that nothing called gets a caller, and with it the cycle above; a way from the cycle down
to the seed changes nothing. -/
theorem closure_addEdge_below_cycle :
    let a : Node := .ofClass "a.A"
    let b : Node := .ofClass "b.B"
    let c : Node := .ofClass "c.C"
    let added : List Edge := [⟨b, c⟩, ⟨c, b⟩]
    let g := CallGraph.ofEdges .class added
    let stored := ((new .class : IndexedGraph ListedGraph).addEdges added).2
    let seeds : List Node := [a, .ofClass "z.Z"]
    (a ∈ (g.closure seeds).nodes ∨ a ∈ seeds) ∧ (b ∉ (g.closure seeds).nodes ∧ b ∉ seeds) ∧
      stored.Holds g ∧ (stored.closure seeds).nodes = ∅ ∧
      ((stored.addEdge ⟨a, b⟩).2.closure seeds).nodes = ExtTreeSet.ofList [a, b, c] ∧
      (stored.addEdge ⟨b, a⟩).2.closure seeds = stored.closure seeds := by
  intro a b c added g stored seeds
  have hempty : (g.closure seeds).nodes = ∅ := by decide +kernel
  have hb : b ∉ (g.closure seeds).nodes ∧ b ∉ seeds := by decide +kernel
  have hstored : stored.Holds g := (holds_new .class).addEdges added
  obtain ⟨-, hgain, hsearch⟩ := closure_addEdge (G := ListedGraph) g seeds a b
  obtain ⟨hsame, -, hsearch'⟩ := closure_addEdge (G := ListedGraph) g seeds b a
  have ha : a ∈ (g.closure seeds).nodes ∨ a ∈ seeds := .inr List.mem_cons_self
  refine ⟨ha, hb, hstored, ?_, ?_, ?_⟩
  · rw [(hsearch stored hstored).1, hempty]
  · rw [(hsearch stored hstored).2, hgain ha]
    decide +kernel
  · rw [(hsearch' stored hstored).2, hsame hb, (hsearch stored hstored).1]

end IndexedGraph

end TestImpact
