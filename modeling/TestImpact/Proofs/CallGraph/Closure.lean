import TestImpact.CallGraph
import TestImpact.Proofs.Affected
import Mathlib.Algebra.BigOperators.Group.List.Basic
import Mathlib.Data.List.Nodup
import Mathlib.Logic.Relation
import Mathlib.Order.Lattice.Nat

/-!
Call graphs told by their edges, and the closure of seeds told by the calls that lead up from them:
what it holds, and in how many rounds.
-/
namespace TestImpact
open Std Relation

/-! ## Edges

The edges, the nodes and the callers of a graph that is built edge by edge. -/

/-- One of the edges runs from `callee` to `caller`. -/
def CalledBy (edges : List Edge) (callee caller : Node) : Prop := ⟨callee, caller⟩ ∈ edges

namespace CallGraph
variable {level : Granularity} {added : List Edge}

@[simp] theorem mem_edges_addEdge {g : CallGraph} {d e : Edge} :
    d ∈ (g.addEdge e).2.edges ↔ d ∈ g.edges ∨ d = e := by
  unfold addEdge
  split
  · rename_i he
    exact ⟨.inl, fun h => h.elim id fun hd => hd ▸ he⟩
  · simp

theorem mem_edges_foldl {g : CallGraph} {e : Edge} :
    e ∈ (added.foldl (fun g e => (g.addEdge e).2) g).edges ↔ e ∈ g.edges ∨ e ∈ added := by
  induction added generalizing g with
  | nil => simp
  | cons d rest ih => rw [List.foldl_cons, ih, mem_edges_addEdge, List.mem_cons, or_assoc]

/-- A graph has the edges that were added to it. -/
@[simp] theorem mem_edges_ofEdges {e : Edge} : e ∈ (ofEdges level added).edges ↔ e ∈ added := by
  rw [ofEdges, mem_edges_foldl]
  simp [empty]

@[simp] theorem granularity_ofEdges : (ofEdges level added).granularity = level := by
  have hfold (g : CallGraph) :
      (added.foldl (fun g e => (g.addEdge e).2) g).granularity = g.granularity := by
    induction added generalizing g with
    | nil => rfl
    | cons e rest ih =>
      rw [List.foldl_cons, ih, addEdge]
      split <;> rfl
  exact hfold (empty level)

theorem calledBy_ofEdges : CalledBy (ofEdges level added).edges = CalledBy added := by
  funext callee caller
  simp [CalledBy]

/-- The nodes of a graph are those that call or are called. -/
theorem mem_nodes_iff_calledBy {g : CallGraph} {n : Node} :
    n ∈ g.nodes ↔ (∃ m, CalledBy g.edges n m) ∨ ∃ m, CalledBy g.edges m n := by
  rw [g.mem_nodes]
  constructor
  · rintro ⟨⟨callee, caller⟩, he, rfl | rfl⟩
    · exact .inl ⟨caller, he⟩
    · exact .inr ⟨callee, he⟩
  · rintro (⟨m, h⟩ | ⟨m, h⟩)
    · exact ⟨_, h, .inl rfl⟩
    · exact ⟨_, h, .inr rfl⟩

theorem callee_mem_nodes {g : CallGraph} {e : Edge} (h : e ∈ g.edges) : e.callee ∈ g.nodes :=
  (g.mem_nodes _).mpr ⟨e, h, .inl rfl⟩

theorem caller_mem_nodes {g : CallGraph} {e : Edge} (h : e ∈ g.edges) : e.caller ∈ g.nodes :=
  (g.mem_nodes _).mpr ⟨e, h, .inr rfl⟩

theorem mem_callers {g : CallGraph} {n m : Node} : m ∈ g.callers n ↔ ⟨n, m⟩ ∈ g.edges := by
  simp only [callers, List.mem_map, List.mem_filter, beq_iff_eq]
  constructor
  · rintro ⟨⟨_, _⟩, ⟨he, rfl⟩, rfl⟩
    exact he
  · exact fun he => ⟨_, ⟨he, rfl⟩, rfl⟩

theorem nodup_callers (g : CallGraph) (n : Node) : (g.callers n).Nodup := by
  refine List.Nodup.map_on ?_ (g.edges_nodup.filter _)
  rintro ⟨a, b⟩ hd ⟨c, d⟩ he (hcaller : b = d)
  have ha : a = n := by simpa using (List.mem_filter.mp hd).2
  have hc : c = n := by simpa using (List.mem_filter.mp he).2
  rw [ha, hc, hcaller]

theorem edgeCount_addEdge (g : CallGraph) (e : Edge) :
    (g.addEdge e).2.edgeCount = g.edgeCount + (g.addEdge e).1.toNat := by
  unfold addEdge edgeCount
  split
  · rfl
  · simp

theorem addEdge_fst (g : CallGraph) (e : Edge) : (g.addEdge e).1 = decide (e ∉ g.edges) := by
  unfold addEdge
  split <;> simp_all

end CallGraph

/-! ## What a closure holds

The layered search finds what a change affects and nothing else. Its layers are disjoint and not
empty, which bounds the rounds by the nodes of the graph, cycles or not. -/

section Found
variable {edges : List Edge} {frontier seen : NodeSet} {n : Node}

theorem mem_callersOf : n ∈ callersOf edges frontier ↔ ∃ m ∈ frontier, CalledBy edges m n := by
  simp only [callersOf, mem_setOfList, List.mem_map, List.mem_filter]
  constructor
  · rintro ⟨⟨m, _⟩, ⟨he, hm⟩, rfl⟩
    exact ⟨m, hm, he⟩
  · rintro ⟨m, hm, he⟩
    exact ⟨_, ⟨he, hm⟩, rfl⟩

theorem calledBy_leaving {a b : Node} :
    CalledBy (leaving edges seen) a b ↔ CalledBy edges a b ∧ b ∉ seen := by
  simp [CalledBy, leaving, ← Bool.not_eq_true]

/-- Fewer than `k` calls above a member of a set. -/
def ReachedWithin (edges : List Edge) (start : NodeSet) (k : Nat) (n : Node) : Prop :=
  ∃ a ∈ start, ∃ j < k, Above (CalledBy edges) a j n

/-- Edges back into the start lead nowhere new, and nowhere on a shorter path. -/
theorem reachedWithin_leaving {start : NodeSet} {k : Nat} :
    ReachedWithin (leaving edges start) start k n ↔ ReachedWithin edges start k n := by
  constructor
  · rintro ⟨a, ha, j, hj, path⟩
    exact ⟨a, ha, j, hj, path.mono fun _ _ h => (calledBy_leaving.mp h).1⟩
  · rintro ⟨a, ha, j, hj, path⟩
    induction path generalizing k with
    | here => exact ⟨a, ha, 0, hj, .here⟩
    | @call j _ m _ step ih =>
      -- a path that comes back to the start can begin anew there
      by_cases hm : m ∈ start
      · exact ⟨m, hm, 0, by omega, .here⟩
      · obtain ⟨b, hb, i, hi, path⟩ := ih (k := k - 1) (by omega)
        exact ⟨b, hb, i + 1, by omega, path.call (calledBy_leaving.mpr ⟨step, hm⟩)⟩

/-- One step of the search: what is reached is there already or lies above the next layer, one call
nearer to it and without the edges back into it. -/
theorem reachedWithin_succ {k : Nat} :
    ReachedWithin edges frontier (k + 1) n ↔ n ∈ frontier ∨
      ReachedWithin (leaving edges (callersOf edges frontier)) (callersOf edges frontier) k n := by
  rw [reachedWithin_leaving]
  constructor
  · rintro ⟨a, ha, j, hj, path⟩
    cases j with
    | zero =>
      cases path
      exact .inl ha
    | succ j =>
      obtain ⟨b, step, path⟩ := above_succ_iff.mp path
      exact .inr ⟨b, mem_callersOf.mpr ⟨a, ha, step⟩, j, by omega, path⟩
  · rintro (h | ⟨b, hb, j, hj, path⟩)
    · exact ⟨n, h, 0, by omega, .here⟩
    · obtain ⟨a, ha, step⟩ := mem_callersOf.mp hb
      exact ⟨a, ha, j + 1, by omega, above_succ_iff.mpr ⟨b, step, path⟩⟩

/-- The first `k` layers hold what is reached within `k` calls. -/
theorem exists_mem_take_layers (k : Nat) :
    (∃ layer ∈ (layers edges frontier).take k, n ∈ layer) ↔ ReachedWithin edges frontier k n := by
  revert k
  induction edges, frontier using layers.induct with
  | case1 edges frontier hempty =>
    intro k
    have hf : frontier = ∅ := ExtTreeSet.isEmpty_iff.mp hempty
    subst hf
    simp [layers, ReachedWithin]
  | case2 edges frontier hne next ih =>
    intro k
    cases k with
    | zero => simp [ReachedWithin]
    | succ k =>
      rw [layers, if_neg hne, reachedWithin_succ, ← ih k]
      simp [next]

/-- The layers together hold what is reached from the frontier. -/
theorem exists_mem_layers :
    (∃ layer ∈ layers edges frontier, n ∈ layer) ↔ ∃ k, ReachedWithin edges frontier k n := by
  simp only [← exists_mem_take_layers]
  constructor
  · rintro ⟨layer, hlayer, hn⟩
    exact ⟨(layers edges frontier).length, layer, by rwa [List.take_length], hn⟩
  · rintro ⟨k, layer, hlayer, hn⟩
    exact ⟨layer, List.mem_of_mem_take hlayer, hn⟩

theorem isEmpty_of_mem_layers {layer : NodeSet} (h : layer ∈ layers edges frontier) :
    layer.isEmpty = false := by
  induction edges, frontier using layers.induct with
  | case1 edges frontier hempty => simp [layers, hempty] at h
  | case2 edges frontier hne next ih =>
    rw [layers, if_neg hne] at h
    rcases List.mem_cons.mp h with rfl | h
    · exact Bool.eq_false_iff.mpr hne
    · exact ih h

/-- Every layer but the first holds callers only. -/
theorem exists_calledBy_of_mem_layers {layer : NodeSet}
    (h : layer ∈ layers (leaving edges (callersOf edges frontier)) (callersOf edges frontier))
    (hn : n ∈ layer) : ∃ m, CalledBy edges m n := by
  obtain ⟨_, a, ha, _, -, path⟩ := exists_mem_layers.mp ⟨layer, h, hn⟩
  cases path with
  | here =>
    obtain ⟨m, -, step⟩ := mem_callersOf.mp ha
    exact ⟨m, step⟩
  | call _ step => exact ⟨_, (calledBy_leaving.mp step).1⟩

/-- No layer repeats a node of an earlier one: no edge that is left leads back into the frontier. -/
theorem pairwise_layers (h : ∀ a b, CalledBy edges a b → b ∉ frontier) :
    (layers edges frontier).Pairwise fun s t => ∀ n ∈ s, n ∉ t := by
  induction edges, frontier using layers.induct with
  | case1 edges frontier hempty => simp [layers, hempty]
  | case2 edges frontier hne next ih =>
    rw [layers, if_neg hne, List.pairwise_cons]
    constructor
    · intro layer hlayer n hn hmem
      obtain ⟨m, step⟩ := exists_calledBy_of_mem_layers hlayer hmem
      exact h m n step hn
    · exact ih fun _ _ step => (calledBy_leaving.mp step).2

theorem mem_foldl_union {sets : List NodeSet} {s : NodeSet} :
    n ∈ sets.foldl (· ∪ ·) s ↔ n ∈ s ∨ ∃ t ∈ sets, n ∈ t := by
  induction sets generalizing s with
  | nil => simp
  | cons t rest ih => simp [ih, ExtTreeSet.mem_union_iff, or_assoc]

/-- Disjoint sets that are not empty are no more than the nodes they hold. -/
theorem length_le_of_pairwise {sets : List NodeSet} {nodes : List Node}
    (hne : ∀ s ∈ sets, s.isEmpty = false) (hd : sets.Pairwise fun s t => ∀ n ∈ s, n ∉ t)
    (hsub : ∀ s ∈ sets, ∀ n ∈ s, n ∈ nodes) : sets.length ≤ nodes.length := by
  have hnodup : (sets.flatMap ExtTreeSet.toList).Nodup := by
    rw [List.nodup_flatMap]
    refine ⟨fun s _ => nodup_toList s, hd.imp ?_⟩
    intro s t h n hs ht
    exact h n (ExtTreeSet.mem_toList.mp hs) (ExtTreeSet.mem_toList.mp ht)
  have hmem : sets.flatMap ExtTreeSet.toList ⊆ nodes := by
    intro n hn
    obtain ⟨s, hs, hn⟩ := List.mem_flatMap.mp hn
    exact hsub s hs n (ExtTreeSet.mem_toList.mp hn)
  have hlen : sets.length ≤ (sets.flatMap ExtTreeSet.toList).length := by
    rw [List.length_flatMap, ← List.length_map (f := fun s => s.toList.length)]
    apply List.length_le_sum_of_one_le
    intro k hk
    obtain ⟨s, hs, rfl⟩ := List.mem_map.mp hk
    obtain ⟨n, hn⟩ := exists_mem_of_isEmpty_eq_false (hne s hs)
    exact List.length_pos_of_mem (ExtTreeSet.mem_toList.mpr hn)
  exact hlen.trans (List.subperm_of_subset hnodup hmem).length_le

theorem size_le_length {s : NodeSet} {nodes : List Node} (h : ∀ n ∈ s, n ∈ nodes) :
    s.size ≤ nodes.length := by
  rw [← ExtTreeSet.length_toList]
  apply List.Subperm.length_le
  apply List.subperm_of_subset (nodup_toList _)
  exact fun n hn => h n (ExtTreeSet.mem_toList.mp hn)

theorem size_le_size {s t : NodeSet} (h : ∀ n ∈ s, n ∈ t) : s.size ≤ t.size := by
  rw [← ExtTreeSet.length_toList (t := t)]
  exact size_le_length fun n hn => ExtTreeSet.mem_toList.mpr (h n hn)

namespace CallGraph
variable {g : CallGraph} {seeds : List Node}

theorem mem_calledSeeds :
    n ∈ g.calledSeeds seeds ↔ n ∈ seeds ∧ ∃ caller, CalledBy g.edges n caller := by
  simp only [calledSeeds, mem_setOfList, List.mem_filter, List.any_eq_true, beq_iff_eq]
  constructor
  · rintro ⟨hs, ⟨_, caller⟩, he, rfl⟩
    exact ⟨hs, caller, he⟩
  · rintro ⟨hs, caller, he⟩
    exact ⟨hs, _, he, rfl⟩

/-- A called seed reaches within `k` calls what it has a smaller height for. -/
theorem reachedWithin_calledSeeds {k : Nat} : ReachedWithin g.edges (g.calledSeeds seeds) k n ↔
    ∃ j ∈ heights (CalledBy g.edges) {s | s ∈ seeds} n, j < k := by
  constructor
  · rintro ⟨s, hs, j, hj, path⟩
    obtain ⟨hseed, hcall⟩ := mem_calledSeeds.mp hs
    exact ⟨j, ⟨s, hseed, hcall, path⟩, hj⟩
  · rintro ⟨j, ⟨s, hseed, hcall, path⟩, hj⟩
    exact ⟨s, mem_calledSeeds.mpr ⟨hseed, hcall⟩, j, hj, path⟩

/-- The closure of seeds is what they affect. -/
theorem mem_closure :
    n ∈ (g.closure seeds).nodes ↔ Affected (CalledBy g.edges) {s | s ∈ seeds} n := by
  simp only [closure, mem_foldl_union, ExtTreeSet.not_mem_empty, false_or, exists_mem_layers,
    reachedWithin_leaving, reachedWithin_calledSeeds, affected_iff_nonempty_heights]
  constructor
  · rintro ⟨k, j, hj, -⟩
    exact ⟨j, hj⟩
  · rintro ⟨j, hj⟩
    exact ⟨j + 1, j, hj, by omega⟩

/-- The closure stays in the graph, whatever the seeds are. -/
theorem mem_nodes_of_mem_closure (h : n ∈ (g.closure seeds).nodes) : n ∈ g.nodes :=
  mem_nodes_iff_calledBy.mpr (mem_closure.mp h).endpoint

/-- Each round adds a node to the closure. -/
theorem rounds_closure_le : (g.closure seeds).rounds ≤ (g.closure seeds).nodes.size := by
  rw [← ExtTreeSet.length_toList]
  apply length_le_of_pairwise
  · exact fun _ => isEmpty_of_mem_layers
  · exact pairwise_layers fun _ _ step => (calledBy_leaving.mp step).2
  · intro s hs m hm
    rw [ExtTreeSet.mem_toList, closure, mem_foldl_union]
    exact .inr ⟨s, hs, hm⟩

theorem size_closure_le : (g.closure seeds).nodes.size ≤ g.nodeCount :=
  size_le_length fun _ => mem_nodes_of_mem_closure

end CallGraph

end Found

/-! ## Rounds

How many rounds a closure takes. It ends within `k` rounds exactly if everything in it lies fewer
than `k` calls above a called seed, so the rounds are told by the heights in the closure alone. -/

section Rounds
variable {edges : List Edge} {frontier : NodeSet} {n : Node} {k : Nat}

/-- There are at most `k` layers exactly if what they hold is reached within `k` calls. -/
theorem length_layers_le_iff (h : ∀ a b, CalledBy edges a b → b ∉ frontier) :
    (layers edges frontier).length ≤ k ↔
      ∀ n, (∃ layer ∈ layers edges frontier, n ∈ layer) → ReachedWithin edges frontier k n := by
  constructor
  · intro hlen n hn
    rw [← exists_mem_take_layers, List.take_of_length_le hlen]
    exact hn
  · intro hall
    by_contra hlen
    have hk : k < (layers edges frontier).length := by omega
    -- the layer behind the first `k` holds a node, and no earlier layer holds it too
    have hlayer := List.getElem_mem hk
    obtain ⟨n, hn⟩ := exists_mem_of_isEmpty_eq_false (isEmpty_of_mem_layers hlayer)
    obtain ⟨_, hearlier, hmem⟩ := (exists_mem_take_layers k).mpr (hall n ⟨_, hlayer, hn⟩)
    obtain ⟨i, hi, rfl⟩ := List.mem_take_iff_getElem.mp hearlier
    have hdisjoint := List.pairwise_iff_getElem.mp (pairwise_layers h) i k (by omega) hk (by omega)
    exact hdisjoint n hmem hn

namespace CallGraph
variable {g : CallGraph} {seeds : List Node}

/-- Everything in the closure lies fewer than `k` calls above a called seed exactly if the closure
takes no more than `k` rounds. -/
theorem rounds_closure_le_iff : (g.closure seeds).rounds ≤ k ↔
    ∀ n ∈ (g.closure seeds).nodes,
      ∃ j ∈ heights (CalledBy g.edges) {s | s ∈ seeds} n, j < k := by
  have hfresh : ∀ a b, CalledBy (leaving g.edges (g.calledSeeds seeds)) a b →
      b ∉ g.calledSeeds seeds := fun _ _ step => (calledBy_leaving.mp step).2
  refine (length_layers_le_iff hfresh).trans ?_
  simp only [reachedWithin_leaving, reachedWithin_calledSeeds, closure, mem_foldl_union,
    ExtTreeSet.not_mem_empty, false_or]

/-- The heights above the called seeds tell the closure and its rounds. -/
theorem closure_eq_of_heights {g' : CallGraph} {seeds' : List Node}
    (h : ∀ n, heights (CalledBy g.edges) {s | s ∈ seeds} n =
      heights (CalledBy g'.edges) {s | s ∈ seeds'} n) : g.closure seeds = g'.closure seeds' := by
  have hnodes : (g.closure seeds).nodes = (g'.closure seeds').nodes := by
    refine ExtTreeSet.ext_mem fun n => ?_
    simp only [mem_closure, affected_iff_nonempty_heights, h]
  have hrounds : (g.closure seeds).rounds = (g'.closure seeds').rounds := by
    refine eq_of_forall_ge_iff fun k => ?_
    simp only [rounds_closure_le_iff, hnodes, h]
  exact (Closure.mk.injEq ..).mpr ⟨hnodes, hrounds⟩

theorem rounds_closure_eq_zero_iff :
    (g.closure seeds).rounds = 0 ↔ (g.closure seeds).nodes = ∅ := by
  rw [← Nat.le_zero, rounds_closure_le_iff]
  constructor
  · intro h
    refine ExtTreeSet.ext_mem fun n => ?_
    simp only [ExtTreeSet.not_mem_empty, iff_false]
    intro hn
    obtain ⟨j, -, hj⟩ := h n hn
    omega
  · intro h n hn
    simp [h] at hn

/-- In the closure every node has a least height. -/
theorem exists_isLeast_heights (h : n ∈ (g.closure seeds).nodes) :
    ∃ d, IsLeast (heights (CalledBy g.edges) {s | s ∈ seeds} n) d := by
  have hne := affected_iff_nonempty_heights.mp (mem_closure.mp h)
  exact ⟨_, Nat.sInf_mem hne, fun _ => Nat.sInf_le⟩

/-- The rounds of a closure that is not empty are one more than the greatest of the least heights
in it. -/
theorem exists_isGreatest_heights (h : (g.closure seeds).nodes ≠ ∅) :
    ∃ top, (g.closure seeds).rounds = 1 + top ∧
      IsGreatest {d | ∃ n ∈ (g.closure seeds).nodes,
        IsLeast (heights (CalledBy g.edges) {s | s ∈ seeds} n) d} top := by
  obtain ⟨top, htop⟩ := Nat.exists_eq_succ_of_ne_zero (mt rounds_closure_eq_zero_iff.mp h)
  have hupper : ∀ n ∈ (g.closure seeds).nodes, ∀ d,
      IsLeast (heights (CalledBy g.edges) {s | s ∈ seeds} n) d → d ≤ top := by
    intro n hn d hd
    obtain ⟨j, hj, hlt⟩ := rounds_closure_le_iff.mp htop.le n hn
    have hle := hd.2 hj
    omega
  refine ⟨top, by omega, ?_, ?_⟩
  · -- one round less would not do, so some node lies as high as that
    have hmore : ¬ (g.closure seeds).rounds ≤ top := by omega
    rw [rounds_closure_le_iff] at hmore
    push Not at hmore
    obtain ⟨n, hn, hhigh⟩ := hmore
    obtain ⟨d, hd⟩ := exists_isLeast_heights hn
    have hle := hupper n hn d hd
    have hge := hhigh d hd.1
    obtain rfl : d = top := by omega
    exact ⟨n, hn, hd⟩
  · rintro d ⟨n, hn, hd⟩
    exact hupper n hn d hd

end CallGraph

end Rounds

end TestImpact
