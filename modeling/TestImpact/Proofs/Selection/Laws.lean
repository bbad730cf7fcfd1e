import TestImpact.Proofs.CallGraph.Laws
import TestImpact.Proofs.CallGraph.Search
import TestImpact.Proofs.Record.Calls
import TestImpact.Proofs.Selection.Members

/-! Laws of selections: unions, more calls, and inputs in another order. -/
namespace TestImpact
open Std

/-! ## Unions

Selections of unions. Changes, known tests and names each select on their own: what several of them
select is what each selects, put together. Changes that nothing calls select nothing. -/

namespace CallGraph
variable {g : CallGraph}

/-- The closure depends on the called seeds alone, also in its rounds. -/
theorem closure_congr {seeds seeds' : List Node} (h : g.calledSeeds seeds = g.calledSeeds seeds') :
    g.closure seeds = g.closure seeds' := by
  simp only [closure, h]

/-- Seeds that nothing calls can be left out. -/
theorem closure_filter_called (seeds : NodeSet) :
    g.closure (seeds.filter fun n => g.edges.any fun e => e.callee = n).toList =
      g.closure seeds.toList := by
  apply closure_congr
  apply ExtTreeSet.ext_mem
  intro n
  simp only [mem_calledSeeds, ExtTreeSet.mem_toList, mem_setFilter, List.any_eq_true,
    decide_eq_true_eq]
  constructor
  · rintro ⟨⟨hseed, -⟩, hcalled⟩
    exact ⟨hseed, hcalled⟩
  · rintro ⟨hseed, caller, hcall⟩
    exact ⟨⟨hseed, _, hcall, rfl⟩, caller, hcall⟩

end CallGraph

namespace Selection

/-- A selection holds what two others hold: their tests, and their test classes. -/
structure IsUnion (both s s' : Selection) : Prop where
  tests : both.tests = s.tests ∪ s'.tests
  candidates : both.candidates = s.candidates ∪ s'.candidates

variable {graphs : Graphs} {level : Granularity} {tests tests' tests'' : Universe} {m : ClassMatch}
  {names names' names'' : List String} {changes changes' changes'' : ChangeSet}
  {changed changed' : NodeSet} {i j k : Nat}

theorem isUnion_ofMethods
    (h : ∀ n, n ∈ (ofMethods graphs tests changes).tests ↔
      n ∈ (ofMethods graphs tests' changes').tests ∨
        n ∈ (ofMethods graphs tests'' changes'').tests) :
    IsUnion (ofMethods graphs tests changes) (ofMethods graphs tests' changes')
      (ofMethods graphs tests'' changes'') where
  tests := ExtTreeSet.ext_mem fun n => (h n).trans ExtTreeSet.mem_union_iff.symm
  candidates := ExtTreeSet.ext_mem fun n => by simp [ofMethods]

/-- The test classes found decide the tests: where they are put together, so are the tests. -/
theorem isUnion_ofClasses
    (h : ∀ q, q ∈ (ofClasses graphs tests m names changes).candidates ↔
      q ∈ (ofClasses graphs tests m names' changes').candidates ∨
        q ∈ (ofClasses graphs tests m names'' changes'').candidates) :
    IsUnion (ofClasses graphs tests m names changes) (ofClasses graphs tests m names' changes')
      (ofClasses graphs tests m names'' changes'') where
  tests := by
    refine ExtTreeSet.ext_mem fun n => ?_
    simp only [ExtTreeSet.mem_union_iff, mem_tests_ofClasses, h, or_and_right, exists_or,
      and_or_left]
  candidates := ExtTreeSet.ext_mem fun q => (h q).trans ExtTreeSet.mem_union_iff.symm

theorem isUnion_select_changes :
    IsUnion (select graphs tests m names ⟨level, changed ∪ changed', k⟩)
      (select graphs tests m names ⟨level, changed, i⟩)
      (select graphs tests m names ⟨level, changed', j⟩) := by
  cases level with
  | method =>
    refine isUnion_ofMethods fun n => ?_
    simp only [mem_tests_ofMethods, ExtTreeSet.mem_union_iff, affected_or, and_or_left]
  | «class» =>
    refine isUnion_ofClasses fun q => ?_
    simp only [mem_candidates_ofClasses, ExtTreeSet.mem_union_iff, affected_or, or_and_right]

theorem isUnion_select_tests :
    IsUnion (select graphs (tests ∪ tests') m names changes) (select graphs tests m names changes)
      (select graphs tests' m names changes) := by
  unfold select
  split
  · refine isUnion_ofMethods fun n => ?_
    simp only [mem_tests_ofMethods, ExtTreeSet.mem_union_iff, or_and_right]
  · -- the known tests have no part in the test classes that are found
    have hcandidates (known : Universe) : (ofClasses graphs known m names changes).candidates =
        (ofClasses graphs tests m names changes).candidates := rfl
    constructor
    · refine ExtTreeSet.ext_mem fun n => ?_
      simp only [ExtTreeSet.mem_union_iff, mem_tests_ofClasses, hcandidates, or_and_right]
    · refine ExtTreeSet.ext_mem fun q => ?_
      simp only [ExtTreeSet.mem_union_iff, hcandidates, or_self]

theorem isUnion_select_names :
    IsUnion (select graphs tests m (names ++ names') changes) (select graphs tests m names changes)
      (select graphs tests m names' changes) := by
  unfold select
  split
  · exact isUnion_ofMethods fun n => (or_self_iff).symm
  · refine isUnion_ofClasses fun q => ?_
    simp only [mem_candidates_ofClasses, List.mem_append, or_and_right, exists_or, and_or_left]

/-- Changes that nothing calls select nothing. -/
theorem select_called (graphs : Graphs) (level : Granularity) (tests : Universe) (m : ClassMatch)
    (names : List String) (changed : NodeSet) (skipped skipped' : Nat) :
    let called := changed.filter fun n => (graphs.get level).edges.any fun e => e.callee = n
    let selection := select graphs tests m names ⟨level, changed, skipped⟩
    let less := select graphs tests m names ⟨level, called, skipped'⟩
    less.tests = selection.tests ∧ less.candidates = selection.candidates ∧
      less.closure = selection.closure := by
  intro called selection less
  have hclosure := (graphs.get level).closure_filter_called changed
  cases level with
  | method =>
    have hless : less.closure = selection.closure := hclosure
    exact ⟨congrArg (fun c : Closure => c.nodes.filter tests.contains) hless, rfl, hless⟩
  | «class» =>
    have hless : less.closure = selection.closure := hclosure
    have hcandidates : less.candidates = selection.candidates :=
      congrArg (fun c : Closure => c.nodes.filter (isNamed m names)) hless
    exact ⟨congrArg (testsIn tests graphs.method) hcandidates,
      hcandidates, hless⟩

/-- At either level, changes, known tests and names that are put together select what they select
one by one, and the changes that nothing calls in the graph walked add nothing to what is selected
or to the closure. -/
theorem select_union (graphs : Graphs) (level : Granularity) (m : ClassMatch)
    (tests tests' : Universe) (names names' : List String) (changed changed' : NodeSet)
    (skipped skipped' skipped'' : Nat) :
    let selected := fun tests names changed skipped =>
      select graphs tests m names ⟨level, changed, skipped⟩
    let called := changed.filter fun n => (graphs.get level).edges.any fun e => e.callee = n
    let selection := selected tests names changed skipped
    let less := selected tests names called skipped'
    IsUnion (selected tests names (changed ∪ changed') skipped'') selection
        (selected tests names changed' skipped') ∧
      IsUnion (selected (tests ∪ tests') names changed skipped) selection
        (selected tests' names changed skipped) ∧
      IsUnion (selected tests (names ++ names') changed skipped) selection
        (selected tests names' changed skipped) ∧
      less.tests = selection.tests ∧ less.candidates = selection.candidates ∧
      less.closure = selection.closure := by
  intro selected called selection less
  refine ⟨?_, ?_, ?_, ?_⟩
  · exact isUnion_select_changes
  · exact isUnion_select_tests
  · exact isUnion_select_names
  · exact select_called graphs level tests m names changed skipped skipped'

end Selection

/-! ## More calls

Selections under more calls. More records and fewer prefixes for the platform only add edges to the
graphs; then no test is lost, the closure does not shrink, and no more changes lie outside. -/

namespace CallGraph

/-- The edges of the one graph are among those of the other. -/
def Within (g g' : CallGraph) : Prop := ∀ e ∈ g.edges, e ∈ g'.edges

variable {g g' : CallGraph} {n : Node}

theorem Within.mem_nodes (h : g.Within g') (hn : n ∈ g.nodes) : n ∈ g'.nodes := by
  obtain ⟨e, he, hend⟩ := (g.mem_nodes n).mp hn
  exact (g'.mem_nodes n).mpr ⟨e, h e he, hend⟩

theorem Within.mem_closure (h : g.Within g') {seeds : List Node}
    (hn : n ∈ (g.closure seeds).nodes) : n ∈ (g'.closure seeds).nodes := by
  rw [CallGraph.mem_closure] at hn ⊢
  exact hn.mono (fun _ _ => h _) subset_rfl

theorem Within.unmatchedIn_le (h : g.Within g') (changes : ChangeSet) :
    Selection.unmatchedIn g' changes ≤ Selection.unmatchedIn g changes := by
  refine List.countP_mono_left fun n _ hout => ?_
  simp only [contains, Bool.not_eq_true', List.contains_eq_mem, decide_eq_false_iff_not] at hout ⊢
  exact fun hn => hout (h.mem_nodes hn)

theorem within_ofEdges {level : Granularity} {edges edges' : List Edge}
    (h : ∀ e ∈ edges, e ∈ edges') : (ofEdges level edges).Within (ofEdges level edges') :=
  fun _ he => mem_edges_ofEdges.mpr (h _ (mem_edges_ofEdges.mp he))

end CallGraph

/-- Each graph of the one pair is within that of the other. -/
structure Graphs.Within (graphs graphs' : Graphs) : Prop where
  «class» : graphs.class.Within graphs'.class
  method : graphs.method.Within graphs'.method

theorem Graphs.within_build {f f' : PlatformFilter} {calls calls' : ExtTreeSet CallEdge}
    (h : ∀ callee caller, Kept f calls callee caller → Kept f' calls' callee caller) :
    (build f calls).Within (build f' calls') := by
  have hkept (edge : CallEdge → Edge) :
      ∀ e ∈ (f.kept calls).map edge, e ∈ (f'.kept calls').map edge := by
    intro e he
    obtain ⟨call, hcall, rfl⟩ := List.mem_map.mp he
    exact List.mem_map_of_mem (mem_kept.mpr (h _ _ (mem_kept.mp hcall)))
  constructor
  · exact CallGraph.within_ofEdges (hkept _)
  · exact CallGraph.within_ofEdges (hkept _)

theorem PlatformFilter.Covers.mono {prefixes prefixes' : List String}
    (h : ∀ p ∈ prefixes', p ∈ prefixes) {className : String}
    (hcovers : Covers ⟨prefixes'⟩ className) : Covers ⟨prefixes⟩ className := by
  obtain ⟨p, hp, hstart⟩ := hcovers
  exact ⟨p, h p hp, hstart⟩

theorem Told.mono {prefixes prefixes' records records' : List String}
    (hrecords : ∀ r ∈ records, r ∈ records') (hprefixes : ∀ p ∈ prefixes', p ∈ prefixes)
    {callee caller : MethodRef} (h : Told ⟨prefixes⟩ records callee caller) :
    Told ⟨prefixes'⟩ records' callee caller := by
  obtain ⟨⟨r, hr, htells⟩, hcallee, hcaller⟩ := h
  exact ⟨⟨r, hrecords r hr, htells⟩, fun hc => hcallee (hc.mono hprefixes),
    fun hc => hcaller (hc.mono hprefixes)⟩

namespace Selection
variable {graphs graphs' : Graphs} {tests : Universe} {m : ClassMatch} {names : List String}
  {changes : ChangeSet} {n : Node}

theorem mem_closure_select_mono (h : graphs.Within graphs')
    (hn : n ∈ (select graphs tests m names changes).closure.nodes) :
    n ∈ (select graphs' tests m names changes).closure.nodes := by
  unfold select at hn ⊢
  split at hn
  · exact h.method.mem_closure hn
  · exact h.class.mem_closure hn

theorem unmatched_select_mono (h : graphs.Within graphs') :
    (select graphs' tests m names changes).unmatched ≤
      (select graphs tests m names changes).unmatched := by
  unfold select
  split
  · exact h.method.unmatchedIn_le changes
  · exact h.class.unmatchedIn_le changes

/-- Test classes that stay found keep their tests. -/
theorem mem_tests_ofClasses_mono {m' : ClassMatch} (h : graphs.method.Within graphs'.method)
    (hcandidates : ∀ q ∈ (ofClasses graphs tests m names changes).candidates,
      q ∈ (ofClasses graphs' tests m' names changes).candidates)
    (hn : n ∈ (ofClasses graphs tests m names changes).tests) :
    n ∈ (ofClasses graphs' tests m' names changes).tests := by
  obtain ⟨htest, hnode, q, hq, hclass⟩ := mem_tests_ofClasses.mp hn
  exact mem_tests_ofClasses.mpr ⟨htest, h.mem_nodes hnode, q, hcandidates q hq, hclass⟩

theorem mem_tests_select_mono (h : graphs.Within graphs')
    (hn : n ∈ (select graphs tests m names changes).tests) :
    n ∈ (select graphs' tests m names changes).tests := by
  unfold select at hn ⊢
  split at hn
  · obtain ⟨htest, haffected⟩ := mem_tests_ofMethods.mp hn
    exact mem_tests_ofMethods.mpr ⟨htest, haffected.mono (fun _ _ => h.method _) subset_rfl⟩
  · refine mem_tests_ofClasses_mono h.method (fun q hq => ?_) hn
    obtain ⟨haffected, hname⟩ := mem_candidates_ofClasses.mp hq
    exact mem_candidates_ofClasses.mpr
      ⟨haffected.mono (fun _ _ => h.class _) subset_rfl, hname⟩

theorem mem_candidates_ofClasses_substring
    (hn : n ∈ (ofClasses graphs tests .exact names changes).candidates) :
    n ∈ (ofClasses graphs tests .substring names changes).candidates := by
  obtain ⟨haffected, name, hname, haccepts⟩ := mem_candidates_ofClasses.mp hn
  exact mem_candidates_ofClasses.mpr
    ⟨haffected, name, hname, ClassMatch.accepts_substring_of_exact haccepts⟩

theorem mem_candidates_select_substring_of_exact
    (hn : n ∈ (select graphs tests .exact names changes).candidates) :
    n ∈ (select graphs tests .substring names changes).candidates := by
  unfold select at hn ⊢
  split at hn
  · exact hn
  · exact mem_candidates_ofClasses_substring hn

theorem mem_tests_select_substring_of_exact
    (hn : n ∈ (select graphs tests .exact names changes).tests) :
    n ∈ (select graphs tests .substring names changes).tests := by
  unfold select at hn ⊢
  split at hn
  · exact hn
  · refine mem_tests_ofClasses_mono (fun _ he => he) ?_ hn
    exact fun _ => mem_candidates_ofClasses_substring

/-- With more records and fewer prefixes for the platform, at either level and for either matcher,
no test is lost, the closure does not shrink and no more changes lie outside the graph; and whatever
simple names find is found by parts of names. -/
theorem select_of_more_calls (records records' prefixes prefixes' : List String)
    (hrecords : ∀ r ∈ records, r ∈ records') (hprefixes : ∀ p ∈ prefixes', p ∈ prefixes)
    (known : Universe) (m : ClassMatch) (names : List String) (changes : ChangeSet) :
    let graphs := Graphs.build ⟨prefixes⟩ (Normalized.ofRecords records).edges
    let graphs' := Graphs.build ⟨prefixes'⟩ (Normalized.ofRecords records').edges
    let selection := select graphs known m names changes
    let selection' := select graphs' known m names changes
    (∀ t ∈ selection.tests, t ∈ selection'.tests) ∧
      selection.closure.nodes.size ≤ selection'.closure.nodes.size ∧
      selection'.unmatched ≤ selection.unmatched ∧
      ∀ any : Graphs,
        let exact := select any known .exact names changes
        let substring := select any known .substring names changes
        (∀ t ∈ exact.tests, t ∈ substring.tests) ∧
          ∀ q ∈ exact.candidates, q ∈ substring.candidates := by
  intro graphs graphs' selection selection'
  have hwithin : graphs.Within graphs' := by
    refine Graphs.within_build fun callee caller hkept => ?_
    rw [kept_ofRecords] at hkept ⊢
    exact hkept.mono hrecords hprefixes
  refine ⟨?_, ?_, ?_, ?_⟩
  · exact fun _ => mem_tests_select_mono hwithin
  · exact size_le_size fun _ => mem_closure_select_mono hwithin
  · exact unmatched_select_mono hwithin
  · intro any exact substring
    constructor
    · exact fun _ => mem_tests_select_substring_of_exact
    · exact fun _ => mem_candidates_select_substring_of_exact

/-- A second record, whose caller one of the prefixes took for the platform. -/
theorem mem_tests_of_second_record :
    let record := "Node: < Application, Lp/T, t()V > Context: Everywhere\n" ++
      " - invokevirtual < Application, Lp/A, f()V >@1"
    let record' := "Node: < Application, Lq/U, u()V > Context: Everywhere\n" ++
      " - invokevirtual < Application, Lp/T, t()V >@2"
    let known : Universe := ExtTreeSet.ofList [Node.ofMethod "Lp/T" "p.T.t()V"]
    let changes : ChangeSet := ⟨.class, ExtTreeSet.ofList [Node.ofClass "Lp/A"], 0⟩
    let graphs := Graphs.build ⟨["Ljava", "Lq"]⟩ (Normalized.ofRecords [record]).edges
    let graphs' := Graphs.build ⟨["Ljava"]⟩ (Normalized.ofRecords [record', record]).edges
    let selection := select graphs known .exact ["T"] changes
    let selection' := select graphs' known .exact ["T"] changes
    (∀ r ∈ [record], r ∈ [record', record]) ∧ (∀ p ∈ ["Ljava"], p ∈ ["Ljava", "Lq"]) ∧
      Node.ofMethod "Lp/T" "p.T.t()V" ∈ selection.tests ∧
      Node.ofMethod "Lp/T" "p.T.t()V" ∈ selection'.tests ∧
      selection.closure.nodes.size ≤ selection'.closure.nodes.size := by
  intro record record' known changes graphs graphs' selection selection'
  have hrecords : ∀ r ∈ [record], r ∈ [record', record] := by simp
  have hprefixes : ∀ p ∈ ["Ljava"], p ∈ ["Ljava", "Lq"] := by simp
  have hmem : Node.ofMethod "Lp/T" "p.T.t()V" ∈ selection.tests := by decide +kernel
  have hmore := select_of_more_calls [record] [record', record] ["Ljava", "Lq"] ["Ljava"] hrecords
    hprefixes known .exact ["T"] changes
  exact ⟨hrecords, hprefixes, hmem, hmore.1 _ hmem, hmore.2.1⟩

end Selection

/-! ## Another order

The order in which records, edges and seeds arrive, and how often, makes no difference to any
answer: not to a stored graph, to its picture, to a closure or its rounds, nor to a selection. -/

namespace Selection
variable {g g' : CallGraph} {graphs graphs' : Graphs}

theorem unmatchedIn_congr (h : g.Alike g') (changes : ChangeSet) :
    unmatchedIn g changes = unmatchedIn g' changes := by
  simp only [unmatchedIn, h.contains_eq]

theorem testsIn_congr (h : g.Alike g') (tests : Universe) (classes : NodeSet) :
    testsIn tests g classes = testsIn tests g' classes := by
  refine ExtTreeSet.ext_mem fun n => ?_
  rw [mem_testsIn, mem_testsIn, h.mem_nodes]

/-- Graphs with the same edges select the same, whatever lines of the changes were skipped. -/
theorem select_congr (hclass : graphs.class.Alike graphs'.class)
    (hmethod : graphs.method.Alike graphs'.method) (tests : Universe) (m : ClassMatch)
    (names : List String) (level : Granularity) (changed : NodeSet) (skipped skipped' : Nat) :
    select graphs tests m names ⟨level, changed, skipped⟩ =
      select graphs' tests m names ⟨level, changed, skipped'⟩ := by
  cases level with
  | method =>
    simp only [select, ofMethods, hmethod.closure_eq fun _ => Iff.rfl]
    rw [unmatchedIn_congr hmethod]
    rfl
  | «class» =>
    simp only [select, ofClasses, hclass.closure_eq fun _ => Iff.rfl, testsIn_congr hmethod]
    rw [unmatchedIn_congr hclass]
    rfl

end Selection

namespace IndexedGraph
variable {G : Type} [PositionGraph G] {s s' : IndexedGraph G} {g g' : CallGraph}

theorem Holds.nodes_perm (h : s.Holds g) (h' : s'.Holds g') (halike : g.Alike g') :
    s.nodes.Perm s'.nodes := by
  rw [h.numbers.nodes_eq, h'.numbers.nodes_eq]
  exact halike.nodes_perm

theorem Holds.edges_perm (h : s.Holds g) (h' : s'.Holds g') (halike : g.Alike g') :
    s.edges.Perm s'.edges := by
  rw [h.edges_eq, h'.edges_eq]
  exact halike.edges_perm

theorem Holds.callers_perm_callers [LawfulPositionGraph G] (h : s.Holds g) (h' : s'.Holds g')
    (halike : g.Alike g') (n : Node) : (s.callers n).Perm (s'.callers n) :=
  ((h.callers_perm n).trans (halike.callers_perm n)).trans (h'.callers_perm n).symm

end IndexedGraph

/-- Two graphs, each with a stored graph that stands for it, give the same answers. Seeds and
changed nodes may arrive in any order and more than once. -/
structure AnswerAlike {G : Type} [PositionGraph G] [LawfulPositionGraph G] (g g' : CallGraph)
    (s s' : IndexedGraph G) : Prop where
  nodes_perm : s.nodes.Perm s'.nodes
  edges_perm : s.edges.Perm s'.edges
  callers_perm : ∀ n, (s.callers n).Perm (s'.callers n)
  closure_stored : ∀ seeds, s.closure seeds = g.closure seeds
  closure_eq : ∀ seeds seeds', (∀ n, n ∈ seeds ↔ n ∈ seeds') → g.closure seeds = g'.closure seeds'
  search_eq : ∀ seeds seeds', (∀ n, n ∈ seeds ↔ n ∈ seeds') → s.closure seeds = s'.closure seeds'
  dot_eq : ∀ label, g.dot label = g'.dot label
  /-- The closure of a selection is what the search finds from the changed nodes. -/
  closure_select : ∀ other tests m names changed skipped arrived,
    (∀ n, n ∈ arrived ↔ n ∈ changed) →
    (Selection.select ⟨other, g⟩ tests m names ⟨.method, changed, skipped⟩).closure =
        s.closure arrived ∧
      (Selection.select ⟨g, other⟩ tests m names ⟨.class, changed, skipped⟩).closure =
        s.closure arrived
  select_method : ∀ other tests m names level changed skipped skipped',
    Selection.select ⟨other, g⟩ tests m names ⟨level, changed, skipped⟩ =
      Selection.select ⟨other, g'⟩ tests m names ⟨level, changed, skipped'⟩
  select_class : ∀ other tests m names level changed skipped skipped',
    Selection.select ⟨g, other⟩ tests m names ⟨level, changed, skipped⟩ =
      Selection.select ⟨g', other⟩ tests m names ⟨level, changed, skipped'⟩

theorem CallGraph.Alike.answerAlike {G : Type} [PositionGraph G] [LawfulPositionGraph G]
    {g g' : CallGraph} {s s' : IndexedGraph G} (h : g.Alike g') (hs : s.Holds g)
    (hs' : s'.Holds g') : AnswerAlike g g' s s' where
  nodes_perm := hs.nodes_perm hs' h
  edges_perm := hs.edges_perm hs' h
  callers_perm := hs.callers_perm_callers hs' h
  closure_stored := hs.closure_eq
  closure_eq _ _ hseeds := h.closure_eq hseeds
  search_eq _ _ hseeds := by rw [hs.closure_eq, hs'.closure_eq, h.closure_eq hseeds]
  dot_eq := h.dot_eq
  closure_select _ _ _ _ changed _ arrived harrived := by
    have hclosure : g.closure changed.toList = s.closure arrived := by
      rw [hs.closure_eq]
      exact (CallGraph.Alike.refl g).closure_eq fun n => by
        rw [ExtTreeSet.mem_toList, harrived]
    exact ⟨hclosure, hclosure⟩
  select_method other tests m names level changed _ _ :=
    Selection.select_congr (.refl other) h tests m names level changed _ _
  select_class other tests m names level changed _ _ :=
    Selection.select_congr h (.refl other) tests m names level changed _ _

/-- Edges, seeds and changed nodes that arrive in another order, or more than once, give the same
answers, and so do records in another order. The stored graphs list the same nodes, edges and
callers and search the same closure in as many rounds; the graphs draw the same picture; and in the
place of the class graph or of the method graph they select the same. -/
theorem same_answers_of_reordered {G : Type} [PositionGraph G] [LawfulPositionGraph G]
    (level : Granularity) {added added' : List Edge} {records records' : List String}
    (hadded : ∀ e, e ∈ added ↔ e ∈ added') (hrecords : records.Perm records') :
    AnswerAlike (.ofEdges level added) (.ofEdges level added')
        ((IndexedGraph.new level : IndexedGraph G).addEdges added).2
        ((IndexedGraph.new level : IndexedGraph G).addEdges added').2 ∧
      (Normalized.ofRecords records).edges = (Normalized.ofRecords records').edges ∧
      (Normalized.ofRecords records).counts = (Normalized.ofRecords records').counts := by
  refine ⟨?_, Normalized.ofRecords_perm hrecords⟩
  have hstored (edges : List Edge) := (IndexedGraph.holds_new (G := G) level).addEdges edges
  exact (CallGraph.alike_ofEdges hadded).answerAlike (hstored added) (hstored added')

/-- A cycle that is told from another place and with an edge twice: its nodes stand elsewhere. -/
theorem same_answers_of_turned_cycle :
    let a : Node := .ofClass "a.A"
    let b : Node := .ofClass "b.B"
    let c : Node := .ofClass "c.C"
    let added : List Edge := [⟨a, b⟩, ⟨b, c⟩, ⟨a, b⟩, ⟨c, a⟩]
    let added' : List Edge := [⟨c, a⟩, ⟨b, c⟩, ⟨a, b⟩]
    let record := "Node: < Application, Lp/T, t()V > Context: Everywhere\n" ++
      " - invokevirtual < Application, Lp/A, f()V >@1"
    let stored := ((IndexedGraph.new .class : IndexedGraph ListedGraph).addEdges added).2
    let stored' := ((IndexedGraph.new .class : IndexedGraph ListedGraph).addEdges added').2
    let changed : NodeSet := .ofList [b, a]
    (∀ e, e ∈ added ↔ e ∈ added') ∧ (∀ n, n ∈ [b, a] ↔ n ∈ [a, b, a]) ∧
      [record, "Node"].Perm ["Node", record] ∧
      stored.nodes = [a, b, c] ∧ stored'.nodes = [c, a, b] ∧
      stored.closure [b, a] = stored'.closure [a, b, a] ∧
      (Selection.select ⟨.ofEdges .class added, .ofEdges .method []⟩ ∅ .exact ["A"]
        ⟨.class, changed, 0⟩).closure = stored.closure [b, a] ∧
      (Normalized.ofRecords [record, "Node"]).counts =
        (Normalized.ofRecords ["Node", record]).counts := by
  intro a b c added added' record stored stored' changed
  have hadded : ∀ e, e ∈ added ↔ e ∈ added' := by
    intro e
    simp only [added, added', List.mem_cons, List.not_mem_nil, or_false]
    tauto
  have hseeds : ∀ n, n ∈ [b, a] ↔ n ∈ [a, b, a] := by
    intro n
    simp only [List.mem_cons, List.not_mem_nil, or_false]
    tauto
  have hrecords : [record, "Node"].Perm ["Node", record] := .swap _ _ _
  obtain ⟨halike, -, hcounts⟩ :=
    same_answers_of_reordered (G := ListedGraph) .class hadded hrecords
  have hselect := (halike.closure_select (.ofEdges .method []) ∅ .exact ["A"] changed 0 [b, a]
    fun n => (mem_setOfList).symm).2
  exact ⟨hadded, hseeds, hrecords, by decide +kernel, by decide +kernel,
    halike.search_eq _ _ hseeds, hselect, hcounts⟩

end TestImpact
