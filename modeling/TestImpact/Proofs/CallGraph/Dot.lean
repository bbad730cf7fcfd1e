import TestImpact.Proofs.CallGraph.Laws
import TestImpact.Proofs.Graphs
import TestImpact.Proofs.Node
import TestImpact.Proofs.Text

/-!
What the picture of a graph tells. A line shows the names at the ends of an edge; without quotes in
the names it is read in only one way, so the text tells the named pairs. Where a node is known by
its name, it tells the edges.
-/
namespace TestImpact
open Std

/-- The names at the two ends of an edge. -/
def Edge.drawn (e : Edge) : String × String := (e.callee.drawn, e.caller.drawn)

namespace CallGraph
variable {g g' : CallGraph} {p q : String × String} {label : String}

/-- The line of a pair of names. -/
def pairLine (p : String × String) : String := "\t\"" ++ p.1 ++ "\" -> \"" ++ p.2 ++ "\";\n"

/-- The pairs of names that the edges of a graph join. -/
def drawnPairs (g : CallGraph) : Set (String × String) := Edge.drawn '' {e | e ∈ g.edges}

/-- No name that is drawn holds a quote. -/
def IsUnquoted (g : CallGraph) : Prop := ∀ n ∈ g.nodes, '"' ∉ n.drawn.toList

instance : DecidablePred IsUnquoted := fun g =>
  inferInstanceAs (Decidable (∀ n ∈ g.nodes, '"' ∉ n.drawn.toList))

/-- No name of the pair holds a quote. -/
def IsUnquotedPair (p : String × String) : Prop := '"' ∉ p.1.toList ∧ '"' ∉ p.2.toList

theorem dotLine_eq (e : Edge) : dotLine e = pairLine e.drawn := rfl

theorem IsUnquoted.pair (h : g.IsUnquoted) (hp : p ∈ g.drawnPairs) : IsUnquotedPair p := by
  obtain ⟨e, he, rfl⟩ := hp
  exact ⟨h _ (callee_mem_nodes he), h _ (caller_mem_nodes he)⟩

/-! ### Reading lines -/

theorem toList_pairLine (p : String × String) : (pairLine p).toList = '\t' :: '"' ::
    (p.1.toList ++ '"' :: ' ' :: '-' :: '>' :: ' ' :: '"' ::
      (p.2.toList ++ '"' :: [';', '\n'])) := by
  simp [pairLine]

/-- Each name ends at the next quote, so a line at the start of a text is read in only one way. -/
theorem pairLine_append_inj (hp : IsUnquotedPair p) (hq : IsUnquotedPair q) {t t' : List Char}
    (h : (pairLine p).toList ++ t = (pairLine q).toList ++ t') : p = q ∧ t = t' := by
  simp only [toList_pairLine, List.cons_append, List.append_assoc, List.cons.injEq, true_and,
    Text.append_cons_inj_of_first hp.1 hq.1, Text.append_cons_inj_of_first hp.2 hq.2,
    List.nil_append] at h
  obtain ⟨hcallee, hcaller, ht⟩ := h
  exact ⟨Prod.ext (String.toList_inj.mp hcallee) (String.toList_inj.mp hcaller), ht⟩

theorem injOn_pairLine : Set.InjOn pairLine {p | IsUnquotedPair p} := by
  intro p hp q hq h
  exact (pairLine_append_inj hp hq (congrArg (·.toList ++ []) h)).1

/-- Lines of pairs that are put together come apart again; no line starts as the end does. -/
theorem eq_of_flatMap_pairLines {ls ls' : List String}
    (hls : ∀ l ∈ ls, ∃ p, IsUnquotedPair p ∧ pairLine p = l)
    (hls' : ∀ l ∈ ls', ∃ p, IsUnquotedPair p ∧ pairLine p = l)
    (h : ls.flatMap String.toList ++ ['\x7d', '\n'] = ls'.flatMap String.toList ++ ['\x7d', '\n']) :
    ls = ls' := by
  induction ls generalizing ls' with
  | nil =>
    cases ls' with
    | nil => rfl
    | cons l' rest' =>
      obtain ⟨⟨q, -, rfl⟩, -⟩ := List.forall_mem_cons.mp hls'
      simp [toList_pairLine] at h
  | cons l rest ih =>
    obtain ⟨⟨p, hp, rfl⟩, hrest⟩ := List.forall_mem_cons.mp hls
    cases ls' with
    | nil => simp [toList_pairLine] at h
    | cons l' rest' =>
      obtain ⟨⟨q, hq, rfl⟩, hrest'⟩ := List.forall_mem_cons.mp hls'
      rw [List.flatMap_cons, List.flatMap_cons, List.append_assoc, List.append_assoc] at h
      obtain ⟨rfl, hlater⟩ := pairLine_append_inj hp hq h
      rw [ih hrest hrest' hlater]

/-! ### The lines of a graph -/

theorem mem_map_dotLine {line : String} :
    line ∈ g.edges.map dotLine ↔ ∃ p ∈ g.drawnPairs, pairLine p = line := by
  simp [drawnPairs, dotLine_eq]

theorem mem_dotLines {line : String} :
    line ∈ g.dotLines ↔ ∃ p ∈ g.drawnPairs, pairLine p = line := by
  rw [dotLines, ExtTreeSet.mem_toList, mem_setOfList, mem_map_dotLine]

theorem IsUnquoted.line (h : g.IsUnquoted) :
    ∀ l ∈ g.dotLines, ∃ p, IsUnquotedPair p ∧ pairLine p = l := by
  intro l hl
  obtain ⟨p, hp, rfl⟩ := mem_dotLines.mp hl
  exact ⟨p, h.pair hp, rfl⟩

theorem dotLines_congr (h : g.drawnPairs = g'.drawnPairs) : g.dotLines = g'.dotLines := by
  have hmem (line : String) : line ∈ g.edges.map dotLine ↔ line ∈ g'.edges.map dotLine := by
    rw [mem_map_dotLine, h, mem_map_dotLine]
  exact congrArg ExtTreeSet.toList (setOfList_congr hmem)

theorem drawnPairs_subset (hg : g.IsUnquoted) (hg' : g'.IsUnquoted) (h : g.dotLines = g'.dotLines) :
    g.drawnPairs ⊆ g'.drawnPairs := by
  intro p hp
  have hline : pairLine p ∈ g'.dotLines := h ▸ mem_dotLines.mpr ⟨p, hp, rfl⟩
  obtain ⟨q, hq, heq⟩ := mem_dotLines.mp hline
  rwa [← injOn_pairLine (hg'.pair hq) (hg.pair hp) heq]

theorem dotLines_eq_iff (hg : g.IsUnquoted) (hg' : g'.IsUnquoted) :
    g.dotLines = g'.dotLines ↔ g.drawnPairs = g'.drawnPairs := by
  constructor
  · intro h
    exact Set.Subset.antisymm (drawnPairs_subset hg hg' h) (drawnPairs_subset hg' hg h.symm)
  · exact dotLines_congr

/-- Texts with the same opening differ if the lines do. -/
theorem dot_eq_iff (hg : g.IsUnquoted) (hg' : g'.IsUnquoted)
    (hlevel : g.granularity = g'.granularity) :
    g.dot label = g'.dot label ↔ g.drawnPairs = g'.drawnPairs := by
  rw [← dotLines_eq_iff hg hg', dot, dot, hlevel]
  constructor
  · intro h
    have hlines := congrArg String.toList h
    simp only [String.toList_append, List.append_assoc, List.append_cancel_left_eq,
      String.toList_join] at hlines
    exact eq_of_flatMap_pairLines hg.line hg'.line hlines
  · intro h
    rw [h]

/-- Edges that differ in a name at one of their ends have lines of their own. -/
theorem length_dotLines (hg : g.IsUnquoted) (hdrawn : Set.InjOn Edge.drawn {e | e ∈ g.edges}) :
    g.dotLines.length = g.edgeCount := by
  have hnodup : (g.edges.map dotLine).Nodup := by
    refine g.edges_nodup.map_on fun e he d hd h => hdrawn he hd ?_
    exact injOn_pairLine (hg.pair ⟨e, he, rfl⟩) (hg.pair ⟨d, hd, rfl⟩) h
  have hperm : g.dotLines.Perm (g.edges.map dotLine) := by
    refine (List.perm_ext_iff_of_nodup (nodup_toList _) hnodup).mpr fun line => ?_
    rw [ExtTreeSet.mem_toList, mem_setOfList]
  rw [hperm.length_eq, List.length_map, edgeCount]

/-- Where a name is the name of one node only, the pairs of names are as good as the edges. -/
theorem drawnPairs_eq_iff {edges : Set Edge} (hdrawn : edges.InjOn Edge.drawn)
    (hg : {e | e ∈ g.edges} ⊆ edges) (hg' : {e | e ∈ g'.edges} ⊆ edges) :
    g.drawnPairs = g'.drawnPairs ↔ ∀ e, e ∈ g.edges ↔ e ∈ g'.edges := by
  rw [drawnPairs, drawnPairs, hdrawn.image_eq_image_iff hg hg', Set.ext_iff]
  rfl

end CallGraph

/-! ### Graphs of calls -/

/-- The calls that are kept join methods whose classes are plain paths. -/
def PlainlyKept (f : PlatformFilter) (calls : ExtTreeSet CallEdge) : Prop :=
  ∀ callee caller, Kept f calls callee caller → callee.IsPlain ∧ caller.IsPlain

theorem plainlyKept_ofList {f : PlatformFilter} {told : List CallEdge}
    (h : ∀ e ∈ told, e.callee.IsPlain ∧ e.caller.IsPlain) :
    PlainlyKept f (ExtTreeSet.ofList told) :=
  fun _ _ hkept => h _ (mem_setOfList.mp hkept.1)

theorem injOn_drawn_classEdge : Set.InjOn Edge.drawn (Set.range CallEdge.classEdge) := by
  rintro _ ⟨e, rfl⟩ _ ⟨d, rfl⟩ h
  obtain ⟨hcallee, hcaller⟩ := Prod.mk.inj h
  have hcallee : e.callee.className = d.callee.className := hcallee
  have hcaller : e.caller.className = d.caller.className := hcaller
  rw [CallEdge.classEdge, CallEdge.classEdge, hcallee, hcaller]

theorem injOn_drawn_methodEdge : Set.InjOn Edge.drawn
    (CallEdge.methodEdge '' {e | e.callee.IsPlain ∧ e.caller.IsPlain}) := by
  rintro _ ⟨e, ⟨hcallee, hcaller⟩, rfl⟩ _ ⟨d, ⟨hcallee', hcaller'⟩, rfl⟩ h
  obtain ⟨hcallees, hcallers⟩ := Prod.mk.inj h
  rw [CallEdge.methodEdge, CallEdge.methodEdge, hcallee.eq_of_qualified hcallee' hcallees,
    hcaller.eq_of_qualified hcaller' hcallers]

namespace Graphs
variable {f : PlatformFilter} {calls : ExtTreeSet CallEdge}

theorem edges_class_subset :
    {e | e ∈ (build f calls).class.edges} ⊆ Set.range CallEdge.classEdge := by
  intro e he
  obtain ⟨call, -, rfl⟩ := mem_edges_class.mp he
  exact ⟨call, rfl⟩

theorem edges_method_subset (h : PlainlyKept f calls) :
    {e | e ∈ (build f calls).method.edges} ⊆
      CallEdge.methodEdge '' {e | e.callee.IsPlain ∧ e.caller.IsPlain} := by
  intro e he
  obtain ⟨call, hkept, rfl⟩ := mem_edges_method.mp he
  exact ⟨call, h _ _ hkept, rfl⟩

end Graphs

namespace CallGraph
open Graphs

/-- The picture of a graph lists, in strictly ascending order, one line for each pair of names that
an edge joins. -/
structure DrawsPairs (g : CallGraph) (label : String) : Prop where
  dot_eq : g.dot label = "digraph \"" ++ lowercased label ++ "_" ++ g.granularity.name ++
    "\" \x7b\n" ++ String.join g.dotLines ++ "\x7d\n"
  ascending : g.dotLines.Pairwise (· < ·)
  lines_eq : {line | line ∈ g.dotLines} = pairLine '' g.drawnPairs

/-- At a level, and under a condition on the calls, each edge of a graph of calls has a line of its
own, and the text of the picture tells the edges. -/
structure DrawsEdges (level : Granularity)
    (plain : PlatformFilter → ExtTreeSet CallEdge → Prop) (label : String) : Prop where
  length_eq : ∀ f calls, let g := (build f calls).get level
    g.IsUnquoted → plain f calls → g.dotLines.length = g.edgeCount
  dot_eq_iff : ∀ f calls f' calls',
    let g := (build f calls).get level
    let g' := (build f' calls').get level
    g.IsUnquoted → g'.IsUnquoted → plain f calls → plain f' calls' →
      (g.dot label = g'.dot label ↔ ∀ e, e ∈ g.edges ↔ e ∈ g'.edges)

/-- Names that tell the edges apart are enough. -/
theorem drawsEdges_of_injOn {level : Granularity} {label : String} {edges : Set Edge}
    {plain : PlatformFilter → ExtTreeSet CallEdge → Prop} (hdrawn : edges.InjOn Edge.drawn)
    (hedges : ∀ f calls, plain f calls → {e | e ∈ ((build f calls).get level).edges} ⊆ edges) :
    DrawsEdges level plain label where
  length_eq f calls hg hplain := length_dotLines hg (hdrawn.mono (hedges f calls hplain))
  dot_eq_iff f calls f' calls' hg hg' hplain hplain' := by
    have hlevel : ((build f calls).get level).granularity =
        ((build f' calls').get level).granularity := by
      cases level <;> exact granularity_ofEdges.trans granularity_ofEdges.symm
    rw [CallGraph.dot_eq_iff hg hg' hlevel,
      drawnPairs_eq_iff hdrawn (hedges f calls hplain) (hedges f' calls' hplain')]

/-- The picture of a graph lists, in strictly ascending order, one line for each pair of names that
an edge joins, and without quotes in the names its text tells these pairs. In a graph of classes
each edge has a line of its own, and so it is among methods whose classes are plain paths; there the
text tells the edges. -/
theorem dot_tells_edges (label : String) :
    (∀ g : CallGraph, g.DrawsPairs label) ∧
      (∀ g g' : CallGraph, g.IsUnquoted → g'.IsUnquoted → g.granularity = g'.granularity →
        (g.dot label = g'.dot label ↔ g.drawnPairs = g'.drawnPairs)) ∧
      DrawsEdges .class (fun _ _ => True) label ∧ DrawsEdges .method PlainlyKept label := by
  refine ⟨fun g => ⟨rfl, Text.pairwise_lt_toList _, Set.ext fun _ => mem_dotLines⟩,
    fun g g' => dot_eq_iff, ?_, ?_⟩
  · exact drawsEdges_of_injOn injOn_drawn_classEdge fun _ _ _ => edges_class_subset
  · exact drawsEdges_of_injOn injOn_drawn_methodEdge fun _ _ => edges_method_subset

/-- Two classes with a method of one name, one of them an inner class: two lines, and another text
than that of a graph with one of the calls. -/
theorem dot_tells_edges_of_namesakes :
    let a : MethodRef := ⟨"Lp/A", "f()V"⟩
    let b : MethodRef := ⟨"Lp/A$B", "f()V"⟩
    let t : MethodRef := ⟨"Lp/T", "t()V"⟩
    let told : List CallEdge := [⟨a, t⟩, ⟨b, t⟩]
    let fewer : List CallEdge := [⟨a, t⟩]
    let calls := ExtTreeSet.ofList told
    let calls' := ExtTreeSet.ofList fewer
    let g := (build .standard calls).method
    let g' := (build .standard calls').method
    g.IsUnquoted ∧ g'.IsUnquoted ∧ PlainlyKept .standard calls ∧ PlainlyKept .standard calls' ∧
      g.dotLines.length = 2 ∧ (build .standard calls).class.dotLines.length = 2 ∧
      g.dot "ALU" ≠ g'.dot "ALU" ∧ g.drawnPairs ≠ g'.drawnPairs := by
  intro a b t told fewer calls calls' g g'
  have hg : g.IsUnquoted := by decide +kernel
  have hg' : g'.IsUnquoted := by decide +kernel
  have hclass : (build .standard calls).class.IsUnquoted := by decide +kernel
  have ha : a.IsPlain := ⟨by decide, by decide, by decide⟩
  have hb : b.IsPlain := ⟨by decide, by decide, by decide⟩
  have ht : t.IsPlain := ⟨by decide, by decide, by decide⟩
  have hplain : PlainlyKept .standard calls :=
    plainlyKept_ofList (by simpa [told] using ⟨⟨ha, ht⟩, hb, ht⟩)
  have hplain' : PlainlyKept .standard calls' :=
    plainlyKept_ofList (by simpa [fewer] using ⟨ha, ht⟩)
  obtain ⟨-, hpairs, hclasses, hmethods⟩ := dot_tells_edges "ALU"
  have hcount : g.dotLines.length = 2 :=
    (hmethods.length_eq _ _ hg hplain).trans (by decide +kernel)
  have hcount' : (build .standard calls).class.dotLines.length = 2 :=
    (hclasses.length_eq _ _ hclass trivial).trans (by decide +kernel)
  have hdot : g.dot "ALU" ≠ g'.dot "ALU" := by
    intro h
    have hedge : CallEdge.methodEdge ⟨b, t⟩ ∈ g.edges := by decide +kernel
    have hmem := ((hmethods.dot_eq_iff _ _ _ _ hg hg' hplain hplain').mp h _).mp hedge
    exact absurd hmem (by decide +kernel)
  have hlevel : g.granularity = g'.granularity :=
    granularity_ofEdges.trans granularity_ofEdges.symm
  have hnames : g.drawnPairs ≠ g'.drawnPairs :=
    fun h => hdot ((hpairs g g' hg hg' hlevel).mpr h)
  exact ⟨hg, hg', hplain, hplain', hcount, hcount', hdot, hnames⟩

end CallGraph
end TestImpact
