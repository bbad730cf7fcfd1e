import TestImpact.Proofs.CallGraph.Closure
import TestImpact.Selection
import Mathlib.Data.Set.Card

/-! The two graphs of a set of calls, and the one as the image of the other. -/
namespace TestImpact
open Std

/-! ## Edges and nodes

The two graphs of a set of calls: their edges are the images of the calls that are kept. -/

/-- A class whose name starts with one of the prefixes. -/
def PlatformFilter.Covers (f : PlatformFilter) (className : String) : Prop :=
  ∃ p ∈ f.prefixes, p.toList <+: className.toList

theorem PlatformFilter.isPlatform_iff {f : PlatformFilter} {className : String} :
    f.isPlatform className = true ↔ f.Covers className := by
  simp [isPlatform, Covers]

/-- A call of the set that has no end in the platform. -/
def Kept (f : PlatformFilter) (calls : ExtTreeSet CallEdge) (callee caller : MethodRef) : Prop :=
  ⟨callee, caller⟩ ∈ calls ∧ ¬ f.Covers callee.className ∧ ¬ f.Covers caller.className

namespace Graphs
variable {f : PlatformFilter} {calls : ExtTreeSet CallEdge}

theorem mem_kept {e : CallEdge} : e ∈ f.kept calls ↔ Kept f calls e.callee e.caller := by
  simp [PlatformFilter.kept, PlatformFilter.keeps, Kept, ← PlatformFilter.isPlatform_iff]

/-- Calls with their ends renamed, as edges, relate the renamed ends. -/
theorem calledBy_map_kept {name : MethodRef → Node} {edge : CallEdge → Edge}
    (h : ∀ e, edge e = ⟨name e.callee, name e.caller⟩) :
    CalledBy ((f.kept calls).map edge) = Relation.Map (Kept f calls) name name := by
  funext a b
  simp only [CalledBy, List.mem_map, mem_kept, h, Edge.mk.injEq, Relation.Map, eq_iff_iff]
  constructor
  · rintro ⟨e, he, rfl, rfl⟩
    exact ⟨e.callee, e.caller, he, rfl, rfl⟩
  · rintro ⟨callee, caller, hk, rfl, rfl⟩
    exact ⟨⟨callee, caller⟩, hk, rfl, rfl⟩

theorem calledBy_method : CalledBy (build f calls).method.edges =
    Relation.Map (Kept f calls) Node.ofMethodRef Node.ofMethodRef := by
  rw [build, CallGraph.calledBy_ofEdges]
  exact calledBy_map_kept fun _ => rfl

theorem calledBy_class : CalledBy (build f calls).class.edges =
    Relation.Map (Relation.Map (Kept f calls) MethodRef.className MethodRef.className)
      Node.ofClass Node.ofClass := by
  rw [build, CallGraph.calledBy_ofEdges, Relation.map_map]
  exact calledBy_map_kept fun _ => rfl

/-- A call between methods is a call between their classes. -/
theorem calledBy_toClass {a b : Node} (h : CalledBy (build f calls).method.edges a b) :
    CalledBy (build f calls).class.edges a.toClass b.toClass := by
  rw [calledBy_method] at h
  rw [calledBy_class]
  obtain ⟨callee, caller, hk, rfl, rfl⟩ := h
  exact ⟨_, _, ⟨callee, caller, hk, rfl, rfl⟩, rfl, rfl⟩

/-- The method graph holds the ends of the calls that are kept. -/
theorem mem_nodes_method {n : Node} :
    n ∈ (build f calls).method.nodes ↔
      ∃ callee caller, Kept f calls callee caller ∧
        (n = .ofMethodRef callee ∨ n = .ofMethodRef caller) := by
  rw [CallGraph.mem_nodes_iff_calledBy, calledBy_method]
  constructor
  · rintro (⟨_, callee, caller, hk, rfl, -⟩ | ⟨_, callee, caller, hk, -, rfl⟩)
    · exact ⟨callee, caller, hk, .inl rfl⟩
    · exact ⟨callee, caller, hk, .inr rfl⟩
  · rintro ⟨callee, caller, hk, rfl | rfl⟩
    · exact .inl ⟨_, callee, caller, hk, rfl, rfl⟩
    · exact .inr ⟨_, callee, caller, hk, rfl, rfl⟩

end Graphs

theorem Node.ofClass_injective : Function.Injective Node.ofClass := fun a b h => by
  simpa [ofClass] using h

/-! ## Classes of methods

The class graph is the method graph with its methods taken for their classes. The method graph in
turn has an edge of its own for each call, because a method can be told from its node. -/

/-- The class decides the dotted class, so the rest of the qualified name is the selector. -/
theorem Node.ofMethodRef_injective : Function.Injective Node.ofMethodRef := by
  intro m m' h
  have hclass : m.className = m'.className := congrArg Node.className h
  have hmember : some m.qualified = some m'.qualified := congrArg Node.member h
  have hdotted : m.dottedClass = m'.dottedClass := by
    rw [MethodRef.dottedClass, MethodRef.dottedClass, hclass]
  have hselector : m.selector = m'.selector := by
    have hqualified := congrArg String.toList (Option.some.inj hmember)
    simp only [MethodRef.qualified, hdotted, String.toList_append] at hqualified
    exact String.toList_inj.mp (List.append_cancel_left hqualified)
  cases m
  cases m'
  exact MethodRef.mk.injEq .. ▸ ⟨hclass, hselector⟩

theorem CallEdge.methodEdge_injective : Function.Injective CallEdge.methodEdge := by
  intro e e' h
  have hcallee := Node.ofMethodRef_injective (congrArg Edge.callee h)
  have hcaller := Node.ofMethodRef_injective (congrArg Edge.caller h)
  cases e
  cases e'
  exact CallEdge.mk.injEq .. ▸ ⟨hcallee, hcaller⟩

/-- The edge between the classes of two nodes. -/
def Edge.toClass (e : Edge) : Edge := ⟨e.callee.toClass, e.caller.toClass⟩

theorem CallEdge.toClass_methodEdge (e : CallEdge) : e.methodEdge.toClass = e.classEdge := rfl

/-- What is affected among methods is affected among their classes. -/
theorem Affected.toClass {f : PlatformFilter} {calls : ExtTreeSet CallEdge}
    {changed changed' : Set Node} (hs : ∀ c ∈ changed, c.toClass ∈ changed') {n : Node}
    (h : Affected (CalledBy (Graphs.build f calls).method.edges) changed n) :
    Affected (CalledBy (Graphs.build f calls).class.edges) changed' n.toClass := by
  apply h.map
  · exact fun _ _ hcall => Graphs.calledBy_toClass hcall
  · exact hs

namespace Graphs
variable {f : PlatformFilter} {calls : ExtTreeSet CallEdge}

theorem mem_edges_method {e : Edge} : e ∈ (build f calls).method.edges ↔
    ∃ call : CallEdge, Kept f calls call.callee call.caller ∧ call.methodEdge = e := by
  simp [build, mem_kept]

theorem mem_edges_class {e : Edge} : e ∈ (build f calls).class.edges ↔
    ∃ call : CallEdge, Kept f calls call.callee call.caller ∧ call.classEdge = e := by
  simp [build, mem_kept]

/-- No two calls share an edge of the method graph. -/
theorem bijOn_methodEdge : Set.BijOn CallEdge.methodEdge
    {call | Kept f calls call.callee call.caller} {e | e ∈ (build f calls).method.edges} := by
  refine ⟨?_, CallEdge.methodEdge_injective.injOn, ?_⟩
  · intro call hcall
    exact mem_edges_method.mpr ⟨call, hcall, rfl⟩
  · intro e he
    exact mem_edges_method.mp he

theorem edgeCount_method : (build f calls).method.edgeCount =
    {call : CallEdge | Kept f calls call.callee call.caller}.ncard := by
  have hcount : (build f calls).method.edgeCount =
      {e | e ∈ (build f calls).method.edges}.ncard := by
    rw [CallGraph.edgeCount, ← List.toFinset_card_of_nodup (CallGraph.edges_nodup _),
      ← Set.ncard_coe_finset, List.coe_toFinset]
  rw [hcount, ← bijOn_methodEdge.image_eq]
  exact Set.ncard_image_of_injective _ CallEdge.methodEdge_injective

/-- The edges of the class graph join the classes of the ends of edges of the method graph. -/
theorem mem_edges_class_iff {e : Edge} : e ∈ (build f calls).class.edges ↔
    ∃ d ∈ (build f calls).method.edges, d.toClass = e := by
  simp only [mem_edges_class, mem_edges_method]
  constructor
  · rintro ⟨call, hcall, rfl⟩
    exact ⟨_, ⟨call, hcall, rfl⟩, call.toClass_methodEdge⟩
  · rintro ⟨_, ⟨call, hcall, rfl⟩, rfl⟩
    exact ⟨call, hcall, call.toClass_methodEdge.symm⟩

theorem mem_nodes_class_iff {n : Node} : n ∈ (build f calls).class.nodes ↔
    ∃ m ∈ (build f calls).method.nodes, m.toClass = n := by
  simp only [CallGraph.mem_nodes, mem_edges_class_iff]
  constructor
  · rintro ⟨_, ⟨e, he, rfl⟩, rfl | rfl⟩
    · exact ⟨e.callee, ⟨e, he, .inl rfl⟩, rfl⟩
    · exact ⟨e.caller, ⟨e, he, .inr rfl⟩, rfl⟩
  · rintro ⟨_, ⟨e, he, rfl | rfl⟩, rfl⟩
    · exact ⟨_, ⟨e, he, rfl⟩, .inl rfl⟩
    · exact ⟨_, ⟨e, he, rfl⟩, .inr rfl⟩

theorem not_covers_of_mem_method {n : Node} (h : n ∈ (build f calls).method.nodes) :
    ¬ f.Covers n.className := by
  obtain ⟨callee, caller, hkept, rfl | rfl⟩ := mem_nodes_method.mp h
  · exact hkept.2.1
  · exact hkept.2.2

theorem not_covers_of_mem_class {n : Node} (h : n ∈ (build f calls).class.nodes) :
    ¬ f.Covers n.className := by
  obtain ⟨m, hm, rfl⟩ := mem_nodes_class_iff.mp h
  have hclear : ¬ f.Covers m.className := not_covers_of_mem_method hm
  exact hclear

/-- The classes of what is affected are affected by the classes of the changes. -/
theorem toClass_mem_closure {seeds : List Node} {n : Node}
    (h : n ∈ ((build f calls).method.closure seeds).nodes) :
    n.toClass ∈ ((build f calls).class.closure (seeds.map Node.toClass)).nodes := by
  rw [CallGraph.mem_closure] at h ⊢
  exact h.toClass fun c hc => List.mem_map_of_mem hc

/-- The class graph is the method graph with each method taken for its class, and both hold the
calls that stay clear of the platform. -/
structure Quotient (graphs : Graphs) (f : PlatformFilter) (calls : ExtTreeSet CallEdge) : Prop where
  bijOn : Set.BijOn CallEdge.methodEdge {call | Kept f calls call.callee call.caller}
    {e | e ∈ graphs.method.edges}
  edgeCount_eq : graphs.method.edgeCount =
    {call : CallEdge | Kept f calls call.callee call.caller}.ncard
  edges_class_eq : {e | e ∈ graphs.class.edges} = Edge.toClass '' {e | e ∈ graphs.method.edges}
  nodes_class_eq : {n | n ∈ graphs.class.nodes} = Node.toClass '' {n | n ∈ graphs.method.nodes}
  not_covers : ∀ n, n ∈ graphs.class.nodes ∨ n ∈ graphs.method.nodes → ¬ f.Covers n.className
  /-- What a change affects among methods it affects among classes. -/
  toClass_mem_closure : ∀ seeds, ∀ n ∈ (graphs.method.closure seeds).nodes,
    n.toClass ∈ (graphs.class.closure (seeds.map Node.toClass)).nodes

/-- The method graph has one edge for each call that stays clear of the platform. Its edges and
nodes, with each method taken for its class, are those of the class graph; and what a change affects
among methods it affects among classes. -/
theorem build_quotient (f : PlatformFilter) (calls : ExtTreeSet CallEdge) :
    (build f calls).Quotient f calls where
  bijOn := bijOn_methodEdge
  edgeCount_eq := edgeCount_method
  edges_class_eq := Set.ext fun _ => mem_edges_class_iff
  nodes_class_eq := Set.ext fun _ => mem_nodes_class_iff
  not_covers
    | _, .inl hn => not_covers_of_mem_class hn
    | _, .inr hn => not_covers_of_mem_method hn
  toClass_mem_closure _ _ hn := toClass_mem_closure hn

/-- Two calls between two classes, and one into the platform: two edges between methods, one between
classes. -/
theorem build_quotient_of_two_calls :
    let f : MethodRef := ⟨"Lp/A", "f()V"⟩
    let g : MethodRef := ⟨"Lp/A", "g()V"⟩
    let t : MethodRef := ⟨"Lp/T", "t()V"⟩
    let size : MethodRef := ⟨"Ljava/util/List", "size()I"⟩
    let told : List CallEdge := [⟨f, t⟩, ⟨g, t⟩, ⟨size, t⟩]
    let calls := ExtTreeSet.ofList told
    let graphs := build .standard calls
    {call : CallEdge | Kept .standard calls call.callee call.caller}.ncard = 2 ∧
      graphs.class.edgeCount = 1 ∧
      Node.ofMethodRef t ∈ (graphs.method.closure [.ofMethodRef f]).nodes ∧
      Node.ofClass "Lp/T" ∈ (graphs.class.closure [.ofClass "Lp/A"]).nodes := by
  intro f g t size told calls graphs
  have hquotient := build_quotient .standard calls
  have hedges : graphs.method.edgeCount = 2 := by decide +kernel
  have hmem : Node.ofMethodRef t ∈ (graphs.method.closure [.ofMethodRef f]).nodes := by
    decide +kernel
  exact ⟨hquotient.edgeCount_eq.symm.trans hedges, by decide +kernel, hmem,
    hquotient.toClass_mem_closure [.ofMethodRef f] _ hmem⟩

end Graphs

end TestImpact
