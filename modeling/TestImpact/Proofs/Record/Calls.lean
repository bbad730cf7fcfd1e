import TestImpact.Record
import Mathlib.Data.Set.Card

/-! The calls that records tell of, and how many records of each kind there are. -/
namespace TestImpact
open Std

/-! ## Calls

The calls that records tell of, said record by record. -/

namespace Record

/-- The record can be read, and among the methods of its application frames `caller` comes first
and `callee` at a later place. -/
def Tells (record : String) (callee caller : MethodRef) : Prop :=
  ∃ read, frames record = .ok read ∧
    let own := (read.filter (·.loader = .application)).map (·.method)
    own[0]? = some caller ∧ ∃ i ≥ 1, own[i]? = some callee

theorem methods_eq (read : List Frame) :
    methods read = (read.filter (·.loader = .application)).map (·.method) := by
  rw [methods]
  congr 2
  funext f
  cases f.loader <;> rfl

theorem mem_calls_iff {read : List Frame} {e : CallEdge} :
    e ∈ calls read ↔ (methods read)[0]? = some e.caller ∧
      ∃ i ≥ 1, (methods read)[i]? = some e.callee := by
  unfold calls
  cases methods read with
  | nil => simp
  | cons first later =>
    simp only [List.mem_map, List.getElem?_cons_zero, Option.some.injEq]
    constructor
    · rintro ⟨callee, hmem, rfl⟩
      obtain ⟨i, hi⟩ := List.mem_iff_getElem?.mp hmem
      exact ⟨rfl, i + 1, by omega, hi⟩
    · rintro ⟨rfl, i, hpos, hi⟩
      obtain ⟨j, rfl⟩ := Nat.exists_eq_add_of_le' hpos
      exact ⟨e.callee, List.mem_iff_getElem?.mpr ⟨j, hi⟩, rfl⟩

end Record

namespace Normalized

theorem readable_eq_some_iff {record : String} {read : List Frame} :
    readable record = some read ↔ Record.frames record = .ok read := by
  unfold readable
  cases Record.frames record <;> simp [Except.toOption]

/-- The calls of a list of records are those that some record tells of. -/
theorem mem_edges_ofRecords {records : List String} {e : CallEdge} :
    e ∈ (ofRecords records).edges ↔ ∃ r ∈ records, Record.Tells r e.callee e.caller := by
  simp only [ofRecords, mem_setOfList, List.mem_flatMap, List.mem_filterMap,
    readable_eq_some_iff, Record.mem_calls_iff, Record.methods_eq]
  constructor
  · rintro ⟨read, ⟨r, hr, hread⟩, hcalls⟩
    exact ⟨r, hr, read, hread, hcalls⟩
  · rintro ⟨r, hr, read, hread, hcalls⟩
    exact ⟨read, ⟨r, hr, hread⟩, hcalls⟩

/-- The order of the records is lost in the calls and in the counts. -/
theorem ofRecords_perm {records records' : List String} (h : records.Perm records') :
    (ofRecords records).edges = (ofRecords records').edges ∧
      (ofRecords records).counts = (ofRecords records').counts := by
  have hedges : (ofRecords records).edges = (ofRecords records').edges := by
    refine ExtTreeSet.ext_mem fun e => ?_
    simp only [mem_edges_ofRecords, h.mem_iff]
  have hrejected : (ofRecords records).rejected.length = (ofRecords records').rejected.length :=
    (h.filterMap fault).length_eq
  have hisolated : (ofRecords records).isolated = (ofRecords records').isolated :=
    (h.filterMap readable).countP_eq _
  refine ⟨hedges, ?_⟩
  rw [counts, counts, hedges, hrejected, hisolated]
  exact congrArg (Counts.mk · _ _ _) h.length_eq

end Normalized

/-! ## Counts

What a list of records says, one record at a time. Taking in the records one after the other gives
the calls and the counts of the whole list, and lists that are put together say what each of them
says. -/

/-! ### Kinds of records -/

namespace Record

/-- The record cannot be read. -/
def IsMalformed (record : String) : Prop := ∃ e, frames record = .error e

/-- The record can be read, and fewer than two of its frames are of the application. -/
def IsIsolated (record : String) : Prop :=
  ∃ read, frames record = .ok read ∧ (read.filter (·.loader = .application)).length < 2

/-- The record tells of a call. -/
def TellsCall (record : String) : Prop := ∃ callee caller, Tells record callee caller

variable {record : String} {read : List Frame}

theorem calls_eq_nil_iff :
    calls read = [] ↔ (read.filter (·.loader = .application)).length < 2 := by
  rw [← List.length_map (f := (·.method)), ← methods_eq, calls]
  cases methods read with
  | nil => simp
  | cons caller callees => cases callees <;> simp

theorem tellsCall_iff : TellsCall record ↔ ∃ read, frames record = .ok read ∧ calls read ≠ [] := by
  simp only [TellsCall, Tells, ← methods_eq]
  constructor
  · rintro ⟨callee, caller, read, hread, hcall⟩
    have hmem : ⟨callee, caller⟩ ∈ calls read := mem_calls_iff.mpr hcall
    exact ⟨read, hread, List.ne_nil_of_mem hmem⟩
  · rintro ⟨read, hread, hne⟩
    obtain ⟨e, he⟩ := List.exists_mem_of_ne_nil _ hne
    exact ⟨e.callee, e.caller, read, hread, mem_calls_iff.mp he⟩

/-- A record is of just one kind. -/
theorem kind_cases (record : String) :
    IsMalformed record ∧ ¬ IsIsolated record ∧ ¬ TellsCall record ∨
      ¬ IsMalformed record ∧ IsIsolated record ∧ ¬ TellsCall record ∨
      ¬ IsMalformed record ∧ ¬ IsIsolated record ∧ TellsCall record := by
  rw [tellsCall_iff, IsMalformed, IsIsolated]
  cases frames record with
  | error e => simp
  | ok read =>
    simp only [← calls_eq_nil_iff, Except.ok.injEq, exists_eq_left', reduceCtorEq, exists_false]
    tauto

instance : DecidablePred IsMalformed := fun record =>
  decidable_of_iff (Normalized.readable record = none) (by
    unfold IsMalformed Normalized.readable
    cases frames record <;> simp [Except.toOption])

instance : DecidablePred IsIsolated := fun record =>
  decidable_of_iff ((Normalized.readable record).any fun read => (calls read).isEmpty) (by
    simp only [Option.any_eq_true, Normalized.readable_eq_some_iff, List.isEmpty_iff,
      calls_eq_nil_iff, IsIsolated])

instance : DecidablePred TellsCall := fun record =>
  decidable_of_iff ((Normalized.readable record).any fun read => !(calls read).isEmpty) (by
    simp [tellsCall_iff, Option.any_eq_true, Normalized.readable_eq_some_iff])

theorem countP_kinds (records : List String) :
    records.countP (IsMalformed ·) + records.countP (IsIsolated ·) +
      records.countP (TellsCall ·) = records.length := by
  induction records with
  | nil => rfl
  | cons r rest ih =>
    simp only [List.countP_cons, List.length_cons, ← ih]
    rcases kind_cases r with ⟨hm, hi, ht⟩ | ⟨hm, hi, ht⟩ | ⟨hm, hi, ht⟩ <;>
      simp only [hm, hi, ht, decide_true, decide_false, if_true, Bool.false_eq_true, if_false] <;>
      omega

end Record

namespace Normalized

/-! ### Lists put together -/

/-- What two lists of records say together. -/
instance : Append Normalized where
  append n m := ⟨n.edges ∪ m.edges, n.records + m.records, n.rejected ++ m.rejected,
    n.isolated + m.isolated⟩

theorem append_def (n m : Normalized) : n ++ m = ⟨n.edges ∪ m.edges, n.records + m.records,
    n.rejected ++ m.rejected, n.isolated + m.isolated⟩ := rfl

theorem ofRecords_append (records more : List String) :
    ofRecords (records ++ more) = ofRecords records ++ ofRecords more := by
  rw [append_def, ofRecords, Normalized.mk.injEq]
  refine ⟨?_, ?_, ?_, ?_⟩
  · apply ExtTreeSet.ext_mem
    intro e
    simp [ofRecords, ExtTreeSet.mem_union_iff]
  · exact List.length_append
  · exact List.filterMap_append
  · rw [List.filterMap_append]
    exact List.countP_append

theorem append_assoc (n m k : Normalized) : n ++ m ++ k = n ++ (m ++ k) := by
  simp only [append_def, mk.injEq, Nat.add_assoc, List.append_assoc, and_true]
  apply ExtTreeSet.ext_mem
  intro e
  simp only [ExtTreeSet.mem_union_iff, or_assoc]

theorem union_empty (edges : ExtTreeSet CallEdge) : edges ∪ ∅ = edges :=
  ExtTreeSet.ext_mem fun e => by simp

theorem append_start (n : Normalized) : n ++ start = n := by
  simp only [append_def, start, union_empty, List.append_nil, Nat.add_zero]

theorem ofRecords_nil : ofRecords [] = start := by
  simp [ofRecords, start]

/-! ### One record after the other -/

variable {record : String}

theorem ofRecords_of_error {e : Error} (h : Record.frames record = .error e) :
    ofRecords [record] = ⟨∅, 1, [e], 0⟩ := by
  simp [ofRecords, readable, fault, h, Except.toOption]

theorem ofRecords_of_ok {read : List Frame} (h : Record.frames record = .ok read) :
    ofRecords [record] = ⟨ExtTreeSet.ofList (Record.calls read), 1, [],
      if (Record.calls read).isEmpty then 1 else 0⟩ := by
  simp [ofRecords, readable, fault, h, Except.toOption, List.countP_cons]

/-- Inserting calls one by one inserts them all. -/
theorem foldl_insert (callees : List MethodRef) (caller : MethodRef) (edges : ExtTreeSet CallEdge) :
    callees.foldl (fun edges callee => edges.insert ⟨callee, caller⟩) edges =
      edges ∪ ExtTreeSet.ofList (callees.map fun callee => (⟨callee, caller⟩ : CallEdge)) := by
  apply ExtTreeSet.ext_mem
  intro e
  induction callees generalizing edges with
  | nil => simp
  | cons callee rest ih =>
    simp only [List.foldl_cons, ih, ExtTreeSet.mem_union_iff, mem_setOfList, List.map_cons,
      List.mem_cons, ExtTreeSet.mem_insert, LawfulEqCmp.compare_eq_iff_eq, eq_comm (a := e)]
    tauto

/-- Taking in a record adds what the record says by itself. -/
theorem add_eq (n : Normalized) (record : String) : n.add record = n ++ ofRecords [record] := by
  rw [add]
  cases hread : Record.frames record with
  | error e =>
    rw [ofRecords_of_error hread, append_def, union_empty]
    rfl
  | ok read =>
    rw [ofRecords_of_ok hread, append_def, Record.calls, List.append_nil]
    dsimp only
    cases Record.methods read with
    | nil =>
      dsimp only
      rw [ExtTreeSet.ofList_nil, union_empty]
      rfl
    | cons caller callees =>
      simp only [foldl_insert, List.isEmpty_map]
      cases callees.isEmpty <;> rfl

/-- The records one after the other, then those that are left. -/
theorem foldl_add (n : Normalized) (records : List String) :
    records.foldl add n = n ++ ofRecords records := by
  induction records generalizing n with
  | nil => exact (append_start n).symm
  | cons r rest ih => rw [List.foldl_cons, ih, add_eq, append_assoc, ← ofRecords_append]; rfl

/-! ### Counts -/

variable {records : List String}

theorem length_rejected : (ofRecords records).rejected.length =
    records.countP (Record.IsMalformed ·) := by
  rw [ofRecords, List.length_filterMap_eq_countP]
  apply List.countP_congr
  intro r hr
  rw [decide_eq_true_eq, Record.IsMalformed, fault]
  cases Record.frames r <;> simp

theorem isolated_ofRecords : (ofRecords records).isolated =
    records.countP (Record.IsIsolated ·) := by
  rw [ofRecords, List.countP_filterMap]
  apply List.countP_congr
  intro r hr
  rw [decide_eq_true_eq, Record.IsIsolated, readable]
  cases Record.frames r <;> simp [Except.toOption, Record.calls_eq_nil_iff]

/-- What is known of a list of records: the calls that they tell of, each once, and how many records
there are of each kind. -/
structure Tallies (n : Normalized) (records : List String) : Prop where
  mem_edges : ∀ callee caller, ⟨callee, caller⟩ ∈ n.edges ↔
    ∃ r ∈ records, Record.Tells r callee caller
  records_eq : n.counts.records = records.length
  malformed_eq : n.counts.malformed = records.countP (Record.IsMalformed ·)
  isolated_eq : n.counts.isolated = records.countP (Record.IsIsolated ·)
  rest_eq : n.counts.records - n.counts.malformed - n.counts.isolated =
    records.countP (Record.TellsCall ·)
  malformed_add_isolated_le : n.counts.malformed + n.counts.isolated ≤ n.counts.records
  edges_eq : n.counts.edges =
    {e : CallEdge | ∃ r ∈ records, Record.Tells r e.callee e.caller}.ncard

theorem size_edges (records : List String) : (ofRecords records).edges.size =
    {e : CallEdge | ∃ r ∈ records, Record.Tells r e.callee e.caller}.ncard := by
  have hset : {e : CallEdge | ∃ r ∈ records, Record.Tells r e.callee e.caller} =
      ((ofRecords records).edges.toList.toFinset : Set CallEdge) := by
    ext e
    simp [ExtTreeSet.mem_toList, mem_edges_ofRecords]
  rw [hset, Set.ncard_coe_finset, List.toFinset_card_of_nodup (nodup_toList _),
    ExtTreeSet.length_toList]

theorem tallies_ofRecords (records : List String) : (ofRecords records).Tallies records := by
  have hrecords : (ofRecords records).counts.records = records.length := rfl
  have hmalformed : (ofRecords records).counts.malformed = _ := length_rejected
  have hisolated : (ofRecords records).counts.isolated = _ := isolated_ofRecords
  have hkinds := Record.countP_kinds records
  exact ⟨fun _ _ => mem_edges_ofRecords, hrecords, hmalformed, hisolated, by omega, by omega,
    size_edges records⟩

/-- Records that are taken in one after the other give the calls and the counts of their list; and
what lists say that are put together is the union of their calls and the sums of their records, of
the malformed ones and of the isolated ones. -/
theorem foldl_add_start_and_append (records more : List String) :
    records.foldl add start = ofRecords records ∧ (ofRecords records).Tallies records ∧
      let n := ofRecords records
      let m := ofRecords more
      let both := ofRecords (records ++ more)
      both.edges = n.edges ∪ m.edges ∧ both.counts.records = n.counts.records + m.counts.records ∧
        both.counts.malformed = n.counts.malformed + m.counts.malformed ∧
        both.counts.isolated = n.counts.isolated + m.counts.isolated := by
  have hrun : records.foldl add start = ofRecords records := by
    rw [foldl_add, ← ofRecords_nil, ← ofRecords_append, List.nil_append]
  refine ⟨hrun, tallies_ofRecords records, ?_⟩
  intro n m both
  have hboth : both = n ++ m := ofRecords_append records more
  rw [hboth, append_def]
  exact ⟨rfl, rfl, List.length_append, rfl⟩

/-- A record without a reference, one frame alone, and a call from a method to itself told twice. -/
example :
    let call := "< Application, A, f >-< Application, A, f >"
    (ofRecords ["f", "< Application, A, f >-< Extension, B, g >", call, call]).counts =
      ⟨4, 1, 1, 1⟩ := by
  decide +kernel

end Normalized

end TestImpact
