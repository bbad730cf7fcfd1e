import TestImpact.Files.Tree
import TestImpact.Proofs.Text
import Mathlib.Data.List.DropRight

/-!
Where a path leads by its text alone. The places passed on the way to what it names are those that
its directory passes, and a plain name below a directory leads one step further.
-/
namespace TestImpact.Path
open Text

/-- The place that one piece leads to, whether or not something is there. -/
def move (place : Place) (piece : List Char) : Place :=
  if !isPart piece then place
  else if piece = ['.', '.'] then place.tail
  else String.ofList piece :: place

/-- The places that a walk along pieces passes, from its start to its end. -/
def way (start : Place) (pieces : List (List Char)) : List Place := pieces.scanl move start

/-- Where the walk along a path starts. -/
def origin (cwd : Place) (path : String) : Place := if isAbsolute path then [] else cwd

/-- The place that a path names, whether or not something is there. -/
def place (cwd : Place) (path : String) : Place := (pieces path).foldl move (origin cwd path)

/-- The places on the way to what a path names, that place itself left out. -/
def ancestors (cwd : Place) (path : String) : List Place :=
  way (origin cwd path) (pieces path).dropLast

section Walks
variable {start q : Place} {ps : List (List Char)} {p : List Char}

@[simp] theorem mem_way_nil : q ∈ way start [] ↔ q = start := by
  simp [way]

@[simp] theorem mem_way_cons : q ∈ way start (p :: ps) ↔ q = start ∨ q ∈ way (move start p) ps := by
  simp [way]

theorem start_mem_way : start ∈ way start ps := by
  cases ps <;> simp

theorem mem_way_append {ps' : List (List Char)} :
    q ∈ way start (ps ++ ps') ↔ q ∈ way start ps ∨ q ∈ way (ps.foldl move start) ps' := by
  induction ps generalizing start with
  | nil =>
    simp only [List.nil_append, mem_way_nil, List.foldl_nil]
    exact ⟨.inr, fun h => h.elim (fun e => e ▸ start_mem_way) id⟩
  | cons p ps ih =>
    rw [List.cons_append, mem_way_cons, mem_way_cons, ih, List.foldl_cons, or_assoc]

theorem foldl_mem_way : ps.foldl move start ∈ way start ps := by
  induction ps generalizing start with
  | nil => simp
  | cons p ps ih => simp [ih]

theorem move_of_not_isPart (h : isPart p = false) : move start p = start := by
  simp [move, h]

theorem mem_way_of_not_isPart (h : ∀ p ∈ ps, isPart p = false) : q ∈ way start ps ↔ q = start := by
  induction ps with
  | nil => simp
  | cons p ps ih =>
    rw [mem_way_cons, move_of_not_isPart (h p List.mem_cons_self),
      ih fun r hr => h r (List.mem_cons_of_mem p hr), or_self]

end Walks

theorem mem_way_append_idle {start q : Place} {ps idle : List (List Char)}
    (h : ∀ p ∈ idle, isPart p = false) : q ∈ way start (ps ++ idle) ↔ q ∈ way start ps := by
  rw [mem_way_append, mem_way_of_not_isPart h]
  exact ⟨fun hq => hq.elim id fun e => e ▸ foldl_mem_way, .inl⟩

/-! ### The pieces of a path -/

theorem isPrefix_trimPieces (ps : List (List Char)) : trimPieces ps <+: ps :=
  List.rdropWhile_prefix _ ps

theorem pieces_ofList_intercalate {ps : List (List Char)} (hne : ps ≠ [])
    (h : ∀ p ∈ ps, '/' ∉ p) : pieces (String.ofList (List.intercalate ['/'] ps)) = ps := by
  rw [pieces, String.toList_ofList, splitOn_eq, List.splitOn_intercalate '/' h hne]

theorem exists_pieces_eq_cons (path : String) : ∃ first rest, pieces path = first :: rest :=
  List.exists_cons_of_ne_nil (splitOn_ne_nil '/' path.toList)

theorem isAbsolute_iff {path : String} : isAbsolute path = true ↔
    ∃ p ps, pieces path = [] :: p :: ps := by
  simp only [isAbsolute, pieces, splitOn_eq, beq_iff_eq]
  cases path.toList with
  | nil => simp
  | cons c r =>
    obtain ⟨p, ps, hps⟩ := List.exists_cons_of_ne_nil (List.splitOn_ne_nil '/' r)
    rw [List.splitOn_cons_eq_if_modifyHead, hps]
    by_cases hc : c = '/' <;> simp [hc]

theorem isAbsolute_iff_of_pieces {path : String} {first : List Char} {rest : List (List Char)}
    (h : pieces path = first :: rest) : isAbsolute path = true ↔ first = [] ∧ rest ≠ [] := by
  rw [isAbsolute_iff, h]
  cases rest <;> simp

/-! ### The directory of a path -/

theorem ne_empty_of_directory {path d : String} (h : directory? path = some d) : d ≠ "" := by
  simpa using (Option.filter_eq_some_iff.mp h).2

/-- A directory is spelled with the first piece of its path and those up to the last part. -/
theorem exists_pieces_directory {path d : String} (h : directory? path = some d) :
    ∃ first rest idle, pieces path = first :: rest ∧ rest ≠ [] ∧
      pieces d = first :: (trimPieces (trimPieces rest).dropLast ++ idle) ∧
      (∀ p ∈ idle, isPart p = false) ∧ isAbsolute d = isAbsolute path := by
  obtain ⟨first, rest, hps⟩ := exists_pieces_eq_cons path
  have hd := ne_empty_of_directory h
  obtain ⟨hparent, -⟩ := Option.filter_eq_some_iff.mp h
  have htrim : trimPieces rest ≠ [] := by
    intro he
    simp only [parent?, hps, he, List.isEmpty_nil, if_true] at hparent
    split at hparent
    · simp at hparent
    · obtain rfl := Option.some.inj hparent
      simp at hd
  have hne : rest ≠ [] := by
    rintro rfl
    exact htrim rfl
  refine ⟨first, rest, ?_⟩
  have hmem : ∀ p ∈ trimPieces (trimPieces rest).dropLast, p ∈ rest := fun p hp =>
    (isPrefix_trimPieces _).subset (List.dropLast_subset _ ((isPrefix_trimPieces _).subset hp))
  simp only [parent?, hps, List.isEmpty_iff, htrim, if_false] at hparent
  generalize trimPieces (trimPieces rest).dropLast = kept at hparent hmem
  by_cases hroot : first = [] ∧ kept = []
  · -- the root is spelled with a slash of its own
    obtain ⟨rfl, rfl⟩ := hroot
    obtain rfl : "/" = d := by simpa using hparent
    refine ⟨[[]], hps, hne, by decide, by simp [isPart], ?_⟩
    rw [isAbsolute_iff_of_pieces hps |>.mpr ⟨rfl, hne⟩]
    decide
  · obtain rfl : String.ofList (List.intercalate ['/'] (first :: kept)) = d := by
      simpa [hroot] using hparent
    have hpieces : pieces (String.ofList (List.intercalate ['/'] (first :: kept))) =
        first :: kept := by
      apply pieces_ofList_intercalate (List.cons_ne_nil _ _)
      intro p hp
      apply not_mem_of_mem_splitOn (s := path.toList)
      rw [← pieces, hps]
      rcases List.mem_cons.mp hp with rfl | hp
      · exact List.mem_cons_self
      · exact List.mem_cons_of_mem _ (hmem p hp)
    refine ⟨[], hps, hne, by rw [hpieces, List.append_nil], by simp, ?_⟩
    rw [Bool.eq_iff_iff, isAbsolute_iff_of_pieces hps, isAbsolute_iff_of_pieces hpieces]
    exact and_congr_right fun hfirst =>
      iff_of_true (fun hkept => hroot ⟨hfirst, hkept⟩) hne

variable {cwd q : Place} {path d : String}

theorem origin_eq_of_directory (h : directory? path = some d) : origin cwd d = origin cwd path := by
  obtain ⟨-, -, -, -, -, -, -, habs⟩ := exists_pieces_directory h
  rw [origin, habs, origin]

/-- What is passed on the way to the directory is passed on the way to the file. -/
theorem mem_ancestors_of_directory (h : directory? path = some d)
    (hq : q ∈ way (origin cwd d) (pieces d)) : q ∈ ancestors cwd path := by
  rw [origin_eq_of_directory h] at hq
  obtain ⟨first, rest, idle, hps, hne, hd, hidle, -⟩ := exists_pieces_directory h
  have hdrop : (trimPieces rest).dropLast <+: rest.dropLast := by
    have hlen := (isPrefix_trimPieces rest).length_le
    have hlong : rest.dropLast <+: rest := List.dropLast_prefix rest
    have hshort : (trimPieces rest).dropLast <+: trimPieces rest := List.dropLast_prefix _
    refine List.prefix_of_prefix_length_le (hshort.trans (isPrefix_trimPieces rest)) hlong ?_
    simp only [List.length_dropLast]
    omega
  obtain ⟨more, hmore⟩ := (isPrefix_trimPieces _).trans hdrop
  rw [hd, ← List.cons_append, mem_way_append_idle hidle] at hq
  rw [ancestors, hps, List.dropLast_cons_of_ne_nil hne, ← hmore, ← List.cons_append, mem_way_append]
  exact .inl hq

theorem isName_iff {name : String} : isName name = true ↔
    isPart name.toList = true ∧ name.toList ≠ ['.', '.'] ∧ '/' ∉ name.toList ∧
      '\x00' ∉ name.toList ∧ name.utf8ByteSize ≤ nameLimit := by
  simp [isName, and_assoc]

theorem move_of_isName {start : Place} {piece : List Char} (h : isName (String.ofList piece)) :
    move start piece = String.ofList piece :: start := by
  obtain ⟨hpart, hup, -⟩ := isName_iff.mp h
  rw [String.toList_ofList] at hpart hup
  simp [move, hpart, hup]

end TestImpact.Path
