import TestImpact.Files.Store
import TestImpact.Proofs.Files.Path
import Mathlib.Logic.Function.Basic

/-! Trees and sessions told by their directories and files. -/
open TestImpact.Path

namespace TestImpact.FileTree

/-! ## Trees

Trees seen as a set of directories and a map of files. Making directories leaves the files alone
and adds directories on the way; writing and removing change one file and leave the directories
alone. -/

section Trees
variable {t t' : FileTree} {q : Place}

theorem file?_eq_none_of_isDirectory (h : t.isDirectory q = true) : t.file? q = none := by
  rw [file?, isDirectory_iff.mp h]

/-- What is there is a directory or a file. -/
theorem isSome_get?_iff : (t.get? q).isSome ↔ t.isDirectory q = true ∨ (t.file? q).isSome := by
  unfold isDirectory file?
  rcases t.get? q with _ | _ | bytes <;> simp

/-- What is there has a name. -/
theorem isName_of_isDirectory {name : String} {place : Place}
    (h : t.isDirectory (name :: place) = true) : isName name = true :=
  t.isNamed name place _ (isDirectory_iff.mp h)

/-! ### Putting and taking entries -/

section Entries
variable {place : Place} {name : String} {e : Entry}

theorem get?_put (h : t.isDirectory place = true) (hnew : t.isDirectory (name :: place) = false)
    (hname : isName name = true) :
    (t.put place name e).get? q = if q = name :: place then some e else t.get? q := by
  have hd : t.get? (name :: place) ≠ some .directory := by
    rw [Ne, ← isDirectory_iff, hnew]
    simp
  rw [put, dif_pos ⟨⟨isDirectory_iff.mp h, hd⟩, hname⟩]
  exact entryAt_insert

theorem put_of_not_isName (h : isName name = false) : t.put place name e = t := by
  simp [put, h]

theorem file?_put_file {bytes : ByteArray} (h : t.isDirectory place = true)
    (hnew : t.isDirectory (name :: place) = false) (hname : isName name = true) :
    (t.put place name (.file bytes)).file? =
      Function.update t.file? (name :: place) (some bytes) := by
  funext q
  rw [Function.update_apply, file?, get?_put h hnew hname]
  by_cases hq : q = name :: place <;> simp [hq, file?]

theorem isDirectory_put_file {bytes : ByteArray} (h : t.isDirectory place = true)
    (hnew : t.isDirectory (name :: place) = false) (hname : isName name = true) :
    (t.put place name (.file bytes)).isDirectory = t.isDirectory := by
  funext q
  rw [isDirectory, get?_put h hnew hname]
  by_cases hq : q = name :: place
  · subst hq
    rw [if_pos rfl, hnew]
    rfl
  · rw [if_neg hq, isDirectory]

theorem isDirectory_eq_false_of_get?_eq_none (h : t.get? q = none) : t.isDirectory q = false := by
  simp [isDirectory, h]

theorem file?_put_directory (h : t.isDirectory place = true) (hnew : t.get? (name :: place) = none)
    (hname : isName name = true) : (t.put place name .directory).file? = t.file? := by
  funext q
  rw [file?, get?_put h (isDirectory_eq_false_of_get?_eq_none hnew) hname]
  by_cases hq : q = name :: place
  · simp [hq, file?, hnew]
  · rw [if_neg hq, file?]

theorem isDirectory_put_directory (h : t.isDirectory place = true)
    (hnew : t.get? (name :: place) = none) (hname : isName name = true) :
    (t.put place name .directory).isDirectory q = true ↔
      t.isDirectory q = true ∨ q = name :: place := by
  rw [isDirectory, get?_put h (isDirectory_eq_false_of_get?_eq_none hnew) hname]
  by_cases hq : q = name :: place
  · simp [hq]
  · simp [hq, isDirectory]

theorem get?_removeFile (h : t.isDirectory place = false) :
    (t.removeFile place).get? q = if q = place then none else t.get? q := by
  have hd : t.get? place ≠ some .directory := by
    rw [Ne, ← isDirectory_iff, h]
    simp
  rw [removeFile, dif_neg hd]
  apply entryAt_erase
  rintro rfl
  exact hd rfl

theorem file?_removeFile (h : t.isDirectory place = false) :
    (t.removeFile place).file? = Function.update t.file? place none := by
  funext q
  rw [Function.update_apply, file?, get?_removeFile h]
  by_cases hq : q = place <;> simp [hq, file?]

theorem isDirectory_removeFile (h : t.isDirectory place = false) :
    (t.removeFile place).isDirectory = t.isDirectory := by
  funext q
  rw [isDirectory, get?_removeFile h]
  by_cases hq : q = place
  · subst hq
    rw [if_pos rfl, h]
    rfl
  · rw [if_neg hq, isDirectory]

end Entries

/-! ### Following a path -/

section Paths
variable {cwd place d : Place} {path n : String} {pieces : List (List Char)} {piece : List Char}

/-- A step needs a directory to start from and something to arrive at. -/
theorem step_eq : t.step place piece =
    if t.isDirectory place = true ∧ (t.get? (move place piece)).isSome then
      some (move place piece) else none := by
  cases hd : t.isDirectory place with
  | false => simp [step, hd]
  | true =>
    have htail : (t.get? place.tail).isSome :=
      isSome_get?_iff.mpr (.inl (isDirectory_tail hd))
    have hself : (t.get? place).isSome := isSome_get?_iff.mpr (.inl hd)
    unfold step move
    by_cases hup : piece = ['.', '.']
    · simp [hd, hup, isPart, htail]
    · by_cases hp : isPart piece = true <;> simp [hd, hp, hup, hself]

theorem eq_foldl_move_of_foldlM_step (h : pieces.foldlM t.step place = some q) :
    q = pieces.foldl move place := by
  induction pieces generalizing place with
  | nil => simpa using h.symm
  | cons piece rest ih =>
    rw [List.foldlM_cons, step_eq] at h
    split at h
    · exact ih h
    · simp at h

/-- A walk that arrives at a directory passes directories only. -/
theorem foldlM_step_eq_some_iff :
    pieces.foldlM t.step place = some q ∧ t.isDirectory q = true ↔
      (∀ p ∈ way place pieces, t.isDirectory p = true) ∧ q = pieces.foldl move place := by
  induction pieces generalizing place with
  | nil =>
    simp only [List.foldlM_nil, mem_way_nil, forall_eq, List.foldl_nil]
    constructor
    · rintro ⟨h, hq⟩
      obtain rfl := Option.some.inj h
      exact ⟨hq, rfl⟩
    · rintro ⟨hq, rfl⟩
      exact ⟨rfl, hq⟩
  | cons piece rest ih =>
    rw [List.foldlM_cons, step_eq, List.foldl_cons]
    simp only [mem_way_cons, forall_eq_or_imp]
    split
    · rename_i h
      rw [and_assoc, ← ih]
      simp [h.1]
    · rename_i h
      simp only [not_and] at h
      refine iff_of_false (by simp) ?_
      rintro ⟨⟨hd, hway⟩, -⟩
      exact h hd (isSome_get?_iff.mpr (.inl (hway _ start_mem_way)))

theorem start?_eq_some (h : start? cwd path = some place) : place = origin cwd path := by
  unfold start? at h
  unfold origin
  split at h
  · simp at h
  · split at h <;> simp_all

/-- A file can be made at the end of a path if the path is a good one, all places on its way are
directories and it ends in a name. -/
theorem target_eq_some_iff : t.target cwd path = some (d, n) ↔
    isTooLong path = false ∧ (start? cwd path).isSome ∧
      (∀ p ∈ ancestors cwd path, t.isDirectory p = true) ∧
      ∃ piece, (Path.pieces path).getLast? = some piece ∧ n = String.ofList piece ∧
        isName n = true ∧ d = (Path.pieces path).dropLast.foldl move (origin cwd path) := by
  unfold target
  cases hlong : isTooLong path with
  | true => simp
  | false =>
    cases hstart : start? cwd path with
    | none => simp
    | some place =>
      obtain rfl := start?_eq_some hstart
      simp only [Bool.false_eq_true, if_false, Option.bind_eq_bind, Option.bind_some,
        Option.bind_eq_some_iff, Option.isSome_some, true_and, ancestors]
      constructor
      · rintro ⟨place, hwalk, piece, hlast, h⟩
        split at h
        · rename_i hgood
          obtain ⟨hd, hname⟩ :
              t.isDirectory place = true ∧ isName (String.ofList piece) = true := by
            simpa using hgood
          obtain ⟨rfl, rfl⟩ : place = d ∧ String.ofList piece = n := by simpa using h
          obtain ⟨hway, hend⟩ := foldlM_step_eq_some_iff.mp ⟨hwalk, hd⟩
          exact ⟨hway, piece, hlast, rfl, hname, hend⟩
        · simp at h
      · rintro ⟨hway, piece, hlast, rfl, hname, hend⟩
        obtain ⟨hwalk, hd⟩ := foldlM_step_eq_some_iff.mpr ⟨hway, hend⟩
        exact ⟨d, hwalk, piece, hlast, by simp [hd, hname]⟩

theorem place_of_target (h : t.target cwd path = some (d, n)) : Path.place cwd path = n :: d := by
  obtain ⟨-, -, -, piece, hlast, rfl, hname, rfl⟩ := target_eq_some_iff.mp h
  rw [Path.place, ← List.dropLast_append_getLast? piece hlast, List.foldl_append,
    List.dropLast_append_getLast? piece hlast]
  exact move_of_isName hname

/-- More directories only make more paths good. -/
theorem target_of_keeps (hk : t.Keeps t')
    (h : t.target cwd path = some (d, n)) : t'.target cwd path = some (d, n) := by
  obtain ⟨hlong, hstart, hway, hend⟩ := target_eq_some_iff.mp h
  exact target_eq_some_iff.mpr ⟨hlong, hstart, fun p hp => hk p (hway p hp), hend⟩

/-- Where a file can be made, the path leads to what is there. -/
theorem resolve_of_target (h : t.target cwd path = some (d, n)) :
    t.resolve cwd path = if (t.get? (n :: d)).isSome then some (n :: d) else none := by
  obtain ⟨hlong, hstart, hway, piece, hlast, rfl, hname, hend⟩ := target_eq_some_iff.mp h
  obtain ⟨hwalk, hd⟩ := foldlM_step_eq_some_iff.mpr ⟨hway, hend⟩
  obtain ⟨start, hstart⟩ := Option.isSome_iff_exists.mp hstart
  obtain rfl := start?_eq_some hstart
  rw [resolve, hlong, if_neg Bool.false_ne_true, follow, hstart,
    ← List.dropLast_append_getLast? piece hlast]
  simp [hwalk, step_eq, hd, move_of_isName hname]

theorem resolve_eq_some (h : t.resolve cwd path = some q) : q = Path.place cwd path := by
  unfold resolve follow at h
  split at h
  · simp at h
  · obtain ⟨start, hstart, hwalk⟩ := Option.bind_eq_some_iff.mp h
    obtain rfl := start?_eq_some hstart
    exact eq_foldl_move_of_foldlM_step hwalk

end Paths

end Trees

end TestImpact.FileTree

namespace TestImpact.Session

/-! ## Sessions

What a session reads along a path, told by the files of its tree. -/

section Sessions
variable {s : Session} {path : String} {bytes : ByteArray}

theorem isFile_eq : s.isFile path = (s.read path).isSome := by
  unfold isFile read
  rcases s.entry? path with _ | _ | bytes <;> rfl

/-- What is read along a path is the file that the path names. -/
theorem file?_of_read (h : s.read path = some bytes) :
    s.tree.file? (place s.cwd path) = some bytes := by
  unfold read at h
  split at h
  · rename_i b hentry
    obtain ⟨q, hq, hget⟩ := Option.bind_eq_some_iff.mp hentry
    obtain rfl := FileTree.resolve_eq_some hq
    obtain rfl := Option.some.inj h
    exact FileTree.file?_eq_some_iff.mpr hget
  · simp at h

/-- Where a file could be made, reading finds what is there. -/
theorem read_of_target {x : Place × String} (h : s.tree.target s.cwd path = some x) :
    s.read path = s.tree.file? (place s.cwd path) := by
  obtain ⟨d, n⟩ := x
  rw [read, entry?, FileTree.resolve_of_target h, FileTree.place_of_target h, FileTree.file?]
  rcases hget : s.tree.get? (n :: d) with _ | _ | bytes <;> simp [hget]

end Sessions

end TestImpact.Session
