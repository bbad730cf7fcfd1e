import TestImpact.Proofs.Files.Tree

/-!
Making directories, writing a file and removing one, each told by what becomes of the directories
and of the files. What can be done in a tree can be done in one that holds less.
-/
open TestImpact.Path

namespace TestImpact.FileTree

variable {t t' t'' : FileTree} {cwd place q : Place} {path : String}

/-- All directories stay, and new ones lie at the given places. -/
structure Grows (places : Set Place) (t t' : FileTree) : Prop where
  keeps : t.Keeps t'
  isNew : ∀ q, t'.isDirectory q = true → t.isDirectory q = true ∨ q ∈ places

namespace Grows
variable {places places' : Set Place}

theorem of_eq (h : t'.isDirectory = t.isDirectory) : Grows places t t' where
  keeps _ hq := h ▸ hq
  isNew _ hq := .inl (h ▸ hq)

theorem trans (h : Grows places t t') (h' : Grows places t' t'') : Grows places t t'' where
  keeps := h.keeps.trans h'.keeps
  isNew q hq := (h'.isNew q hq).elim (h.isNew q) .inr

theorem mono (hs : places ⊆ places') (h : Grows places t t') : Grows places' t t' where
  keeps := h.keeps
  isNew q hq := (h.isNew q hq).imp_right fun hp => hs hp

end Grows

/-! ### Making directories -/

/-- The tree with one more directory, if nothing is at its place. -/
def withStep (t : FileTree) (place : Place) (piece : List Char) : FileTree :=
  if (t.get? (move place piece)).isSome then t else t.put place (String.ofList piece) .directory

section Steps
variable {piece : List Char} {pieces : List (List Char)}

theorem makeAlong_cons (h : t.isDirectory place = true) :
    t.makeAlong place (piece :: pieces) =
      (t.withStep place piece).makeAlong (move place piece) pieces := by
  have htail : (t.get? place.tail).isSome := isSome_get?_iff.mpr (.inl (isDirectory_tail h))
  have hself : (t.get? place).isSome := isSome_get?_iff.mpr (.inl h)
  rw [makeAlong, withStep]
  by_cases hup : piece = ['.', '.']
  · simp [h, hup, isPart, move, htail]
  · by_cases hp : isPart piece = true
    · by_cases hnew : (t.get? (String.ofList piece :: place)).isSome <;>
        simp [h, hp, hup, move, hnew]
    · simp [h, hp, move, hself]

theorem makeAlong_of_no_directory (h : t.isDirectory place = false) :
    t.makeAlong place pieces = (false, t) := by
  cases pieces <;> simp [makeAlong, h]

theorem isDirectory_of_makeAlong (h : (t.makeAlong place pieces).1 = true) :
    t.isDirectory place = true := by
  by_contra hd
  simp [makeAlong_of_no_directory (Bool.eq_false_iff.mpr hd)] at h

/-- A missing step starts below the place, by its piece. -/
theorem move_of_get?_eq_none (h : t.isDirectory place = true)
    (hnew : t.get? (move place piece) = none) :
    move place piece = String.ofList piece :: place := by
  have htail : (t.get? place.tail).isSome := isSome_get?_iff.mpr (.inl (isDirectory_tail h))
  have hself : (t.get? place).isSome := isSome_get?_iff.mpr (.inl h)
  unfold move at hnew ⊢
  by_cases hp : isPart piece = true <;> by_cases hup : piece = ['.', '.'] <;> simp_all

/-- One more directory leaves the files as they are. -/
theorem file?_withStep (h : t.isDirectory place = true) :
    (t.withStep place piece).file? = t.file? := by
  unfold withStep
  split
  · rfl
  · rename_i hnew
    have hnew := Option.not_isSome_iff_eq_none.mp hnew
    have hmove := move_of_get?_eq_none h hnew
    cases hname : isName (String.ofList piece) with
    | false => rw [put_of_not_isName hname]
    | true => exact file?_put_directory h (hmove ▸ hnew) hname

theorem grows_withStep (h : t.isDirectory place = true) :
    Grows {move place piece} t (t.withStep place piece) := by
  unfold withStep
  split
  · exact .of_eq rfl
  · rename_i hnew
    have hnew := Option.not_isSome_iff_eq_none.mp hnew
    have hmove := move_of_get?_eq_none h hnew
    cases hname : isName (String.ofList piece) with
    | false =>
      rw [put_of_not_isName hname]
      exact .of_eq rfl
    | true =>
      have hput := fun q => isDirectory_put_directory (q := q) h (hmove ▸ hnew) hname
      constructor
      · exact fun q hq => (hput q).mpr (.inl hq)
      · exact fun q hq => ((hput q).mp hq).imp_right fun e => e.trans hmove.symm

/-- Making directories leaves the files as they are. -/
theorem file?_makeAlong : (t.makeAlong place pieces).2.file? = t.file? := by
  induction pieces generalizing t place with
  | nil => rfl
  | cons piece rest ih =>
    cases h : t.isDirectory place with
    | false => rw [makeAlong_of_no_directory h]
    | true => rw [makeAlong_cons h, ih, file?_withStep h]

theorem grows_makeAlong : Grows {q | q ∈ way place pieces} t (t.makeAlong place pieces).2 := by
  induction pieces generalizing t place with
  | nil => exact .of_eq rfl
  | cons piece rest ih =>
    cases h : t.isDirectory place with
    | false =>
      rw [makeAlong_of_no_directory h]
      exact .of_eq rfl
    | true =>
      rw [makeAlong_cons h]
      refine ((grows_withStep h).mono ?_).trans (ih.mono ?_)
      · rintro _ rfl
        exact mem_way_cons.mpr (.inr start_mem_way)
      · exact fun q hq => mem_way_cons.mpr (.inr hq)

end Steps

theorem makeDirectories_eq (hne : path ≠ "") : t.makeDirectories cwd path =
    if isTooLong path = false ∧ (start? cwd path).isSome then
      t.makeAlong (origin cwd path) (pieces path)
    else (false, t) := by
  unfold makeDirectories
  cases hlong : isTooLong path with
  | true => simp
  | false =>
    cases hstart : start? cwd path with
    | none => simpa using hne
    | some place =>
      obtain rfl := start?_eq_some hstart
      simp

/-- The tree with the directory of a path and those above it. A bare name needs none. -/
def prepare (t : FileTree) (cwd : Place) (path : String) : Bool × FileTree :=
  match directory? path with
  | none => (true, t)
  | some d => t.makeDirectories cwd d

theorem prepare_of_no_directory (h : directory? path = none) : t.prepare cwd path = (true, t) := by
  rw [prepare, h]

theorem prepare_of_directory {d : String} (h : directory? path = some d) :
    t.prepare cwd path = t.makeDirectories cwd d := by
  rw [prepare, h]

theorem file?_prepare : (t.prepare cwd path).2.file? = t.file? := by
  unfold prepare
  split
  · rfl
  · rename_i d hd
    rw [makeDirectories_eq (ne_empty_of_directory hd)]
    split
    · exact file?_makeAlong
    · rfl

theorem grows_prepare : Grows {q | q ∈ ancestors cwd path} t (t.prepare cwd path).2 := by
  unfold prepare
  split
  · exact .of_eq rfl
  · rename_i d hd
    rw [makeDirectories_eq (ne_empty_of_directory hd)]
    split
    · exact grows_makeAlong.mono fun q hq => mem_ancestors_of_directory hd hq
    · exact .of_eq rfl

/-! ### Writing and removing -/

section Files
variable {bytes : ByteArray} {d : Place} {n : String}

theorem write_of_target (h : t.target cwd path = some (d, n)) : t.write cwd path bytes =
    if t.isDirectory (n :: d) = true then (false, t) else (true, t.put d n (.file bytes)) := by
  rw [write, h]

theorem write_eq_true_iff (bytes : ByteArray) : (t.write cwd path bytes).1 = true ↔
    ∃ d n, t.target cwd path = some (d, n) ∧ t.isDirectory (n :: d) = false := by
  cases htarget : t.target cwd path with
  | none => simp [write, htarget]
  | some x =>
    obtain ⟨d, n⟩ := x
    rw [write_of_target htarget]
    cases h : t.isDirectory (n :: d) <;> simp [h]

/-- A write that succeeds changes the file that the path names, and nothing else. -/
theorem write_of_done (h : (t.write cwd path bytes).1 = true) :
    (t.write cwd path bytes).2.file? = Function.update t.file? (Path.place cwd path) (some bytes) ∧
      (t.write cwd path bytes).2.isDirectory = t.isDirectory := by
  obtain ⟨d, n, htarget, hnew⟩ := (write_eq_true_iff bytes).mp h
  obtain ⟨-, -, hway, piece, -, rfl, hname, hend⟩ := target_eq_some_iff.mp htarget
  have hd : t.isDirectory d = true := (foldlM_step_eq_some_iff.mpr ⟨hway, hend⟩).2
  rw [write_of_target htarget, hnew, if_neg Bool.false_ne_true, place_of_target htarget]
  exact ⟨file?_put_file hd hnew hname, isDirectory_put_file hd hnew hname⟩

/-- A write that fails changes nothing. -/
theorem write_of_not_done (h : (t.write cwd path bytes).1 = false) :
    (t.write cwd path bytes).2 = t := by
  unfold write at h ⊢
  split
  · rfl
  · split
    · rfl
    · simp_all

/-- Removing, where a file could be made, leaves no file there and changes nothing else. -/
theorem remove_of_target (h : t.target cwd path = some (d, n)) :
    (t.remove cwd path).2.file? = Function.update t.file? (Path.place cwd path) none ∧
      (t.remove cwd path).2.isDirectory = t.isDirectory := by
  rw [place_of_target h, remove, resolve_of_target h]
  cases hfile : t.file? (n :: d) with
  | none =>
    rw [← hfile, Function.update_eq_self]
    split
    · exact ⟨rfl, rfl⟩
    · rename_i place hplace
      obtain ⟨-, hplace⟩ := Option.ite_none_right_eq_some.mp hplace
      obtain rfl := Option.some.inj hplace
      simp [hfile]
  | some bytes =>
    have hget : (t.get? (n :: d)).isSome := isSome_get?_iff.mpr (.inr (by rw [hfile]; rfl))
    have hdir : t.isDirectory (n :: d) = false := by
      by_contra hd
      rw [file?_eq_none_of_isDirectory (Bool.not_eq_false _ ▸ hd)] at hfile
      simp at hfile
    simp only [hget, if_true, hfile, Option.isSome_some]
    exact ⟨file?_removeFile hdir, isDirectory_removeFile hdir⟩

end Files

/-! ### Less in the way -/

/-- What one tree holds, the other one holds too, as a directory or as a file. -/
structure Below (t t' : FileTree) : Prop where
  directories : t.Keeps t'
  files : ∀ q, (t.file? q).isSome → (t'.file? q).isSome

namespace Below
variable {piece : List Char} {pieces : List (List Char)} {d : String}

theorem get?_isSome (h : Below t t') (hq : (t.get? q).isSome) : (t'.get? q).isSome := by
  rw [isSome_get?_iff] at hq ⊢
  exact hq.imp (h.directories q) (h.files q)

theorem isDirectory (h : Below t t') (hq : (t.get? q).isSome) (hd : t'.isDirectory q = true) :
    t.isDirectory q = true := by
  rcases isSome_get?_iff.mp hq with hq | hq
  · exact hq
  · have hfile := h.files q hq
    simp [file?_eq_none_of_isDirectory hd] at hfile

/-- A step that can be made in a tree can be made in one below it. -/
theorem withStep (h : Below t t') (hd : t.isDirectory place = true)
    (hstep : (t'.withStep place piece).isDirectory (move place piece) = true) :
    (t.withStep place piece).isDirectory (move place piece) = true := by
  unfold FileTree.withStep
  split
  · rename_i hthere
    rw [FileTree.withStep, if_pos (h.get?_isSome hthere)] at hstep
    exact h.isDirectory hthere hstep
  · rename_i hnew
    have hnew := Option.not_isSome_iff_eq_none.mp hnew
    have hmove := move_of_get?_eq_none hd hnew
    rw [hmove] at hnew hstep ⊢
    exact (isDirectory_put_directory hd hnew (isName_of_isDirectory hstep)).mpr (.inr rfl)

theorem makeAlong (h : Below t t') (hd : t.isDirectory place = true)
    (hmade : (t'.makeAlong place pieces).1 = true) : (t.makeAlong place pieces).1 = true := by
  induction pieces generalizing t t' place with
  | nil => exact hd
  | cons piece rest ih =>
    have hd' := h.directories _ hd
    rw [makeAlong_cons hd'] at hmade
    rw [makeAlong_cons hd]
    have hstep' := isDirectory_of_makeAlong hmade
    refine ih ?_ (h.withStep hd hstep') hmade
    constructor
    · intro q hq
      rcases (grows_withStep hd).isNew q hq with hq | rfl
      · exact (grows_withStep hd').keeps q (h.directories q hq)
      · exact hstep'
    · rw [file?_withStep hd, file?_withStep hd']
      exact h.files

theorem written {bytes bytes' : ByteArray} (h : Below t t')
    (hdone : (t.write cwd path bytes).1 = true) (hdone' : (t'.write cwd path bytes').1 = true) :
    Below (t.write cwd path bytes).2 (t'.write cwd path bytes').2 := by
  obtain ⟨hfiles, hdirs⟩ := write_of_done hdone
  obtain ⟨hfiles', hdirs'⟩ := write_of_done hdone'
  constructor
  · unfold Keeps
    rw [hdirs, hdirs']
    exact h.directories
  · intro q
    rw [hfiles, hfiles', Function.update_apply, Function.update_apply]
    by_cases hq : q = Path.place cwd path
    · simp [hq]
    · simpa [hq] using h.files q

end Below

end TestImpact.FileTree
