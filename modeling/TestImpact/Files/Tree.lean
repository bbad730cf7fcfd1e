import Std.Data.ExtTreeMap
import TestImpact.Text

/-! Trees of directories and regular files, and the paths that lead through them. -/
namespace TestImpact.Path
open Text

/-! ## Paths

Path texts. Parts are separated by slashes; empty parts and single dots name no place of their own,
unless a dot is the first part of a relative path. -/

def pieces (path : String) : List (List Char) := splitOn '/' path.toList

def isAbsolute (path : String) : Bool := path.toList.head? == some '/'

/-- Whether a piece after the first one is a part. -/
def isPart (piece : List Char) : Bool := !piece.isEmpty && piece != ['.']

/-- Pieces without those at the end that are no parts. -/
def trimPieces (ps : List (List Char)) : List (List Char) :=
  (ps.reverse.dropWhile fun p => !isPart p).reverse

/-- A path below another one; an absolute path stays as it is. -/
def join (base path : String) : String :=
  if isAbsolute path || base.isEmpty then path
  else if base.toList.getLast? = some '/' then base ++ path
  else base ++ "/" ++ path

/-- The path without its last part. The spelling of what remains is kept. -/
def parent? (path : String) : Option String :=
  match pieces path with
  | [] => none
  | first :: rest =>
    let rest := trimPieces rest
    if rest.isEmpty then if first.isEmpty then none else some ""
    else
      let kept := trimPieces rest.dropLast
      if first.isEmpty && kept.isEmpty then some "/"
      else some (String.ofList (List.intercalate ['/'] (first :: kept)))

/-- The last part, if it is a name. -/
def fileName? (path : String) : Option String :=
  match pieces path with
  | [] => none
  | first :: rest =>
    let last := ((trimPieces rest).getLast?).getD first
    if isPart last && last != ['.', '.'] then some (String.ofList last) else none

/-- The most bytes that a name may have. -/
def nameLimit : Nat := 255

/-- A path of this many bytes or more is too long to be followed. -/
def lengthLimit : Nat := 4096

/-- Whether something may be called by a name: one part of a path that leads nowhere else. -/
def isName (name : String) : Bool :=
  isPart name.toList && name.toList != ['.', '.'] && !name.toList.contains '/' &&
    !name.toList.contains '\x00' && name.utf8ByteSize ≤ nameLimit

def isTooLong (path : String) : Bool := lengthLimit ≤ path.utf8ByteSize

/-- The directory that has to be there before a file is written; none for a bare name. -/
def directory? (path : String) : Option String := (parent? path).filter fun p => !p.isEmpty

end TestImpact.Path

namespace TestImpact
open Std

/-! ## Trees

Trees of directories and regular files. A place in a tree is the list of names that lead to it,
the innermost one first; the empty list is the root. Whatever is in a tree has a name and is in a
directory of it. -/

inductive Entry where
  | directory
  | file (bytes : ByteArray)

/-- Files are compared by their bytes. -/
instance : DecidableEq Entry
  | .directory, .directory => .isTrue rfl
  | .directory, .file _ => .isFalse nofun
  | .file _, .directory => .isFalse nofun
  | .file ⟨a⟩, .file ⟨b⟩ =>
    if h : a.toList = b.toList then .isTrue (by rw [Array.toList_inj.1 h])
    else .isFalse fun e => h (by cases e; rfl)

abbrev Place := List String

/-- The root is a directory without being stored. -/
def entryAt (entries : ExtTreeMap Place Entry) : Place → Option Entry
  | [] => some .directory
  | place@(_ :: _) => entries[place]?

structure FileTree where
  entries : ExtTreeMap Place Entry
  inDirectory : ∀ name place e, entries[name :: place]? = some e →
    entryAt entries place = some .directory
  isNamed : ∀ name place e, entries[name :: place]? = some e → Path.isName name

namespace FileTree

def get? (t : FileTree) (place : Place) : Option Entry := entryAt t.entries place

def isDirectory (t : FileTree) (place : Place) : Bool := t.get? place == some .directory

def file? (t : FileTree) (place : Place) : Option ByteArray :=
  match t.get? place with
  | some (.file bytes) => some bytes
  | _ => none

def empty : FileTree where
  entries := ∅
  inDirectory := by simp
  isNamed := by simp

theorem entryAt_insert {entries : ExtTreeMap Place Entry} {name : String} {place q : Place}
    {e : Entry} : entryAt (entries.insert (name :: place) e) q =
      if q = name :: place then some e else entryAt entries q := by
  cases q with
  | nil => simp [entryAt]
  | cons a r =>
    simp only [entryAt, ExtTreeMap.getElem?_insert, Std.compare_eq_iff_eq]
    split <;> split <;> simp_all

/-- Put an entry into a directory. A directory is never replaced, and names have a limit. -/
def put (t : FileTree) (place : Place) (name : String) (e : Entry) : FileTree :=
  if h : (t.get? place = some .directory ∧ t.get? (name :: place) ≠ some .directory) ∧
      Path.isName name then
    { entries := t.entries.insert (name :: place) e
      inDirectory := by
        intro n p e' he
        have hp : n :: p = name :: place → entryAt t.entries p = some .directory := by
          rintro ⟨⟩
          exact h.1.1
        rw [ExtTreeMap.getElem?_insert] at he
        rw [entryAt_insert]
        have key : entryAt t.entries p = some .directory := by
          split at he
          · rename_i hc
            exact hp (Std.compare_eq_iff_eq.1 hc).symm
          · exact t.inDirectory n p e' he
        split
        · rename_i hq
          exact absurd (hq ▸ key) h.1.2
        · exact key
      isNamed := by
        intro n p e' he
        rw [ExtTreeMap.getElem?_insert] at he
        split at he
        · rename_i hc
          obtain ⟨rfl, -⟩ := List.cons_eq_cons.1 (Std.compare_eq_iff_eq.1 hc)
          exact h.2
        · exact t.isNamed n p e' he }
  else t

theorem entryAt_filter {entries : ExtTreeMap Place Entry} {f : Place → Entry → Bool} {q : Place}
    (hq : ∀ e, entryAt entries q = some e → f q e = true) :
    entryAt (entries.filter f) q = entryAt entries q := by
  cases q with
  | nil => rfl
  | cons a r =>
    simp only [entryAt, ExtTreeMap.getElem?_filter'] at hq ⊢
    cases h : entries[a :: r]? with
    | none => rfl
    | some e => simp [hq e h]

/-- Take away a place with all that lies below it. -/
def removeAll (t : FileTree) (place : Place) : FileTree where
  entries := t.entries.filter fun q _ => !place.isSuffixOf q
  inDirectory := by
    intro n p e he
    rw [ExtTreeMap.getElem?_filter', Option.filter_eq_some_iff] at he
    rw [entryAt_filter]
    · exact t.inDirectory n p e he.1
    · intro e' _
      have hn : ¬ place <:+ n :: p := fun h => by
        simp [List.isSuffixOf_iff_suffix.2 h] at he
      simpa [← Bool.not_eq_true, List.isSuffixOf_iff_suffix] using
        fun h => hn (List.IsSuffix.trans h (List.suffix_cons n p))
  isNamed := by
    intro n p e he
    rw [ExtTreeMap.getElem?_filter', Option.filter_eq_some_iff] at he
    exact t.isNamed n p e he.1

theorem entryAt_erase {entries : ExtTreeMap Place Entry} {place q : Place} (h : place ≠ []) :
    entryAt (entries.erase place) q = if q = place then none else entryAt entries q := by
  cases q with
  | nil => rw [if_neg fun e => h e.symm]; rfl
  | cons a r =>
    simp only [entryAt]
    rw [ExtTreeMap.getElem?_erase]
    by_cases hq : a :: r = place
    · rw [if_pos hq, if_pos (Std.compare_eq_iff_eq.2 hq.symm)]
    · rw [if_neg hq, if_neg fun e => hq (Std.compare_eq_iff_eq.1 e).symm]

/-- Take away a file. A directory stays. -/
def removeFile (t : FileTree) (place : Place) : FileTree :=
  if h : t.get? place = some .directory then t
  else
    { entries := t.entries.erase place
      inDirectory := by
        intro n p e he
        have hp : place ≠ [] := fun hn => h (hn ▸ rfl)
        rw [ExtTreeMap.getElem?_erase] at he
        split at he
        · simp at he
        · have key := t.inDirectory n p e he
          rw [entryAt_erase hp]
          split
          · rename_i hq
            exact absurd (hq ▸ key) h
          · exact key
      isNamed := by
        intro n p e he
        rw [ExtTreeMap.getElem?_erase] at he
        split at he
        · simp at he
        · exact t.isNamed n p e he }

/-! ### Paths in a tree -/

/-- One piece of a path, from a place that must be a directory. -/
def step (t : FileTree) (place : Place) (piece : List Char) : Option Place :=
  if !t.isDirectory place then none
  else if !Path.isPart piece then some place
  else if piece = ['.', '.'] then some place.tail
  else
    let inner := String.ofList piece :: place
    if (t.get? inner).isSome then some inner else none

/-- Where a path starts. An empty path leads nowhere, nor does one with a null character. -/
def start? (cwd : Place) (path : String) : Option Place :=
  if path.isEmpty || path.toList.contains '\x00' then none
  else if Path.isAbsolute path then some []
  else some cwd

/-- The place that the pieces of a path lead to one by one, if there is something. -/
def follow (t : FileTree) (cwd : Place) (path : String) : Option Place := do
  (Path.pieces path).foldlM t.step (← start? cwd path)

/-- The place that a path leads to as a whole. -/
def resolve (t : FileTree) (cwd : Place) (path : String) : Option Place :=
  if Path.isTooLong path then none else t.follow cwd path

/-- The directory and the name that a new file gets from its path. -/
def target (t : FileTree) (cwd : Place) (path : String) : Option (Place × String) :=
  if Path.isTooLong path then none
  else do
    let pieces := Path.pieces path
    let place ← pieces.dropLast.foldlM t.step (← start? cwd path)
    let piece ← pieces.getLast?
    let name := String.ofList piece
    if t.isDirectory place && Path.isName name then some (place, name)
    else none

/-- Walk along the pieces of a path and make each directory that is missing. The walk ends where
a file is in the way or a directory cannot be made. -/
def makeAlong (t : FileTree) (place : Place) : List (List Char) → Bool × FileTree
  | [] => (t.isDirectory place, t)
  | piece :: rest =>
    if !t.isDirectory place then (false, t)
    else if !Path.isPart piece then t.makeAlong place rest
    else if piece = ['.', '.'] then t.makeAlong place.tail rest
    else
      let name := String.ofList piece
      if (t.get? (name :: place)).isSome then t.makeAlong (name :: place) rest
      else (t.put place name .directory).makeAlong (name :: place) rest

/-- Make a directory and those above it that are missing. -/
def makeDirectories (t : FileTree) (cwd : Place) (path : String) : Bool × FileTree :=
  if Path.isTooLong path then (false, t)
  else match start? cwd path with
    | none => (path.isEmpty, t)
    | some place => t.makeAlong place (Path.pieces path)

/-- Write a file. It may replace a file, not a directory. -/
def write (t : FileTree) (cwd : Place) (path : String) (bytes : ByteArray) : Bool × FileTree :=
  match t.target cwd path with
  | none => (false, t)
  | some (place, name) =>
    if t.isDirectory (name :: place) then (false, t)
    else (true, t.put place name (.file bytes))

/-- Remove a file. -/
def remove (t : FileTree) (cwd : Place) (path : String) : Bool × FileTree :=
  match t.resolve cwd path with
  | none => (false, t)
  | some place => if (t.file? place).isSome then (true, t.removeFile place) else (false, t)

/-! ### Directories stay -/

variable {t t' t'' : FileTree} {cwd place q : Place} {name : String} {path : String}

theorem isDirectory_iff : t.isDirectory q = true ↔ t.get? q = some .directory := by
  simp [isDirectory]

theorem isDirectory_root (t : FileTree) : t.isDirectory [] = true := isDirectory_iff.2 rfl

/-- A directory lies in a directory. -/
theorem isDirectory_tail (h : t.isDirectory q = true) : t.isDirectory q.tail = true := by
  cases q with
  | nil => exact h
  | cons name place => exact isDirectory_iff.2 (t.inDirectory name place _ (isDirectory_iff.1 h))

/-- The directories of one tree are directories of the other. -/
def Keeps (t t' : FileTree) : Prop := ∀ q, t.isDirectory q = true → t'.isDirectory q = true

theorem Keeps.refl (t : FileTree) : t.Keeps t := fun _ h => h

theorem Keeps.trans (h : t.Keeps t') (h' : t'.Keeps t'') : t.Keeps t'' := fun q hq => h' q (h q hq)

theorem keeps_put (e : Entry) : t.Keeps (t.put place name e) := by
  intro q hq
  unfold put
  split
  · rename_i hput
    rw [isDirectory_iff] at hq ⊢
    have hne : q ≠ name :: place := by
      rintro rfl
      exact hput.1.2 hq
    rw [get?, entryAt_insert, if_neg hne]
    exact hq
  · exact hq

theorem keeps_removeFile : t.Keeps (t.removeFile place) := by
  intro q hq
  unfold removeFile
  split
  · exact hq
  · rename_i hfile
    rw [isDirectory_iff] at hq ⊢
    have hplace : place ≠ [] := by
      rintro rfl
      exact hfile rfl
    have hne : q ≠ place := by
      rintro rfl
      exact hfile hq
    rw [get?, entryAt_erase hplace, if_neg hne]
    exact hq

theorem keeps_makeAlong (pieces : List (List Char)) : t.Keeps (t.makeAlong place pieces).2 := by
  fun_induction makeAlong t place pieces with
  | case1 => exact .refl _
  | case2 => exact .refl _
  | case3 _ _ _ _ _ _ ih => exact ih
  | case4 _ _ _ _ _ ih => exact ih
  | case5 _ _ _ _ _ _ _ _ _ ih => exact ih
  | case6 _ _ _ _ _ _ _ _ _ ih => exact (keeps_put _).trans ih

theorem keeps_makeDirectories : t.Keeps (t.makeDirectories cwd path).2 := by
  unfold makeDirectories
  split
  · exact .refl t
  · split
    · exact .refl t
    · exact keeps_makeAlong _

theorem keeps_write (bytes : ByteArray) : t.Keeps (t.write cwd path bytes).2 := by
  unfold write
  split
  · exact .refl t
  · split
    · exact .refl t
    · exact keeps_put _

theorem keeps_remove : t.Keeps (t.remove cwd path).2 := by
  unfold remove
  split
  · exact .refl t
  · split
    · exact keeps_removeFile
    · exact .refl t

/-! ### The files below a place -/

theorem file?_eq_some_iff {bytes : ByteArray} :
    t.file? q = some bytes ↔ t.get? q = some (.file bytes) := by
  unfold file?
  split <;> simp_all

theorem isSome_file?_iff : (t.file? q).isSome ↔ ∃ bytes, t.get? q = some (.file bytes) := by
  simp only [Option.isSome_iff_exists, file?_eq_some_iff]

/-- A file of that name lies in the directory, or at any depth in a directory inside it. -/
inductive HasFile (t : FileTree) : Place → String → Prop
  | here {place : Place} {name : String} (h : (t.file? (name :: place)).isSome) :
      HasFile t place name
  | inside {place : Place} {name : String} (inner : String)
      (hd : t.isDirectory (inner :: place) = true) (h : HasFile t (inner :: place) name) :
      HasFile t place name

/-- What is there lies in a directory. -/
theorem isDirectory_of_isSome_file? (h : (t.file? (name :: place)).isSome) :
    t.isDirectory place = true := by
  obtain ⟨bytes, hentry⟩ := isSome_file?_iff.1 h
  exact isDirectory_iff.2 (t.inDirectory name place _ hentry)

theorem HasFile.isDirectory (h : t.HasFile place name) : t.isDirectory place = true := by
  cases h with
  | here h => exact isDirectory_of_isSome_file? h
  | inside inner hd _ => exact isDirectory_tail hd

/-- A file below a place is below the places above it. -/
theorem HasFile.of_append {inner : Place} (h : t.HasFile (inner ++ place) name) :
    t.HasFile place name := by
  induction inner with
  | nil => exact h
  | cons d rest ih => exact ih (.inside d h.isDirectory h)

theorem hasFile_iff :
    t.HasFile place name ↔ ∃ inner : Place, (t.file? (name :: (inner ++ place))).isSome := by
  constructor
  · intro h
    induction h with
    | here h => exact ⟨[], h⟩
    | inside inner _ _ ih =>
      obtain ⟨deeper, hfile⟩ := ih
      exact ⟨deeper ++ [inner], by rwa [List.append_assoc, List.singleton_append]⟩
  · rintro ⟨inner, h⟩
    exact .of_append (.here h)

/-- The names of the regular files below a place, at any depth. -/
def fileNames (t : FileTree) (place : Place) : List String :=
  t.entries.toList.filterMap fun
    | (name :: inner, .file _) => if place.isSuffixOf inner then some name else none
    | _ => none

theorem mem_fileNames : name ∈ t.fileNames place ↔ t.HasFile place name := by
  rw [hasFile_iff]
  constructor
  · intro h
    obtain ⟨⟨q, e⟩, hmem, hname⟩ := List.mem_filterMap.1 h
    have hentry : t.entries[q]? = some e := ExtTreeMap.mem_toList_iff_getElem?_eq_some.1 hmem
    split at hname
    · rename_i n inner bytes heq
      cases heq
      obtain ⟨hsuffix, hn⟩ := Option.ite_none_right_eq_some.1 hname
      cases hn
      obtain ⟨deeper, rfl⟩ := List.isSuffixOf_iff_suffix.1 hsuffix
      exact ⟨deeper, isSome_file?_iff.2 ⟨bytes, hentry⟩⟩
    · cases hname
  · rintro ⟨deeper, h⟩
    obtain ⟨bytes, hentry⟩ := isSome_file?_iff.1 h
    refine List.mem_filterMap.2 ⟨(name :: (deeper ++ place), .file bytes),
      ExtTreeMap.mem_toList_iff_getElem?_eq_some.2 hentry, ?_⟩
    simp

end FileTree

end TestImpact
