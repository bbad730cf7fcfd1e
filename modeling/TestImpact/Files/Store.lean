import TestImpact.Event
import TestImpact.Files.Tree

/-!
What a run asks of the world around it, and a world that is a value: a file tree, a place in it and
the events so far.
-/
namespace TestImpact

class FileStore (m : Type → Type) where
  isFile (path : String) : m Bool
  isDirectory (path : String) : m Bool
  /-- The bytes of a file, if it can be read. -/
  read (path : String) : m (Option ByteArray)
  /-- Make a directory and those above it. The flag tells whether it is there now. -/
  makeDirectories (path : String) : m Bool
  /-- Write a file. The flag tells whether that worked. -/
  write (path : String) (bytes : ByteArray) : m Bool
  /-- Remove a file. If that fails, the answer is the reason. -/
  remove (path : String) : m (Option String)
  /-- The names of the regular files below a directory, at any depth. -/
  fileNames (path : String) : m (List String)
  /-- The name of the directory that holds what a path leads to. -/
  holder? (path : String) : m (Option String)
  tell (e : Event) : m Unit
  /-- The present moment. -/
  clock : m String

/-- What visits the files below a directory. It misses none and goes nowhere else, in whatever order
and however often it meets a name. -/
structure Walker where
  names (tree : FileTree) (place : Place) : List String
  mem_names : ∀ {tree : FileTree} {place : Place}, tree.isDirectory place = true →
    ∀ name, name ∈ names tree place ↔ tree.HasFile place name

/-- The walker that goes through the tree in the order of its places. -/
def Walker.inOrder : Walker where
  names := FileTree.fileNames
  mem_names _ _ := FileTree.mem_fileNames

structure Session where
  tree : FileTree
  /-- The place at which relative paths start. -/
  cwd : Place
  now : String
  log : List Event
  walker : Walker
  isDirectory_cwd : tree.isDirectory cwd = true

/-- Steps of a session. The tree and the log outlive an error. -/
abbrev Act (α : Type) := ExceptT Error (StateM Session) α

namespace Act

/-- What an action answers in a session, and what becomes of the session. -/
def on (a : Act α) (s : Session) : Except Error α × Session := a.run.run s

theorem on_pure (v : α) (s : Session) : on (pure v) s = (.ok v, s) := rfl

theorem on_throw (e : Error) (s : Session) : on (throw e : Act α) s = (.error e, s) := rfl

theorem on_bind (a : Act α) (f : α → Act β) (s : Session) :
    on (a >>= f) s = match on a s with
      | (.ok v, s') => on (f v) s'
      | (.error e, s') => (.error e, s') := by
  simp only [on, ExceptT.run_bind, StateT.run_bind]
  change (do let (v, s') ← a.run.run s; _ : Id _) = _
  rcases a.run.run s with ⟨_ | _, _⟩ <;> rfl

end Act

namespace Session

/-- Why a path cannot be removed that leads to no file. -/
def noSuchFile : String := "No such file or directory (os error 2)"

def ask (f : Session → α) : Act α := do return f (← get)

/-- A session that starts at the root of a tree. -/
def ofTree (tree : FileTree) : Session :=
  ⟨tree, [], "", [], .inOrder, tree.isDirectory_root⟩

/-- The session with another tree, which has kept the directories. -/
def withTree (s : Session) (tree : FileTree) (h : s.tree.Keeps tree) : Session :=
  { s with tree, isDirectory_cwd := h s.cwd s.isDirectory_cwd }

section WithTree
variable {s : Session} {tree : FileTree} (h : s.tree.Keeps tree)

@[simp] theorem tree_withTree : (s.withTree tree h).tree = tree := rfl

@[simp] theorem cwd_withTree : (s.withTree tree h).cwd = s.cwd := rfl

end WithTree

/-- Change the tree. No directory goes. -/
def change (f : Session → Bool × FileTree) (h : ∀ s : Session, s.tree.Keeps (f s).2) :
    Act Bool := do
  let s ← get
  set (s.withTree (f s).2 (h s))
  return (f s).1

def entry? (s : Session) (path : String) : Option Entry :=
  (s.tree.resolve s.cwd path).bind s.tree.get?

def isFile (s : Session) (path : String) : Bool :=
  match s.entry? path with
  | some (.file _) => true
  | _ => false

def isDirectory (s : Session) (path : String) : Bool :=
  match s.entry? path with
  | some .directory => true
  | _ => false

def read (s : Session) (path : String) : Option ByteArray :=
  match s.entry? path with
  | some (.file bytes) => some bytes
  | _ => none

def fileNames (s : Session) (path : String) : List String :=
  match s.tree.resolve s.cwd path with
  | some place => s.walker.names s.tree place
  | none => []

def holder? (s : Session) (path : String) : Option String :=
  (s.tree.follow s.cwd path).bind fun place => place.tail.head?

instance : FileStore Act where
  isFile path := ask (·.isFile path)
  isDirectory path := ask (·.isDirectory path)
  read path := ask (·.read path)
  makeDirectories path :=
    change (fun s => s.tree.makeDirectories s.cwd path) fun _ => FileTree.keeps_makeDirectories
  write path bytes :=
    change (fun s => s.tree.write s.cwd path bytes) fun _ => FileTree.keeps_write bytes
  remove path := do
    let done ← change (fun s => s.tree.remove s.cwd path) fun _ => FileTree.keeps_remove
    return if done then none else some noSuchFile
  fileNames path := ask (·.fileNames path)
  holder? path := ask (·.holder? path)
  tell e := modify fun s => { s with log := s.log ++ [e] }
  clock := ask (·.now)

/-! ### Each operation on a session -/

theorem on_isFile (path : String) (s : Session) :
    Act.on (FileStore.isFile path) s = (.ok (s.isFile path), s) := rfl

theorem on_isDirectory (path : String) (s : Session) :
    Act.on (FileStore.isDirectory path) s = (.ok (s.isDirectory path), s) := rfl

theorem on_read (path : String) (s : Session) :
    Act.on (FileStore.read path) s = (.ok (s.read path), s) := rfl

theorem on_makeDirectories (path : String) (s : Session) :
    Act.on (FileStore.makeDirectories path) s =
      (.ok (s.tree.makeDirectories s.cwd path).1,
        s.withTree (s.tree.makeDirectories s.cwd path).2 FileTree.keeps_makeDirectories) := rfl

theorem on_write (path : String) (bytes : ByteArray) (s : Session) :
    Act.on (FileStore.write path bytes) s =
      (.ok (s.tree.write s.cwd path bytes).1,
        s.withTree (s.tree.write s.cwd path bytes).2 (FileTree.keeps_write bytes)) := rfl

theorem on_remove (path : String) (s : Session) :
    Act.on (FileStore.remove path) s =
      (.ok (if (s.tree.remove s.cwd path).1 then none else some noSuchFile),
        s.withTree (s.tree.remove s.cwd path).2 FileTree.keeps_remove) := rfl

theorem on_fileNames (path : String) (s : Session) :
    Act.on (FileStore.fileNames path) s = (.ok (s.fileNames path), s) := rfl

theorem on_holder? (path : String) (s : Session) :
    Act.on (FileStore.holder? path) s = (.ok (s.holder? path), s) := rfl

theorem on_tell (e : Event) (s : Session) :
    Act.on (FileStore.tell e) s = (.ok (), { s with log := s.log ++ [e] }) := rfl

theorem on_clock (s : Session) : Act.on FileStore.clock s = (.ok s.now, s) := rfl

end Session
end TestImpact
