import TestImpact.Toml.Value

/-! TOML documents: statements that give a key a value or open a table, and the table that they
build. -/
namespace TestImpact.Toml
open Text

/-- Values nest, and keys have parts, up to one less than this. -/
def depthLimit : Nat := 80

def isBareChar (c : Char) : Bool := c.isAlphanum || c = '-' || c = '_'

def bareKey : Reader (List Char) := fun s =>
  let key := s.takeWhile isBareChar
  if key.isEmpty then none else some (key, s.drop key.length)

/-- One part of a key, with the blanks around it. -/
def keyPart : Reader String := fun s => do
  let (key, r) ← Reader.or shortText bareKey (skipSpaces s)
  some (String.ofList key, skipSpaces r)

/-- A key: the path in front of its last part, and that part. -/
def key : Reader (List String × String) := fun s => do
  let (first, r) ← keyPart s
  let (more, r) := Reader.many (fun s => do
    let (_, r) ← Reader.char (· = '.') s
    keyPart r) r
  let parts := first :: more
  if parts.length < depthLimit then some ((parts.dropLast, parts.getLast?.getD first), r) else none

/-- A key and its value. -/
structure Assignment where
  path : List String
  key : String
  value : Item

def Entries.assign (entries : Entries) (a : Assignment) : Option Entries :=
  entries.addDotted a.path a.key a.value

def assignment (value : Reader Item) : Reader Assignment := fun s => do
  let ((path, name), r) ← key s
  let (_, r) ← Reader.char (· = '=') r
  let (v, r) ← value (skipSpaces r)
  some (⟨path, name, v⟩, r)

/-- One or more readings with commas between them. -/
def separated (p : Reader α) : Reader (List α) := fun s => do
  let (first, r) ← p s
  let (more, r) := Reader.many (fun s => do
    let (_, r) ← Reader.char (· = ',') s
    p r) r
  some (first :: more, r)

/-- The items of an array, after its opening bracket. A comma may follow the last one. -/
def arrayRest (value : Reader Item) : Reader Item := fun s =>
  match skipGap s with
  | ']' :: r => some (.array [], r)
  | r => do
    let (items, r) ← separated (fun s => do
      let (v, r) ← value (skipGap s)
      some (v, skipGap r)) r
    let (_, r) := Reader.optional (Reader.char (· = ',')) r
    let (_, r) ← Reader.char (· = ']') (skipGap r)
    some (.array items, r)

/-- The entries of a table written as a value, after its opening brace. -/
def inlineRest (value : Reader Item) : Reader Item := fun s =>
  match skipSpaces s with
  | '\x7d' :: r => some (.inline [], r)
  | r => do
    let (assignments, r) ← separated (fun s => do
      let (a, r) ← assignment value s
      some (a, skipSpaces r)) r
    let (_, r) ← Reader.char (· = '\x7d') r
    some (.inline (← assignments.foldlM Entries.assign []), r)

/-- A value that nests at most `depth` brackets deep. -/
def value : Nat → Reader Item
  | _, s@('"' :: _) => (quotedText s).map fun (t, r) => (.text (String.ofList t), r)
  | _, s@('\'' :: _) => (quotedText s).map fun (t, r) => (.text (String.ofList t), r)
  | 0, '[' :: _ => none
  | 0, '\x7b' :: _ => none
  | depth + 1, '[' :: r => arrayRest (value depth) r
  | depth + 1, '\x7b' :: r => inlineRest (value depth) r
  | _, s@('t' :: _) => (Reader.word ['t', 'r', 'u', 'e'] s).map fun (_, r) => (.boolean true, r)
  | _, s@('f' :: _) =>
    (Reader.word ['f', 'a', 'l', 's', 'e'] s).map fun (_, r) => (.boolean false, r)
  | _, s => Reader.or moment number s

inductive Statement where
  | assign (a : Assignment)
  /-- The header of a table. -/
  | table (path : List String) (key : String)
  /-- The header of one more table under a name. -/
  | element (path : List String) (key : String)

def statement : Reader Statement
  | '[' :: '[' :: r => do
    let ((path, name), r) ← key r
    let (_, r) ← Reader.word [']', ']'] r
    some (.element path name, r)
  | '[' :: r => do
    let ((path, name), r) ← key r
    let (_, r) ← Reader.word [']'] r
    some (.table path name, r)
  | s => (assignment (value (depthLimit - 1)) s).map fun (a, r) => (.assign a, r)

/-- A line: a statement, or none if it is blank. -/
def line : Reader (Option Statement) := fun s =>
  match skipSpaces s with
  | [] => none
  | r@('\n' :: _) | r@('\r' :: _) | r@('#' :: _) => (lineEnd r).map fun (_, r) => (none, r)
  | r => do
    let (st, r) ← statement r
    let (_, r) ← lineEnd r
    some (some st, r)

/-- A byte order mark at the front does not count. -/
def statements (s : List Char) : Option (List Statement) :=
  let s := match s with
    | '\ufeff' :: r => r
    | s => s
  let (lines, r) := Reader.many line s
  if (skipSpaces r).isEmpty then some (lines.filterMap id) else none

/-- A header and the assignments under it. -/
structure Section where
  isElement : Bool
  path : List String
  key : String
  assignments : List Assignment

/-- The assignments in front of the first header, and the sections. -/
def sections (sts : List Statement) : List Assignment × List Section :=
  sts.foldr (fun st (open_, closed) =>
    match st with
    | .assign a => (a :: open_, closed)
    | .table path key => ([], ⟨false, path, key, open_⟩ :: closed)
    | .element path key => ([], ⟨true, path, key, open_⟩ :: closed)) ([], [])

/-- Add a section. A table can be opened once; one that was only implied keeps its entries and
moves to the end. -/
def Entries.addSection (root : Entries) (sec : Section) : Option Entries :=
  if sec.isElement then do
    let sub ← sec.assignments.foldlM assign []
    root.change sec.path fun parent =>
      match parent.lookup sec.key with
      | none => some (parent ++ [(sec.key, .tables [sub])])
      | some (.tables elements) => some (parent.replace sec.key (.tables (elements ++ [sub])))
      | some _ => none
  else do
    let start ← match root.find sec.path sec.key with
      | none => some []
      | some (.table true false sub) => some sub
      | some _ => none
    let sub ← sec.assignments.foldlM assign start
    root.change sec.path fun parent =>
      (parent.erase sec.key).add sec.key (.table false false sub)

/-- The entries of a document, in order. -/
def parse (text : String) : Option Entries := do
  let (first, rest) := sections (← statements text.toList)
  let root ← first.foldlM Entries.assign []
  rest.foldlM Entries.addSection root

end TestImpact.Toml
