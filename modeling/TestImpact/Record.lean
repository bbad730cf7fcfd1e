import TestImpact.Error
import TestImpact.Node
import TestImpact.Text

/-! Records of calls: their frames, the texts that hold them, and the calls that they tell of. -/
namespace TestImpact

/-! ## Frames

Frames: the method references inside a call-graph record, written
`< loader, class, selector >`. -/

/-- Which class loader a method comes from. -/
inductive Loader where
  | application | primordial | «extension»
  deriving DecidableEq, Repr

namespace Loader

def name : Loader → String
  | .application => "Application"
  | .primordial => "Primordial"
  | .extension => "Extension"

/-- Only the application loader loads code of the program itself. -/
def isPlatform (l : Loader) : Bool := l != .application

def ofName? (name : String) : Option Loader :=
  [application, primordial, .extension].find? (·.name == name)

def parse (text : String) : Except Error Loader :=
  match ofName? (trimmed text) with
  | some l => .ok l
  | none => .error (.malformedAt .unknownLoader (trimmed text))

theorem ofName?_name (l : Loader) : ofName? l.name = some l := by cases l <;> rfl

end Loader

structure Frame where
  loader : Loader
  method : MethodRef
  deriving DecidableEq, Repr

namespace Frame

/-- The mark before the fields of a reference. -/
def opening : List Char := ['<', ' ']

/-- The mark after the fields of a reference. -/
def closing : List Char := [' ', '>']

/-- The mark between two fields of a reference. -/
def comma : List Char := [',', ' ']

/-- Three fields; the third may hold further commas. -/
def fields? (inside : List Char) : Option (List Char × List Char × List Char) :=
  match Text.cut? comma inside with
  | none => none
  | some (loader, rest) => (Text.cut? comma rest).map fun (className, selector) =>
      (loader, className, selector)

/-- The first reference in a token. -/
def parse (token : String) : Except Error Frame :=
  match Text.cut? opening token.toList with
  | none => .error (.malformedAt .noReference token)
  | some (_, body) =>
    match Text.cut? closing body with
    | none => .error (.malformedAt .unterminated token)
    | some (inside, _) =>
      match fields? inside with
      | none => .error (.malformedAt .missingFields token)
      | some (loader, className, selector) =>
        if className.isEmpty || selector.isEmpty then .error (.malformedAt .emptyField token)
        else match Loader.parse (String.ofList loader) with
          | .error e => .error e
          | .ok l => .ok ⟨l, String.ofList className, String.ofList selector⟩

/-- A frame as it is written. -/
def text (f : Frame) : String :=
  "< " ++ f.loader.name ++ ", " ++ f.method.className ++ ", " ++ f.method.selector ++ " >"

end Frame

end TestImpact

namespace TestImpact.Record

/-! ## Texts of records

Call-graph records: the frame of a method, then a frame for each method it invokes. In a file a
record starts on a line of its own, and the lines that start with a blank continue it. -/

/-- The mark between the frames of a record. -/
def separator : Char := '-'

/-- The frames of a record; the first bad one is the error. -/
def frames (record : String) : Except Error (List Frame) :=
  ((Text.splitOn separator record.toList).filter fun t => !Text.allBlank t).mapM fun t =>
    Frame.parse (String.ofList t)

/-- Lines in groups: each line that does not start with a blank opens one. Lines before the
first such line are a group of their own. -/
def groups (lines : List (List Char)) : List (List (List Char)) :=
  let (leading, rest) := lines.foldr (fun line (open_, closed) =>
    if Text.startsBlank line then (line :: open_, closed)
    else ([], (line :: open_) :: closed)) ([], [])
  if leading.isEmpty then rest else leading :: rest

/-- The records of a text; blank lines do not count. -/
def split (text : String) : List String :=
  (groups ((Text.lines text.toList).filter fun l => !Text.allBlank l)).map fun lines =>
    String.ofList (List.intercalate ['\n'] lines)

/-! ## Records as they are written

The written form of a call-graph record: a line for the method, then one for each call. -/

/-- A call, with the place of its instruction in decimal digits. -/
structure Call where
  frame : Frame
  place : String
  deriving DecidableEq, Repr

def Call.text (c : Call) : String := " -" ++ " invokevirtual " ++ c.frame.text ++ "@" ++ c.place

/-- What a record says: a method, and the calls in it. -/
structure Contents where
  method : Frame
  calls : List Call
  deriving DecidableEq, Repr

namespace Contents

def frames (r : Contents) : List Frame := r.method :: r.calls.map (·.frame)

def lines (r : Contents) : List String :=
  ("Node: " ++ r.method.text ++ " Context: Everywhere") :: r.calls.map Call.text

def text (r : Contents) : String := String.intercalate "\n" r.lines

end Contents

end TestImpact.Record

namespace TestImpact
open Std

/-! ## Calls

Calls between methods of the program, as its records tell them. -/

structure CallEdge where
  callee : MethodRef
  caller : MethodRef
  deriving DecidableEq, Repr

namespace CallEdge

instance : Ord CallEdge := ⟨byKeys callee caller⟩

instance : TransOrd CallEdge := inferInstanceAs (TransCmp (byKeys callee caller))

instance : LawfulEqOrd CallEdge :=
  lawfulEqCmp_byKeys fun a b hc hr => by cases a; cases b; simp_all

end CallEdge

/-- The methods of the program itself among the frames of a record. -/
def Record.methods (frames : List Frame) : List MethodRef :=
  (frames.filter fun f => !f.loader.isPlatform).map (·.method)

/-- The first method of a record calls all later ones. -/
def Record.calls (frames : List Frame) : List CallEdge :=
  match methods frames with
  | [] => []
  | caller :: callees => callees.map fun callee => ⟨callee, caller⟩

/-- How many records were read, and what became of them. -/
structure Counts where
  records : Nat
  malformed : Nat
  isolated : Nat
  edges : Nat
  deriving DecidableEq, Repr

/-- What a list of records says about calls. -/
structure Normalized where
  edges : ExtTreeSet CallEdge
  records : Nat
  rejected : List Error
  isolated : Nat

namespace Normalized

def counts (n : Normalized) : Counts :=
  ⟨n.records, n.rejected.length, n.isolated, n.edges.size⟩

/-- The frames of a record that can be read. -/
def readable (record : String) : Option (List Frame) := (Record.frames record).toOption

/-- The error of a record that cannot be read. -/
def fault (record : String) : Option Error :=
  match Record.frames record with
  | .ok _ => none
  | .error e => some e

/-- A record that tells no call is isolated. -/
def ofRecords (records : List String) : Normalized :=
  let read := records.filterMap readable
  { edges := ExtTreeSet.ofList (read.flatMap Record.calls)
    records := records.length
    rejected := records.filterMap fault
    isolated := read.countP fun frames => (Record.calls frames).isEmpty }

/-- What is known before the first record. -/
def start : Normalized := ⟨∅, 0, [], 0⟩

/-- Take in one record more: an error, or the calls of its first method, or none. -/
def add (n : Normalized) (record : String) : Normalized :=
  let n := { n with records := n.records + 1 }
  match Record.frames record with
  | .error e => { n with rejected := n.rejected ++ [e] }
  | .ok frames =>
    match Record.methods frames with
    | [] => { n with isolated := n.isolated + 1 }
    | caller :: callees =>
      { n with
        edges := callees.foldl (fun edges callee => edges.insert ⟨callee, caller⟩) n.edges
        isolated := if callees.isEmpty then n.isolated + 1 else n.isolated }

end Normalized

end TestImpact
