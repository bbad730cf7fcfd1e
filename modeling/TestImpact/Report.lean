import TestImpact.Selection

/-! The report of a run, and its text. -/
namespace TestImpact

/-! ## JSON

JSON values, and their text spread over lines. -/

inductive Json where
  | number (n : Nat)
  | text (s : String)
  | array (items : List Json)
  | object (fields : List (String × Json))

namespace Json

def hexDigit (n : Nat) : Char := (Nat.digitChar n).toLower

/-- A character inside a quoted text. -/
def escape (c : Char) : List Char :=
  match c with
  | '"' => ['\\', '"']
  | '\\' => ['\\', '\\']
  | '\x08' => ['\\', 'b']
  | '\x0c' => ['\\', 'f']
  | '\n' => ['\\', 'n']
  | '\r' => ['\\', 'r']
  | '\t' => ['\\', 't']
  | c =>
    if c.toNat < 0x20 then
      ['\\', 'u', '0', '0', hexDigit (c.toNat / 16), hexDigit (c.toNat % 16)]
    else [c]

def quote (s : String) : String := String.ofList ('"' :: s.toList.flatMap escape ++ ['"'])

def spaces (n : Nat) : String := String.ofList (List.replicate n ' ')

/-- Items between brackets, each on a line of its own; nothing between them if there are none. -/
def block (opening closing : String) (indent : Nat) (items : List String) : String :=
  if items.isEmpty then opening ++ closing
  else
    let start := "\n" ++ spaces (indent + 2)
    opening ++ start ++ String.intercalate ("," ++ start) items ++ "\n" ++ spaces indent ++ closing

mutual

/-- A value whose first line is already indented. -/
def pretty (indent : Nat) : Json → String
  | number n => toString n
  | text s => quote s
  | array items => block "[" "]" indent (prettyItems (indent + 2) items)
  | object fields => block "\x7b" "\x7d" indent (prettyFields (indent + 2) fields)

def prettyItems (indent : Nat) : List Json → List String
  | [] => []
  | v :: vs => pretty indent v :: prettyItems indent vs

def prettyFields (indent : Nat) : List (String × Json) → List String
  | [] => []
  | (key, v) :: rest => (quote key ++ ": " ++ pretty indent v) :: prettyFields indent rest

end

end Json

/-! ## Reports

The report of a run: what was read, what was found, and when. -/

structure GraphSize where
  nodes : Nat
  edges : Nat
  deriving DecidableEq, Repr

def CallGraph.size (g : CallGraph) : GraphSize := ⟨g.nodeCount, g.edgeCount⟩

structure Report where
  granularity : Granularity
  /-- The moment of the run, as text. -/
  generatedAt : String
  records : Nat
  malformed : Nat
  classGraph : GraphSize
  methodGraph : GraphSize
  changes : Nat
  unmatched : Nat
  closure : Nat
  candidates : List String
  selected : List String
  deriving DecidableEq, Repr

namespace Report

def make (generatedAt : String) (counts : Counts) (graphs : Graphs) (changes : ChangeSet)
    (s : Selection) : Report where
  granularity := s.granularity
  generatedAt
  records := counts.records
  malformed := counts.malformed
  classGraph := graphs.class.size
  methodGraph := graphs.method.size
  changes := changes.nodes.size
  unmatched := s.unmatched
  closure := s.closure.nodes.size
  candidates := s.candidates.toList.map Node.text
  selected := s.tests.toList.map Node.text

def graphJson (size : GraphSize) : Json :=
  .object [("nodes", .number size.nodes), ("edges", .number size.edges)]

def toJson (r : Report) : Json :=
  .object [
    ("granularity", .text r.granularity.name),
    ("generated_at", .text r.generatedAt),
    ("descriptors", .number r.records),
    ("malformed_descriptors", .number r.malformed),
    ("class_graph", graphJson r.classGraph),
    ("method_graph", graphJson r.methodGraph),
    ("changes", .number r.changes),
    ("unmatched_changes", .number r.unmatched),
    ("closure_size", .number r.closure),
    ("candidate_classes", .array (r.candidates.map .text)),
    ("selected", .array (r.selected.map .text))]

def text (r : Report) : String := r.toJson.pretty 0

end Report

end TestImpact
