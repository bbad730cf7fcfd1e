import TestImpact.Selection
import TestImpact.Text.Shown

/-! What a run tells its user while it works. -/
namespace TestImpact

inductive Level where
  | warn | info | debug
  deriving DecidableEq, Repr

def Level.name : Level → String
  | .warn => "WARN"
  | .info => "INFO"
  | .debug => "DEBUG"

inductive Event where
  | started (program : String)
  | recordSkipped (e : Error)
  | normalized (counts : Counts)
  | graphsBuilt (classNodes classEdges methodNodes methodEdges : Nat)
  | changeSkipped (e : Error)
  | testSkipped (e : Error)
  | closed (g : Granularity) (nodes rounds : Nat)
  | candidatesFound (classes : Nat)
  | testsSelected (g : Granularity) (tests known closure : Nat)
  | changesUnmatched (g : Granularity) (unmatched changes : Nat)
  | recordsRead (records : Nat) (path : String)
  | recordsNormalized (counts : Counts)
  | changesLoaded (g : Granularity) (changes : Nat) (path : String)
  | changesSkipped (g : Granularity) (lines : Nat)
  | testsLoaded (tests : Nat) (path : String)
  | testFilesFound (names : Nat) (directory : String)
  | configFound (path : String)
  | runStarted (g : Granularity) (root : String)
  | fileWritten (path : String)
  | selectionWritten (tests : Nat) (path : String)
  | exportStarted (path : String)
  | graphsWritten (files : Nat) (directory : String)
  | testSelected (test : Node)
  | notRemoved (path reason : String)
  deriving DecidableEq, Repr

namespace Event

def level : Event → Level
  | recordSkipped _ | changeSkipped _ | testSkipped _ | changesUnmatched .. | changesSkipped ..
  | notRemoved .. => .warn
  | graphsBuilt .. | testsSelected .. | recordsNormalized _ | changesLoaded .. | testsLoaded ..
  | runStarted .. | selectionWritten .. | exportStarted _ | graphsWritten .. => .info
  | started _ | normalized _ | closed .. | candidatesFound _ | recordsRead .. | testFilesFound ..
  | configFound _ | fileWritten _ | testSelected _ => .debug

def text : Event → String
  | started program => program
  | recordSkipped e => s!"Skipping descriptor: {e.message}"
  | normalized c =>
    s!"Normalized {c.records} descriptors into {c.edges} edges ({c.malformed} malformed, " ++
      s!"{c.isolated} isolated)"
  | graphsBuilt cn ce mn me =>
    s!"Built class graph ({cn} nodes, {ce} edges) and method graph ({mn} nodes, {me} edges)"
  | changeSkipped e => s!"Skipping change entry: {e.message}"
  | testSkipped e => s!"Skipping test entry: {e.message}"
  | closed g nodes rounds =>
    s!"Closure over {g.name} graph: {nodes} nodes after {rounds} rounds"
  | candidatesFound classes => s!"{classes} candidate test classes"
  | testsSelected g tests known closure =>
    s!"Selected {tests} of {known} tests at {g.name} granularity (closure: {closure} nodes)"
  | changesUnmatched g unmatched changes =>
    s!"{unmatched} of {changes} changed {g.name} nodes do not occur in the call graph"
  | recordsRead records path => s!"Read {records} descriptors from {path}"
  | recordsNormalized c =>
    s!"Normalized {c.records} descriptors: {c.edges} edges, {c.malformed} malformed, " ++
      s!"{c.isolated} isolated"
  | changesLoaded g changes path => s!"Loaded {changes} changed {g.name} entries from {path}"
  | changesSkipped g lines => s!"{lines} change entries did not parse as {g.name} nodes"
  | testsLoaded tests path => s!"Loaded {tests} test methods from {path}"
  | testFilesFound names directory => s!"Found {names} test files under {directory}"
  | configFound path => s!"Using config file {path}"
  | runStarted g root => s!"Selecting tests at {g.name} granularity for {root}"
  | fileWritten path => s!"Wrote {path}"
  | selectionWritten tests path => s!"Wrote {tests} selected tests to {path}"
  | exportStarted path => s!"Exporting graphs from {path}"
  | graphsWritten files directory => s!"Wrote {files} graphs to {directory}"
  | testSelected test => s!"selected {test.text}"
  | notRemoved path reason => s!"Cannot remove {path}: {reason}"

/-- The level, then the text. -/
def line (e : Event) : String := e.level.name ++ " " ++ e.text

/-- The line on a user's screen. What a terminal would obey is shown as codes. -/
def shownLine (e : Event) : String :=
  e.level.name ++ " " ++ String.ofList (e.text.toList.flatMap Text.tame)

/-- Whether a user sees an event. Debugging events are shown only on demand. -/
def isShown (verbose : Bool) (e : Event) : Bool := verbose || e.level != .debug

end Event

/-- What normalizing records tells: each record refused, then the counts. -/
def Normalized.events (n : Normalized) : List Event :=
  n.rejected.map .recordSkipped ++ [.normalized n.counts]

def Graphs.event (graphs : Graphs) : Event :=
  .graphsBuilt graphs.class.nodeCount graphs.class.edgeCount graphs.method.nodeCount
    graphs.method.edgeCount

def Closure.event (c : Closure) (g : Granularity) : Event := .closed g c.nodes.size c.rounds

/-- What selecting tells, in order. -/
def Selection.events (s : Selection) (tests : Universe) (changes : ChangeSet) : List Event :=
  [s.closure.event s.granularity] ++
  (match s.granularity with
    | .class => [.candidatesFound s.candidates.size]
    | .method => []) ++
  [.testsSelected s.granularity s.tests.size tests.size s.closure.nodes.size] ++
  (if s.unmatched = 0 then [] else
    [.changesUnmatched s.granularity s.unmatched changes.nodes.size])

end TestImpact
