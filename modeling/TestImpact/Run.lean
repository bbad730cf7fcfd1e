import TestImpact.CallGraph
import TestImpact.Config
import TestImpact.Files.Store
import TestImpact.Report
import TestImpact.Selection

/-! Runs: reading the inputs, selecting, and writing the outputs, all of them or none. -/
namespace TestImpact
open FileStore

variable {m : Type → Type} [Monad m] [FileStore m] [MonadExceptOf Error m]

/-! ## Inputs

Reading the files that a run needs. -/

/-- Tell several events in order. -/
def tellAll : List Event → m Unit
  | [] => pure ()
  | e :: es => do
    tell e
    tellAll es

def requireFile (path : String) : m Unit := do
  unless ← isFile path do throw (.inputNotFound path)

def requireDirectory (path : String) : m Unit := do
  unless ← isDirectory path do throw (.inputNotFound path)

/-- The text of a file in UTF-8. -/
def textOf? (bytes : Option ByteArray) : Option String := bytes.bind String.fromUTF8?

def readText (input : InputKind) (path : String) : m String := do
  requireFile path
  match textOf? (← read path) with
  | some text => return text
  | none => throw (.unreadable input path)

def readRecords (path : String) : m (List String) := do
  let records := Record.split (← readText .descriptors path)
  tell (.recordsRead records.length path)
  return records

def readChanges (path : String) (g : Granularity) : m ChangeSet := do
  let l := NodeList.read g (linesOf (← readText .changes path))
  let changes := ChangeSet.ofNodeList g l
  tellAll (l.rejected.map .changeSkipped)
  tell (.changesLoaded g changes.nodes.size path)
  unless changes.skipped = 0 do tell (.changesSkipped g changes.skipped)
  return changes

def readTests (path : String) : m Universe := do
  let l := NodeList.read .method (linesOf (← readText .tests path))
  tellAll (l.rejected.map .testSkipped)
  tell (.testsLoaded l.nodes.size path)
  return l.nodes

/-- The lines of a text that say something, trimmed. -/
def namesIn (text : String) : List String :=
  ((linesOf text).map trimmed).filter fun line => !line.isEmpty

def readNames (path : String) : m (List String) := do
  return namesIn (← readText .nameList path)

/-- The graphs of the records in a file. -/
def loadGraphs (path : String) (f : PlatformFilter) : m (Graphs × Counts) := do
  let n := Normalized.ofRecords (← readRecords path)
  tellAll n.events
  tell (.recordsNormalized n.counts)
  let graphs := Graphs.build f n.edges
  tell graphs.event
  return (graphs, n.counts)

/-! ### The configuration file -/

namespace FileConfig

/-- The name of the configuration file in its directory. -/
def fileName : String := "retest.toml"

def load (path : String) : m FileConfig := do
  match textOf? (← read path) with
  | none => throw (.unreadableConfig path)
  | some text =>
    match parse text with
    | .ok c => return c
    | .error _ => throw (.invalidConfig path)

/-- The configuration at a given path, or else the one in a directory, or else the empty one. -/
def discover (path : Option String) (directory : String) : m FileConfig := do
  match path with
  | some path => load path
  | none =>
    let path := Path.join directory fileName
    if ← isFile path then
      tell (.configFound path)
      load path
    else return {}

end FileConfig

/-! ## Compiled classes

The directory of compiled classes, and the names that it gives. -/

/-- Where an artifact root keeps its classes. -/
def classesDirectory (root : String) : String := Path.join root "classes"

/-- Where an artifact root keeps its test classes. -/
def testClassesDirectory (root : String) : String := Path.join root "test-classes"

def verifyRoot (root : String) : m Unit := do
  requireDirectory root
  requireDirectory (classesDirectory root)
  requireDirectory (testClassesDirectory root)

/-- A file name up to its first dot. -/
def stem (name : String) : String := String.ofList (name.toList.takeWhile (· ≠ '.'))

/-- The stems of file names in order, each once; empty ones do not count. -/
def stems (names : List String) : List String :=
  let found : Std.ExtTreeSet String := .ofList ((names.map stem).filter fun s => !s.isEmpty)
  found.toList

/-- The bare names of the test files under a root. -/
def testFileNames (root : String) : m (List String) := do
  let directory := testClassesDirectory root
  requireDirectory directory
  let names := stems (← fileNames directory)
  tell (.testFilesFound names.length directory)
  return names

/-- What stands in a label's place if there is no name to make it from. -/
def standardLabel : String := "callgraph"

/-- A name without what stands up to its first hyphen, unless nothing else would remain. -/
def labelOf (name : String) : String :=
  match Text.cut? ['-'] name.toList with
  | some (_, rest) => if rest.isEmpty then name else String.ofList rest
  | none => name

/-- The label of a project: made from the name of the directory that holds its artifact root. If
the root is not there, its path tells the name. -/
def projectLabel (root : String) : m String := do
  let name := (← holder? root) <|> (Path.parent? root).bind Path.fileName?
  return (name.map labelOf).getD standardLabel

/-! ## Outputs

Files to be written, all of them or none. -/

structure PendingFile where
  path : String
  text : String
  deriving DecidableEq, Repr

namespace PendingFile

def ofSelection (outDir : String) (s : Selection) : PendingFile :=
  ⟨Path.join outDir (Selection.fileName s.granularity), s.text⟩

def ofGraph (outDir label : String) (g : CallGraph) : PendingFile :=
  ⟨Path.join outDir (CallGraph.dotFileName g.granularity label), g.dot label⟩

/-- The class graph, then the method graph. -/
def ofGraphs (outDir label : String) (graphs : Graphs) : List PendingFile :=
  [ofGraph outDir label graphs.class, ofGraph outDir label graphs.method]

def ofReport (path : String) (r : Report) : PendingFile := ⟨path, r.text⟩

/-- Write one file, with the directories above it. The answer is what went wrong. -/
def put (f : PendingFile) : m (Option Error) := do
  let ready ← match Path.directory? f.path with
    | none => pure none
    | some directory =>
      if ← makeDirectories directory then pure none
      else pure (some (Error.cannotCreateDirectory directory))
  match ready with
  | some e => return some e
  | none =>
    if ← write f.path f.text.toUTF8 then return none
    else return some (.cannotWrite f.path)

end PendingFile

/-- Remove files again. One that cannot be removed is reported and left. -/
def removeAll : List String → m Unit
  | [] => pure ()
  | path :: paths => do
    if let some reason ← remove path then tell (.notRemoved path reason)
    removeAll paths

/-- Write files after those that are written already. If one fails, all are removed. -/
def writeAfter (written : List String) : List PendingFile → m (List String)
  | [] => pure written
  | f :: files => do
    match ← f.put with
    | some e =>
      removeAll written
      throw e
    | none =>
      tell (.fileWritten f.path)
      writeAfter (written ++ [f.path]) files

/-- Write files in order. The answer holds their paths. -/
def writeAll (files : List PendingFile) : m (List String) := writeAfter [] files

/-! ## Whole runs

Whole runs: from the input files to the selection, and from the records to the drawn graphs. -/

structure Outcome where
  selection : Selection
  selectionPath : String
  dotPaths : List String
  report : Report

/-- What a run found, and the files that will tell it. -/
structure Plan where
  outcome : Outcome
  files : List PendingFile

/-- The names by which test classes are recognised. At method level none are needed. -/
def testNames (config : RunConfig) : m (List String) :=
  match config.granularity, config.testNames with
  | .method, _ => pure []
  | .class, some path => readNames path
  | .class, none => testFileNames config.artifactRoot

/-- Read all inputs and select. Nothing is written yet. -/
def plan (config : RunConfig) : m Plan := do
  tell (.runStarted config.granularity config.artifactRoot)
  verifyRoot config.artifactRoot
  requireFile config.changes
  requireFile config.descriptors
  requireFile config.tests
  let (graphs, counts) ← loadGraphs config.descriptors config.platform
  let changes ← readChanges config.changes config.granularity
  let tests ← readTests config.tests
  let names ← testNames config
  let selection := Selection.select graphs tests config.classMatch names changes
  tellAll (selection.events tests changes)
  let report := Report.make (← clock) counts graphs changes selection
  let label ← projectLabel config.artifactRoot
  let reports := (config.report.map fun path => PendingFile.ofReport path report).toList
  let dots := if config.emitDot then PendingFile.ofGraphs config.outDir label graphs else []
  let listing := PendingFile.ofSelection config.outDir selection
  return {
    outcome := {
      selection
      selectionPath := listing.path
      dotPaths := dots.map (·.path)
      report }
    files := reports ++ dots ++ [listing] }

/-- Select, then write the report, the graphs and the selection. -/
def runSelection (config : RunConfig) : m Outcome := do
  let p ← plan config
  let _ ← writeAll p.files
  tell (.selectionWritten p.outcome.selection.tests.size p.outcome.selectionPath)
  return p.outcome

/-- Draw the graphs of the records in a file. -/
def exportGraphs (root descriptors outDir : String) (f : PlatformFilter) : m (List String) := do
  requireFile descriptors
  let (graphs, _) ← loadGraphs descriptors f
  let label ← projectLabel root
  let paths ← writeAll (PendingFile.ofGraphs outDir label graphs)
  tell (.graphsWritten paths.length outDir)
  return paths

end TestImpact
