import TestImpact.CommandLine.Options
import TestImpact.Config
import TestImpact.Run

/-!
The commands: what their words ask for, what they do and what they leave behind on the screen.
-/
namespace TestImpact
open FileStore

/-! ## Words

The commands, and how the words of a command line give one. -/

inductive Command where
  | select (overrides : Overrides)
  | graph (root descriptors outDir : String)
  | version
  deriving DecidableEq, Repr

/-- A command with what every command may be told. -/
structure Invocation where
  verbose : Bool
  config : Option String
  command : Command
  deriving DecidableEq, Repr

namespace CommandLine

/-- A path that is an option's value is not empty. -/
def checkPath (v : String) : Option String := if v.isEmpty then some "a path is empty" else none

def faultIn : Except Error α → Option String
  | .ok _ => none
  | .error e => some e.message

def checkGranularity (v : String) : Option String := faultIn (Granularity.parse v)

def checkClassMatch (v : String) : Option String := faultIn (ClassMatch.parse v)

/-- The options of every command. They may stand before or after its name. -/
def globalOptions : List OptionSpec := [
  { name := "verbose", letter := some 'v', check := none },
  { name := "config", check := some checkPath },
  { name := "root", letter := some 'r', check := some checkPath }]

def selectOptions : List OptionSpec := [
  { name := "granularity", letter := some 'g', check := some checkGranularity },
  { name := "changes", letter := some 'c', check := some checkPath },
  { name := "descriptors", letter := some 'd', check := some checkPath },
  { name := "tests", letter := some 't', check := some checkPath },
  { name := "test-names", check := some checkPath },
  { name := "class-match", check := some checkClassMatch },
  { name := "out", letter := some 'o', check := some checkPath },
  { name := "emit-dot", check := none },
  { name := "report", check := some checkPath }]

def graphOptions : List OptionSpec := [
  { name := "descriptors", letter := some 'd', check := some checkPath },
  { name := "out", letter := some 'o', check := some checkPath }]

/-- Where compiled classes are by default. -/
def standardRoot : String := "target"

def commandNames : List String := ["select", "graph", "version", "help"]

def required (given : Given) (name : String) : Except Stop String :=
  match given.lookup name with
  | some v => .ok v
  | none => refuse (.missingOption name)

/-- All options after a command's name; no further word may follow. -/
def readAll (specs : List OptionSpec) (words : List String) : Except Stop Given := do
  let (given, _) ← readOptions (specs ++ globalOptions) [] words.length {} words
  given.settle

/-- A global option counts where it stands last: after the command's name, or else before it. -/
def global? (outer inner : Given) (name : String) : Option String :=
  inner.lookup name <|> outer.lookup name

def rootOf (outer inner : Given) : String := (global? outer inner "root").getD standardRoot

def invocation (outer inner : Given) (command : Command) : Invocation where
  verbose := (global? outer inner "verbose").isSome
  config := global? outer inner "config"
  command

def selectOf (outer : Given) (words : List String) : Except Stop Invocation := do
  let given ← readAll selectOptions words
  let changes ← required given "changes"
  let descriptors ← required given "descriptors"
  let tests ← required given "tests"
  return invocation outer given <| .select
    { granularity := (given.lookup "granularity").bind fun v => (Granularity.parse v).toOption
      artifactRoot := rootOf outer given
      changes, descriptors, tests
      testNames := given.lookup "test-names"
      outDir := given.lookup "out"
      emitDot := (given.lookup "emit-dot").isSome
      report := given.lookup "report"
      classMatch := (given.lookup "class-match").bind fun v => (ClassMatch.parse v).toOption }

def graphOf (outer : Given) (words : List String) : Except Stop Invocation := do
  let given ← readAll graphOptions words
  let descriptors ← required given "descriptors"
  return invocation outer given <| .graph (rootOf outer given) descriptors
    ((given.lookup "out").getD RunConfig.standardOutDir)

/-- Help may be asked for one command. -/
def helpOn : List String → Except Stop Invocation
  | [] => .error .help
  | [name] => if commandNames.contains name then .error .help else refuse (.unknownCommand name)
  | _ :: word :: _ => refuse (.unknownCommand word)

/-- What a command makes of the words behind its name. -/
def readCommand (outer : Given) : List String → Except Stop Invocation
  | "select" :: rest => selectOf outer rest
  | "graph" :: rest => graphOf outer rest
  | "version" :: rest => do return invocation outer (← readAll [] rest) .version
  | "help" :: rest => helpOn rest
  | _ => do
    let _ ← outer.settle
    refuse .noCommand

/-- The command that a command line gives. What was held back before its name counts last. -/
def parse (words : List String) : Except Stop Invocation := do
  let (outer, rest) ← readOptions globalOptions commandNames words.length {} words
  let result ← readCommand outer rest
  let _ ← outer.settle
  return result

end CommandLine

/-! ## Doing

What the commands do, and what they leave behind on the screen. -/

/-- The name and version of the program. -/
def version : String := "Retest v0.1.0"

/-- The exit code, the standard output, and the error if there is one. -/
structure Exit where
  code : Nat
  output : String
  error : Option String
  deriving DecidableEq, Repr

namespace Invocation

variable {m : Type → Type} [Monad m] [FileStore m] [MonadExceptOf Error m]

def dotLine (path : String) : String := "Graph written to " ++ path ++ "\n"

/-- Perform a command. The answer is what it prints. -/
def perform (i : Invocation) : m String := do
  tell (.started version)
  match i.command with
  | .version => return version ++ "\n"
  | .select overrides =>
    let file ← FileConfig.discover i.config "."
    match RunConfig.resolve file overrides with
    | .error e => throw e
    | .ok settings =>
      let outcome ← runSelection settings
      tellAll (outcome.selection.tests.toList.map .testSelected)
      return "Selected " ++ toString outcome.selection.tests.size ++ " tests -> " ++
        outcome.selectionPath ++ "\n" ++ String.join (outcome.dotPaths.map dotLine)
  | .graph root descriptors outDir =>
    let file ← FileConfig.discover i.config "."
    tell (.exportStarted descriptors)
    let paths ← exportGraphs root descriptors outDir file.platform
    return String.join (paths.map dotLine)

end Invocation

namespace Exit

def ofResult : Except Error String → Exit
  | .ok output => ⟨0, output, none⟩
  | .error e => ⟨1, "", some ("Error: " ++ e.message)⟩

/-- A summary of the commands. -/
def usage : String :=
  "Change-impact regression test selection over a call graph\n\n" ++
  "Usage: retest [OPTIONS] <COMMAND>\n\n" ++
  "Commands:\n" ++
  "  select   Select the tests affected by a change set\n" ++
  "  graph    Write the class and method graphs as Graphviz files and exit\n" ++
  "  version  Show version\n" ++
  "  help     Print this message\n"

def ofStop : CommandLine.Stop → Exit
  | .help => ⟨0, usage, none⟩
  | .usage e => ⟨2, "", some ("error: " ++ e.message)⟩

/-- The text on the standard error: the events that were shown, then the error. -/
def errorOutput (exit : Exit) (shown : List Event) : String :=
  String.join ((shown.map Event.shownLine ++ exit.error.toList).map (· ++ "\n"))

end Exit

/-- The program as a whole in a session. It shows the new events that are to be seen. -/
def Session.cli (words : List String) (s : Session) : Exit × List Event × Session :=
  match CommandLine.parse words with
  | .error stop => (.ofStop stop, [], s)
  | .ok invocation =>
    let (result, after) := Act.on invocation.perform s
    (.ofResult result, (after.log.drop s.log.length).filter (·.isShown invocation.verbose), after)

end TestImpact
