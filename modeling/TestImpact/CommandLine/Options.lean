import TestImpact.Text.Shown

/-! Options on a command line: long ones after two hyphens, letters after one, each at most once. -/
namespace TestImpact.CommandLine

structure OptionSpec where
  name : String
  letter : Option Char := none
  /-- What is wrong with a value, if anything is. A flag takes no value and has no check. -/
  check : Option (String → Option String)

inductive UsageError where
  | unknownOption (text : String)
  | repeatedOption (name : String)
  | missingValue (name : String)
  | unexpectedValue (name value : String)
  | badValue (name value reason : String)
  | missingOption (name : String)
  | unexpectedWord (word : String)
  | unknownCommand (word : String)
  | noCommand
  deriving DecidableEq, Repr

/-- What stands for the value of an option. -/
def placeholder (name : String) : String :=
  String.ofList (name.toList.map fun c => if c = '-' then '_' else c.toUpper)

/-- A text that the user gave, without what a terminal would obey. -/
def cited (text : String) : String := String.ofList (Text.plain text.toList)

def UsageError.message : UsageError → String
  | unknownOption text => s!"unexpected argument '{cited text}' found"
  | repeatedOption name => s!"the argument '--{name}' cannot be used multiple times"
  | missingValue name =>
    s!"a value is required for '--{name} <{placeholder name}>' but none was supplied"
  | unexpectedValue name value =>
    s!"unexpected value '{cited value}' for '--{name}' found; no more were expected"
  | badValue name value reason =>
    s!"invalid value '{cited value}' for '--{name} <{placeholder name}>': {cited reason}"
  | missingOption name => s!"the required argument '--{name}' was not provided"
  | unexpectedWord word => s!"unexpected argument '{cited word}' found"
  | unknownCommand word => s!"unrecognized subcommand '{cited word}'"
  | noCommand => "a subcommand is required but none was given"

/-- Why reading stops before a command is known. -/
inductive Stop where
  | help
  | usage (e : UsageError)
  deriving DecidableEq, Repr

def refuse (e : UsageError) : Except Stop α := .error (.usage e)

structure Given where
  /-- The options with their values; a flag has the empty one. -/
  values : List (String × String) := []
  /-- What is wrong with a value that was a word of its own. It is held back, since an unknown word
  behind it counts more. -/
  fault : Option UsageError := none

namespace Given

def lookup (given : Given) (name : String) : Option String := given.values.lookup name

/-- Refuse what was held back. -/
def settle (given : Given) : Except Stop Given :=
  match given.fault with
  | none => .ok given
  | some e => refuse e

def note (given : Given) (name value : String) : Given :=
  { given with values := given.values ++ [(name, value)] }

/-- Note a flag. -/
def flag (given : Given) (o : OptionSpec) : Except Stop Given := do
  let given ← given.settle
  if (given.lookup o.name).isSome then refuse (.repeatedOption o.name)
  return given.note o.name ""

/-- What is wrong with an option that gets a value. -/
def faultOf (given : Given) (o : OptionSpec) (check : String → Option String) (v : String) :
    Option UsageError :=
  if (given.lookup o.name).isSome then some (.repeatedOption o.name)
  else (check v).map (.badValue o.name v)

/-- Note an option with its value. -/
def value (given : Given) (o : OptionSpec) (check : String → Option String) (v : String) :
    Except Stop Given := do
  let given ← given.settle
  settle { given.note o.name v with fault := given.faultOf o check v }

end Given

/-- What a word on the command line is. -/
inductive Word where
  /-- Two hyphens alone. -/
  | «end»
  | long (name : String) (attached : Option String)
  | letters (cs : List Char)
  | plain
  deriving DecidableEq, Repr

def Word.classify (word : String) : Word :=
  match word.toList with
  | ['-', '-'] => .end
  | '-' :: '-' :: rest =>
    let name := rest.takeWhile (· ≠ '=')
    match rest.drop name.length with
    | [] => .long (String.ofList name) none
    | _ :: v => .long (String.ofList name) (some (String.ofList v))
  | '-' :: c :: cs => .letters (c :: cs)
  | _ => .plain

/-- The value of an option is the next word. It must not look like an option; a single hyphen does
not. -/
def nextValue (given : Given) (o : OptionSpec) (check : String → Option String)
    (words : List String) : Except Stop (Given × List String) := do
  let given ← given.settle
  match words with
  | v :: rest =>
    if Word.classify v = .plain then
      return ({ given.note o.name v with fault := given.faultOf o check v }, rest)
    else return ({ given with fault := some (.missingValue o.name) }, words)
  | [] => return ({ given with fault := some (.missingValue o.name) }, [])

def askHelp (given : Given) : Except Stop α := do
  let _ ← given.settle
  .error .help

/-- Letters behind one hyphen: flags, and at most one option, whose value may follow its letter at
once or after an equals sign. -/
def readLetters (specs : List OptionSpec) (given : Given) (rest : List String) :
    List Char → Except Stop (Given × List String)
  | [] => .ok (given, rest)
  | 'h' :: _ => askHelp given
  | c :: cs =>
    match specs.find? (·.letter == some c) with
    | none => refuse (.unknownOption (String.ofList ['-', c]))
    | some o =>
      match o.check with
      | none => do readLetters specs (← given.flag o) rest cs
      | some check =>
        match cs with
        | [] => nextValue given o check rest
        | '=' :: v => (given.value o check (String.ofList v)).map (·, rest)
        | v => (given.value o check (String.ofList v)).map (·, rest)

/-- One long option. -/
def readLong (specs : List OptionSpec) (given : Given) (rest : List String) (name : String)
    (attached : Option String) : Except Stop (Given × List String) :=
  if name = "help" then
    match attached with
    | none => askHelp given
    | some v => refuse (.unexpectedValue name v)
  else
    match specs.find? (·.name == name) with
    | none => refuse (.unknownOption ("--" ++ name))
    | some o =>
      match o.check, attached with
      | none, none => (given.flag o).map (·, rest)
      | none, some v => refuse (.unexpectedValue name v)
      | some check, some v => (given.value o check v).map (·, rest)
      | some check, none => nextValue given o check rest

/-- A word that is no option, where one of the given command words may stand. -/
def strayWord (commands : List String) (word : String) : UsageError :=
  if commands.isEmpty then .unexpectedWord word else .unknownCommand word

/-- Read options up to the first of the given command words, or to the end. Steps are as many as
there are words. -/
def readOptions (specs : List OptionSpec) (commands : List String) :
    Nat → Given → List String → Except Stop (Given × List String)
  | _, given, [] => .ok (given, [])
  | 0, given, words => .ok (given, words)
  | steps + 1, given, word :: rest =>
    match Word.classify word with
    | .end =>
      match rest with
      | [] => .ok (given, [])
      | w :: _ => refuse (strayWord commands w)
    | .long name attached => do
      let (given, rest) ← readLong specs given rest name attached
      readOptions specs commands steps given rest
    | .letters cs => do
      let (given, rest) ← readLetters specs given rest cs
      readOptions specs commands steps given rest
    | .plain =>
      if commands.contains word then .ok (given, word :: rest)
      else refuse (strayWord commands word)

end TestImpact.CommandLine
