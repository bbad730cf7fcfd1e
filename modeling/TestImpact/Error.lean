import TestImpact.Text

/-! The two levels of a run, what can go wrong in it, and the words that a user may write. -/
namespace TestImpact

inductive Granularity where
  | «class» | method
  deriving DecidableEq, Repr

def Granularity.name : Granularity → String
  | .class => "class"
  | .method => "method"

/-! ## Errors

The ways in which input can be refused, and their wording. -/

/-- Why a token of a call-graph record holds no method reference. -/
inductive Malformation where
  | noReference
  | unterminated
  | missingFields
  | emptyField
  | unknownLoader
  /-- A reason that a caller words for itself. -/
  | other (reason : String)
  deriving DecidableEq, Repr

def Malformation.reason : Malformation → String
  | .noReference => "missing method reference"
  | .unterminated => "unterminated method reference"
  | .missingFields => "expected loader, class and selector"
  | .emptyField => "empty class or selector"
  | .unknownLoader => "unknown class loader"
  | .other reason => reason

/-- The text files that a selection reads. -/
inductive InputKind where
  | descriptors | changes | tests | nameList
  deriving DecidableEq, Repr

def InputKind.name : InputKind → String
  | .descriptors => "descriptor"
  | .changes => "change-info"
  | .tests => "test"
  | .nameList => "name list"

inductive Error where
  | inputNotFound (path : String)
  | malformed (cause : Malformation) (snippet : String)
  | unknownGranularity (text : String)
  | unknownClassMatch (text : String)
  | invalidNode (granularity : Granularity) (text : String)
  | unreadable (input : InputKind) (path : String)
  | unreadableConfig (path : String)
  | invalidConfig (path : String)
  | noGranularity
  | cannotCreateDirectory (path : String)
  | cannotWrite (path : String)
  deriving DecidableEq, Repr

namespace Error

def message : Error → String
  | .inputNotFound path => s!"required input not found: {path}"
  | .malformed cause snippet => s!"malformed descriptor ({cause.reason}): {snippet}"
  | .unknownGranularity text => s!"unknown granularity `{text}` (expected `class` or `method`)"
  | .unknownClassMatch text => s!"unknown class matcher `{text}` (expected `substring` or `exact`)"
  | .invalidNode granularity text => s!"invalid {granularity.name} node `{text}`"
  | .unreadable input path => s!"Cannot read {input.name} file {path}"
  | .unreadableConfig path => s!"Cannot read config file {path}"
  | .invalidConfig path => s!"Invalid config file {path}"
  | .noGranularity =>
    "No granularity given (use --granularity class|method or set it in retest.toml)"
  | .cannotCreateDirectory path => s!"Cannot create output directory {path}"
  | .cannotWrite path => s!"Cannot write {path}"

/-- The number of characters of a malformed text that a message shows. -/
def snippetLength : Nat := 80

/-- The start of a text, trimmed; three dots stand for what is left out. -/
def snippet (text : String) : String :=
  let t := Text.trim text.toList
  if t.length ≤ snippetLength then String.ofList t
  else String.ofList (t.take snippetLength) ++ "..."

/-- The error that blames `text` for `cause`. -/
def malformedAt (cause : Malformation) (text : String) : Error := .malformed cause (snippet text)

end Error

/-! ## Words

Words that a user may write in any ASCII case and with blanks around them. -/

/-- A word as it is compared: trimmed, ASCII letters in lower case. -/
def keyword (text : String) : String := String.ofList ((Text.trim text.toList).map Char.toLower)

def Granularity.parse (text : String) : Except Error Granularity :=
  if keyword text = "class" then .ok .class
  else if keyword text = "method" then .ok .method
  else .error (.unknownGranularity text)

end TestImpact
