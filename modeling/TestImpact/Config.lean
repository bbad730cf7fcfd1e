import TestImpact.Decimal
import TestImpact.Selection
import TestImpact.Text.Shown
import TestImpact.Toml.Document

/-! The configuration of a run: from a file, and together with the command line. -/
namespace TestImpact

/-! ## The file

The configuration file. Every setting may be left out. -/

structure FileConfig where
  granularity : Option Granularity := none
  platformPrefixes : Option (List String) := none
  classMatch : Option ClassMatch := none
  outDir : Option String := none
  emitDot : Option Bool := none
  deriving DecidableEq, Repr

/-- What a setting holds. -/
inductive Setting where
  | text | texts | path | flag
  deriving DecidableEq, Repr

def Setting.description : Setting → String
  | .text => "a string"
  | .texts => "a sequence"
  | .path => "path string"
  | .flag => "a boolean"

/-- Why a text is no configuration. -/
inductive ConfigFault where
  | notToml
  | unknownField (name : String)
  | wrongType (got : String) (want : Setting)
  | refused (e : Error)
  deriving DecidableEq, Repr

/-- An item as a message names it. -/
def Toml.Item.description : Toml.Item → String
  | .text s => "string " ++ String.ofList (Text.quoted s.toList)
  | .integer n => "integer `" ++ toString n ++ "`"
  | .float x => "floating point `" ++ x.text ++ "`"
  | .boolean b => "boolean `" ++ (if b then "true" else "false") ++ "`"
  | .array _ | .tables _ => "sequence"
  | .moment | .inline _ | .table .. => "map"

namespace ConfigFault

def message : ConfigFault → String
  | notToml => "not a TOML document"
  | unknownField name =>
    "unknown field `" ++ name ++ "`, expected one of `granularity`, `platform_prefixes`, " ++
      "`class_match`, `out_dir`, `emit_dot`"
  | wrongType got want => "invalid type: " ++ got ++ ", expected " ++ want.description
  | refused e => e.message

def mismatch (v : Toml.Item) (want : Setting) : ConfigFault := wrongType v.description want

end ConfigFault

namespace FileConfig

def text (want : Setting) : Toml.Item → Except ConfigFault String
  | .text s => .ok s
  | v => .error (.mismatch v want)

def flag : Toml.Item → Except ConfigFault Bool
  | .boolean b => .ok b
  | v => .error (.mismatch v .flag)

def texts : Toml.Item → Except ConfigFault (List String)
  | .array items => items.mapM (text .text)
  | .tables elements => (elements.map Toml.Item.inline).mapM (text .text)
  | v => .error (.mismatch v .texts)

/-- A setting that is a keyword. -/
def word (parse : String → Except Error α) (v : Toml.Item) : Except ConfigFault α := do
  (parse (← text .text v)).mapError .refused

/-- Take one entry into the configuration. -/
def set (c : FileConfig) (entry : String × Toml.Item) : Except ConfigFault FileConfig := do
  let (name, v) := entry
  match name with
  | "granularity" => return { c with granularity := some (← word Granularity.parse v) }
  | "platform_prefixes" => return { c with platformPrefixes := some (← texts v) }
  | "class_match" => return { c with classMatch := some (← word ClassMatch.parse v) }
  | "out_dir" => return { c with outDir := some (← text .path v) }
  | "emit_dot" => return { c with emitDot := some (← flag v) }
  | name => throw (.unknownField name)

/-- The first entry that does not fit is the fault. -/
def parse (document : String) : Except ConfigFault FileConfig :=
  match Toml.parse document with
  | none => .error .notToml
  | some entries => entries.foldlM set {}

def platform (c : FileConfig) : PlatformFilter :=
  match c.platformPrefixes with
  | some prefixes => ⟨prefixes⟩
  | none => .standard

end FileConfig

/-! ## The run

The settings of a run: the command line over the configuration file over the defaults. -/

/-- What the command line says. -/
structure Overrides where
  granularity : Option Granularity := none
  artifactRoot : String := ""
  changes : String := ""
  descriptors : String := ""
  tests : String := ""
  testNames : Option String := none
  outDir : Option String := none
  emitDot : Bool := false
  report : Option String := none
  classMatch : Option ClassMatch := none
  deriving DecidableEq, Repr

structure RunConfig where
  granularity : Granularity
  artifactRoot : String
  changes : String
  descriptors : String
  tests : String
  testNames : Option String
  outDir : String
  emitDot : Bool
  report : Option String
  platform : PlatformFilter
  classMatch : ClassMatch
  deriving DecidableEq, Repr

namespace RunConfig

/-- Where output goes by default. -/
def standardOutDir : String := "."

/-- The granularity is the one setting without a default. -/
def resolve (file : FileConfig) (cli : Overrides) : Except Error RunConfig :=
  match cli.granularity <|> file.granularity with
  | none => .error .noGranularity
  | some granularity => .ok
    { granularity
      artifactRoot := cli.artifactRoot
      changes := cli.changes
      descriptors := cli.descriptors
      tests := cli.tests
      testNames := cli.testNames
      outDir := (cli.outDir <|> file.outDir).getD standardOutDir
      emitDot := cli.emitDot || file.emitDot.getD false
      report := cli.report
      platform := file.platform
      classMatch := (cli.classMatch <|> file.classMatch).getD .substring }

end RunConfig

end TestImpact
