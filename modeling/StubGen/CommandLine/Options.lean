/-!
# StubGen.CommandLine.Options

The options of the command line: how each is spelled, how many values it takes, and the settings
that they make up.
-/

namespace StubGen

/-- The settings that a command line makes. -/
structure Options where
  /-- Files to remove before anything else. -/
  clean : List String := []
  /-- Schema files, directories or patterns to generate stubs for. -/
  paths : List String := ["**/*.proto"]
  /-- Compiled schemas to use in place of the schema compiler. -/
  descriptorSets : List String := []
  /-- Files or patterns that `paths` shall not match. -/
  excludes : List String := []
  /-- The directory that the stubs are written below; if empty or without a value, the working
  directory. -/
  outputDir : Option String := some ""
  /-- Further directories in which the schema compiler looks for imports. -/
  importPaths : List String := []
  /-- The schema compiler, unless the option was used without a value. -/
  protoc : Option String := some "protoc"
  noFormat : Bool := false
  pyright : Bool := false
  recursive : Bool := false
deriving DecidableEq, Repr

namespace CommandLine

/-- An option of the command line. -/
inductive Switch where
  | help
  | clean
  | paths
  | descriptorSets
  | excludes
  | outputDir
  | importPaths
  | protoc
  | noFormat
  | pyright
  | recursive
deriving DecidableEq, Repr

/-- How many values an option takes. -/
inductive Arity where
  | none
  | one
  | oneOrMore
deriving DecidableEq, Repr

namespace Switch

/-- All options, in order of declaration. -/
def all : List Switch :=
  [.help, .clean, .paths, .descriptorSets, .excludes, .outputDir, .importPaths, .protoc, .noFormat,
   .pyright, .recursive]

def spellings : Switch → List String
  | .help => ["-h", "--help"]
  | .clean => ["-c", "--clean"]
  | .paths => ["-p", "--paths"]
  | .descriptorSets => ["-d", "--descriptor-sets"]
  | .excludes => ["-e", "--excludes"]
  | .outputDir => ["-o", "--output-dir"]
  | .importPaths => ["-I", "--import-path"]
  | .protoc => ["--protoc"]
  | .noFormat => ["--no-format"]
  | .pyright => ["--pyright"]
  | .recursive => ["-r", "--recursive"]

def arity : Switch → Arity
  | .help | .noFormat | .pyright | .recursive => .none
  | .outputDir | .protoc => .one
  | .clean | .paths | .descriptorSets | .excludes | .importPaths => .oneOrMore

def display (switch : Switch) : String :=
  "/".intercalate switch.spellings

/-- All spellings with their options, in order of declaration. -/
def table : List (String × Switch) :=
  all.flatMap fun switch => switch.spellings.map fun spelling => (spelling, switch)

/-- The option of a spelling. -/
def ofSpelling? (spelling : String) : Option Switch :=
  (table.find? fun entry => entry.1 == spelling).map Prod.snd

end Switch

/-- An option with the values that were given to it. -/
structure Use where
  switch : Switch
  values : List String := []
deriving DecidableEq, Repr

/-- The settings after one more option, whose values take the place of earlier ones. -/
def Use.apply (use : Use) (options : Options) : Options :=
  match use.switch with
  | .help => options
  | .clean => { options with clean := use.values }
  | .paths => { options with paths := use.values }
  | .descriptorSets => { options with descriptorSets := use.values }
  | .excludes => { options with excludes := use.values }
  | .outputDir => { options with outputDir := use.values.head? }
  | .importPaths => { options with importPaths := use.values }
  | .protoc => { options with protoc := use.values.head? }
  | .noFormat => { options with noFormat := true }
  | .pyright => { options with pyright := true }
  | .recursive => { options with recursive := true }

end CommandLine

end StubGen
