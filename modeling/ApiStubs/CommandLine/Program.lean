import ApiStubs.CommandLine.Options
import ApiStubs.Generate
import ApiStubs.Toml.Layer

/-!
The program: what it does to files, what it prints and how it ends.
-/

namespace ApiStubs

-- The file that settings are read from if there is one and no other one is named.
def defaultConfig : String := "stubgen.toml"

structure Failure where
  context : String
  cause : Error
  deriving DecidableEq, Repr, Inhabited

def loadLayer (files : FileTree) (path : String) : Except Error Layer := do
  let text ← (files.readText path).mapError fun fault => .file path fault.message
  (Toml.readLayer text).mapError fun e => .settings e.message

namespace Options

def configPath? (options : Options) (files : FileTree) : Option String :=
  match options.config with
  | some path => some path
  | none => if files.isFile defaultConfig then some defaultConfig else none

-- The options as settings over other settings.
def applyTo (options : Options) (below : Settings) : Settings :=
  { below with
    url := options.url.getD below.url
    versions := (options.versions.map VersionFilter.read).getD below.versions
    singleType := if options.unionTypes then false else below.singleType
    output := options.output.getD below.output
    header := options.header.getD below.header }

-- The settings of a run: the built-in ones, over them the file, over them the options.
def settings (options : Options) (files : FileTree) : Except Failure Settings :=
  match options.configPath? files with
  | none => .ok (options.applyTo {})
  | some path =>
    match loadLayer files path with
    | .error cause => .error ⟨"failed to load " ++ path, cause⟩
    | .ok layer => .ok (options.applyTo (layer.applyTo {}))

def source (options : Options) (settings : Settings) (net : Net := .none) : Source :=
  match options.input with
  | some path => .file path
  | none => .web settings.url (net settings.url)

-- A run with all its events but the one that tells of a failure.
def run (options : Options) (files : FileTree) (net : Net := .none) : Outcome Failure Unit :=
  match options.settings files with
  | .error failure => ⟨files, [], .error failure⟩
  | .ok settings =>
    let source := options.source settings net
    let ⟨files, log, result⟩ := settings.generate source files
    match result with
    | .error cause =>
      ⟨files, log, .error ⟨"failed to generate stubs from " ++ source.describe, cause⟩⟩
    | .ok report => ⟨files, log ++ [.done report settings.versions], .ok ()⟩

end Options

def helpText : String := "\n".intercalate [
  "Generate JSDoc-annotated jQuery stubs from the jQuery API feed",
  "",
  "Usage: stubgen [OPTIONS]",
  "",
  "Options:",
  "  -c, --config <CONFIG>",
  "          Configuration file (defaults to ./stubgen.toml when present)",
  "      --url <URL>",
  "          URL of the API XML feed",
  "  -i, --input <INPUT>",
  "          Read the API XML from a local file instead of fetching it",
  "  -t, --target-version <TARGET_VERSION>",
  "          Only include entries added in this version or earlier (\"latest\" for all)",
  "      --union-types",
  "          Render every alternative of a type list as a union instead of only the first",
  "  -o, --output <OUTPUT>",
  "          Generated file",
  "      --header <HEADER>",
  "          Hand-written header prepended to the generated file",
  "  -v, --verbose...",
  "          Increase log detail (-v debug, -vv trace)",
  "  -q, --quiet",
  "          Only log errors",
  "  -h, --help",
  "          Print help",
  "  -V, --version",
  "          Print version",
  ""]

def versionText : String := "stubgen 0.3.0\n"

namespace Stop

def exitCode : Stop → Nat
  | help | version => 0
  | _ => 2

def stdout : Stop → String
  | help => helpText
  | version => versionText
  | _ => ""

end Stop

-- What a program leaves behind.
structure Exit where
  files : FileTree
  code : Nat
  stdout : String
  log : List Event

def runProgram (arguments : List String) (files : FileTree) (net : Net := .none) : Exit :=
  match Options.read arguments with
  | .error stop => ⟨files, stop.exitCode, stop.stdout, []⟩
  | .ok options =>
    let ⟨files, log, result⟩ := options.run files net
    match result with
    | .ok () => ⟨files, 0, "", options.level.show log⟩
    | .error ⟨context, cause⟩ =>
      ⟨files, 1, "", options.level.show (log ++ [.failed context cause])⟩

end ApiStubs
