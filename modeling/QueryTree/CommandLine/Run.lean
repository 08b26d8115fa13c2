import QueryTree.CommandLine.Arguments
import QueryTree.Config.Toml
import QueryTree.Pass
import QueryTree.Query.Json
import QueryTree.Statement.Json
import QueryTree.Statement.Outline

/-! A run of the program, as a function of what it can see of its surroundings. -/
namespace QueryTree.CommandLine

structure Host where
  fileText : String → Except FileFault String
  isFile : String → Bool
  standardInput : String
  userConfig : Option String

inductive RunError where
  | config (error : ConfigError)
  | zeroDepth
  | unreadable (input : String) (fault : FileFault)
  | undecodable (input : String) (refusal : Json.Refusal)
  | compile (error : CompileError)
  | format (error : FormatError)
  deriving Repr

/- Of these messages only the part up to the colon is fixed; what follows is this library's own
wording. -/
def refusalMessage : Json.Refusal → String
  | .fault .truncated => "JSON error: the text ends inside a value"
  | .fault .malformed => "JSON error: the text is malformed"
  | .mismatch m => "JSON error: " ++ m.message

def RunError.message : RunError → String
  | .config error => error.message
  | .zeroDepth => "--max-depth must be at least 1"
  | .unreadable input fault => "Failed to read " ++ input ++ ": " ++ fault.message
  | .undecodable input refusal =>
    "Invalid query description in " ++ input ++ ": " ++ refusalMessage refusal
  | .compile error => error.message
  | .format error => error.message

def localConfig : String := "qast.toml"

def loadConfig (host : Host) (path : String) : Except ConfigError Config :=
  match host.fileText path with
  | .ok text => Config.ofToml text
  | .error fault => .error (.unreadable path fault)

def Host.searchPaths (host : Host) : List String := localConfig :: host.userConfig.toList

def Host.baseConfig (host : Host) (asked : Option String) : Except ConfigError Config :=
  match asked with
  | some path => loadConfig host path
  | none =>
    match host.searchPaths.find? host.isFile with
    | some path => loadConfig host path
    | none => .ok Config.standard

def Host.effectiveConfig (host : Host) (run : Invocation) : Except RunError Config := do
  let base ← (host.baseConfig run.config).mapError RunError.config
  let config : Config :=
    { base with
      strictFieldRefs := base.strictFieldRefs || run.strict
      honorConditionOperators := base.honorConditionOperators || run.honorOperators }
  match run.maxDepth with
  | none => return config
  | some 0 => .error .zeroDepth
  | some depth => return { config with maxFilterDepth := depth }

def Host.readInput (host : Host) (input : String) : Except RunError String :=
  if input = "-" then .ok host.standardInput
  else (host.fileText input).mapError (RunError.unreadable input)

def Host.readQuery (host : Host) (input : String) : Except RunError Query := do
  let text ← host.readInput input
  (Query.ofText text).mapError (RunError.undecodable input)

/-- A run writes as it goes, and what it has written stays when it fails. -/
abbrev Session := ExceptT RunError (StateM String)

def print (text : String) : Session Unit := modify fun written => written ++ text

def Format.render (s : Statement) : Format → Except FormatError String
  | .json => .ok (s.toJson.pretty ++ "\n")
  | .tree => s.format
  | .sql => .ok (s.text ++ "\n")

def summary (q : Query) : List String :=
  ["Query Explanation\n\n", "  Target: " ++ q.target ++ "\n"] ++
    (if q.fields.isEmpty then [] else ["  Fields: " ++ ", ".intercalate q.fields ++ "\n"]) ++
    (if q.joins.isEmpty then [] else ["  Joins: " ++ toString q.joins.length ++ "\n"]) ++
    (q.filter.map fun filter =>
      "  Filter: " ++ toString filter.countConditions ++ " condition(s)\n").toList ++
    ["\nAST:\n"]

def rendering (outline : String) (s : Statement) : List String :=
  (Text.lines outline.toList).map (fun line => "  " ++ String.ofList line ++ "\n") ++
    ["\nRendered:\n", "  " ++ s.text ++ "\n"]

def writeExplanation (q : Query) (s : Statement) : Session Unit := do
  (summary q).forM print
  let outline ← s.format.mapError RunError.format
  (rendering outline s).forM print

def Command.perform (config : Config) (q : Query) : Command → Session Unit
  | .compile _ format => do
    let s ← (Compiler.build ⟨config, .identity⟩ q).mapError RunError.compile
    print (← (format.render s).mapError RunError.format)
  | .explain _ => do
    let s ← (Compiler.build ⟨config, .identity⟩ q).mapError RunError.compile
    writeExplanation q s
  | .check _ => do
    q.checkReferences.mapError RunError.compile
    print "✓ all field references are valid\n"

def Host.run (host : Host) (run : Invocation) : Session Unit := do
  let config ← host.effectiveConfig run
  let q ← host.readQuery run.command.input
  run.command.perform config q

structure Outcome where
  code : Nat
  output : String
  errors : String
  deriving DecidableEq, Repr

def usage : String :=
  "Usage: qast [OPTIONS] <compile|explain|check> [INPUT]\n\n" ++
  "Options:\n" ++
  "      --config <CONFIG>        Config file\n" ++
  "      --strict                 Reject malformed field references\n" ++
  "      --max-depth <MAX_DEPTH>  Maximum filter nesting depth\n" ++
  "      --honor-operators        Compile conditions with their declared operators\n" ++
  "  -f, --format <FORMAT>        Output of compile: json, tree or sql\n" ++
  "  -v, --verbose                Verbose output\n" ++
  "  -h, --help                   Print help\n" ++
  "  -V, --version                Print version\n"

def version : String := "qast 0.3.0\n"

def Host.outcome (host : Host) (arguments : List String) (environment : Option String) : Outcome :=
  match Invocation.parse arguments environment with
  | .error .help => ⟨0, usage, ""⟩
  | .error .version => ⟨0, version, ""⟩
  | .error .misuse => ⟨2, "", usage⟩
  | .ok run =>
    match (host.run run).run.run "" with
    | (.ok (), output) => ⟨0, output, ""⟩
    | (.error error, output) => ⟨1, output, "Error: " ++ error.message ++ "\n"⟩

end QueryTree.CommandLine
