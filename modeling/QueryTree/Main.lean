import QueryTree.CommandLine.Run

/-! The program. It looks up what a run may read, and writes what the run makes of it. -/
namespace QueryTree.CommandLine

/-- The fault that an error stands for. Its number may come with its sign changed. -/
def faultOfError : IO.Error → FileFault
  | .inappropriateType _ code _ =>
    if code = 21 ∨ code = 0 - 21 then .isDirectory else .notDirectory
  | .permissionDenied _ _ _ => .denied
  | .userError _ => .notText
  | _ => .missing

structure Entry where
  path : String
  content : Except FileFault String

def Entry.isFile (entry : Entry) : Bool :=
  match entry.content with
  | .ok _ | .error .denied | .error .notText => true
  | .error _ => false

def Host.ofEntries (entries : List Entry) (standardInput : String) (userConfig : Option String) :
    Host where
  fileText path :=
    match entries.find? fun entry => entry.path == path with
    | some entry => entry.content
    | none => .error .missing
  isFile path := entries.any fun entry => entry.path == path && entry.isFile
  standardInput := standardInput
  userConfig := userConfig

def Invocation.paths (run : Invocation) (userConfig : Option String) : List String :=
  localConfig :: userConfig.toList ++ run.config.toList ++ [run.command.input]

def Entry.load (path : String) : BaseIO Entry := do
  match ← (IO.FS.readFile path).toBaseIO with
  | .ok text => return ⟨path, .ok text⟩
  | .error error => return ⟨path, .error (faultOfError error)⟩

def findUserConfig : BaseIO (Option String) := do
  let directory ← IO.getEnv "XDG_CONFIG_HOME"
  let home ← IO.getEnv "HOME"
  let directory := directory.filter (·.startsWith "/") <|> home.map (· ++ "/.config")
  return directory.map (· ++ "/qast/config.toml")

def observe (arguments : List String) (environment : Option String) : IO Host := do
  let userConfig ← findUserConfig
  match Invocation.parse arguments environment with
  | .error _ => return .ofEntries [] "" userConfig
  | .ok run =>
    let entries ← (run.paths userConfig).mapM fun path => Entry.load path
    let input ← if run.command.input = "-" then (← IO.getStdin).readToEnd else pure ""
    return .ofEntries entries input userConfig

end QueryTree.CommandLine

def main (arguments : List String) : IO UInt32 := do
  let environment ← IO.getEnv "QAST_CONFIG"
  let host ← QueryTree.CommandLine.observe arguments environment
  let outcome := host.outcome arguments environment
  IO.print outcome.output
  IO.eprint outcome.errors
  return UInt32.ofNat outcome.code
