/-! The arguments of the program: options, a command, and more options and an input after it. -/
namespace QueryTree.CommandLine

inductive Format where
  | json
  | tree
  | sql
  deriving DecidableEq, Repr

def Format.ofName? : String → Option Format
  | "json" => some .json
  | "tree" => some .tree
  | "sql" => some .sql
  | _ => none

inductive CommandName where
  | compile
  | explain
  | check
  deriving DecidableEq, Repr

def CommandName.ofName? : String → Option CommandName
  | "compile" => some .compile
  | "explain" => some .explain
  | "check" => some .check
  | _ => none

inductive Command where
  | compile (input : String) (format : Format)
  | explain (input : String)
  | check (input : String)
  deriving DecidableEq, Repr

def Command.input : Command → String
  | .compile input _ | .explain input | .check input => input

structure Invocation where
  config : Option String
  strict : Bool
  maxDepth : Option Nat
  honorOperators : Bool
  command : Command
  deriving DecidableEq, Repr

inductive Early where
  | help
  | version
  | misuse
  deriving DecidableEq, Repr

inductive OptionName where
  | config
  | strict
  | maxDepth
  | honorOperators
  | verbose
  | format
  | help
  | version
  deriving DecidableEq, Repr

def OptionName.takesValue : OptionName → Bool
  | .config | .maxDepth | .format => true
  | _ => false

def OptionName.allowed : OptionName → Option CommandName → Bool
  | .format, place => place = some .compile
  | .version, place => place = none
  | _, _ => true

def OptionName.ofLong? : String → Option OptionName
  | "config" => some .config
  | "strict" => some .strict
  | "max-depth" => some .maxDepth
  | "honor-operators" => some .honorOperators
  | "verbose" => some .verbose
  | "format" => some .format
  | "help" => some .help
  | "version" => some .version
  | _ => none

def OptionName.ofShort? : Char → Option OptionName
  | 'v' => some .verbose
  | 'f' => some .format
  | 'h' => some .help
  | 'V' => some .version
  | _ => none

structure Given where
  config : Option String
  strict : Bool
  maxDepth : Option Nat
  honorOperators : Bool
  verbose : Bool
  format : Option Format
  input : Option String
  deriving DecidableEq, Repr

def Given.none : Given := ⟨.none, false, .none, false, false, .none, .none⟩

def natural? (text : String) : Option Nat :=
  let digits := match text.toList with
    | '+' :: rest => rest
    | all => all
  if digits ≠ [] ∧ digits.all Char.isDigit then
    let n := digits.foldl (fun value c => 10 * value + (c.toNat - '0'.toNat)) 0
    if n < UInt64.size then some n else .none
  else .none

def Given.setFlag (g : Given) : OptionName → Except Early Given
  | .strict => if g.strict then .error .misuse else .ok { g with strict := true }
  | .honorOperators =>
    if g.honorOperators then .error .misuse else .ok { g with honorOperators := true }
  | .verbose => if g.verbose then .error .misuse else .ok { g with verbose := true }
  | .help => .error .help
  | .version => .error .version
  | _ => .error .misuse

def Given.setValue (g : Given) (value : String) : OptionName → Except Early Given
  | .config =>
    if g.config.isSome ∨ value = "" then .error .misuse else .ok { g with config := some value }
  | .maxDepth =>
    match g.maxDepth, natural? value with
    | .none, some n => .ok { g with maxDepth := some n }
    | _, _ => .error .misuse
  | .format =>
    match g.format, Format.ofName? value with
    | .none, some format => .ok { g with format := some format }
    | _, _ => .error .misuse
  | _ => .error .misuse

def Given.setInput (g : Given) (input : String) : Except Early Given :=
  if g.input.isSome then .error .misuse else .ok { g with input := some input }

def Given.option (g : Given) (place : Option CommandName) (name? : Option OptionName)
    (attached : Option String) : Except Early (Given × Option OptionName) :=
  match name?, attached with
  | .none, _ => .error .misuse
  | some name, attached =>
    if !name.allowed place then .error .misuse
    else if name.takesValue then
      match attached with
      | some value => do return (← g.setValue value name, .none)
      | .none => .ok (g, some name)
    else
      match attached with
      | some _ => .error .misuse
      | .none => do return (← g.setFlag name, .none)

def Given.shorts (g : Given) (place : Option CommandName) :
    List Char → Except Early (Given × Option OptionName)
  | [] => .ok (g, .none)
  | c :: rest =>
    let name? := OptionName.ofShort? c
    if name?.any OptionName.takesValue then
      match rest with
      | [] => g.option place name? .none
      | '=' :: value => g.option place name? (some (String.ofList value))
      | value => g.option place name? (some (String.ofList value))
    else do
      let (g, _) ← g.option place name? .none
      g.shorts place rest

def Given.long (g : Given) (place : Option CommandName) (text : List Char) :
    Except Early (Given × Option OptionName) :=
  let name := text.takeWhile (· ≠ '=')
  let attached := match text.dropWhile (· ≠ '=') with
    | [] => .none
    | _ :: value => some (String.ofList value)
  g.option place (OptionName.ofLong? (String.ofList name)) attached

def isOption (argument : String) : Bool :=
  match argument.toList with
  | '-' :: _ :: _ => true
  | _ => false

def scan (place : Option CommandName) (g : Given) (waiting : Option OptionName) :
    List String → Except Early (Given × Option (CommandName × List String))
  | [] => if waiting.isSome then .error .misuse else .ok (g, .none)
  | argument :: rest =>
    match waiting with
    | some name =>
      -- what looks like an option is never the value of another one
      if isOption argument then .error .misuse
      else do scan place (← g.setValue argument name) .none rest
    | .none =>
      match argument.toList with
      | ['-', '-'] =>
        match place, rest with
        | .none, _ => .error .misuse
        | some _, [] => .ok (g, .none)
        | some _, [input] => do return (← g.setInput input, .none)
        | some _, _ => .error .misuse
      | '-' :: '-' :: text => do
        let (g, waiting) ← g.long place text
        scan place g waiting rest
      | '-' :: c :: text => do
        let (g, waiting) ← g.shorts place (c :: text)
        scan place g waiting rest
      | _ =>
        match place with
        | some _ => do scan place (← g.setInput argument) .none rest
        | .none =>
          match CommandName.ofName? argument with
          | some command => .ok (g, some (command, rest))
          | .none => if argument = "help" then helpOn rest else .error .misuse
where
  helpOn : List String → Except Early (Given × Option (CommandName × List String))
    | [] => .error .help
    | [name] =>
      if (CommandName.ofName? name).isSome ∨ name = "help" then .error .help else .error .misuse
    | _ => .error .misuse

/-- Reads all arguments. The configuration may also be named by an environment variable; what is
given after the command comes first, then what is given before it. -/
def Invocation.parse (arguments : List String) (environment : Option String) :
    Except Early Invocation := do
  let (before, command?) ← scan .none Given.none .none arguments
  match command? with
  | .none => .error .misuse
  | some (name, rest) =>
    let (after, _) ← scan (some name) Given.none .none rest
    if environment = some "" ∧ ¬(before.config.isSome ∧ after.config.isSome) then .error .misuse
    else
      let input := after.input.getD "-"
      return { config := (after.config <|> before.config) <|> environment
               strict := before.strict || after.strict
               maxDepth := after.maxDepth <|> before.maxDepth
               honorOperators := before.honorOperators || after.honorOperators
               command := match name with
                 | .compile => .compile input (after.format.getD .json)
                 | .explain => .explain input
                 | .check => .check input }

end QueryTree.CommandLine
